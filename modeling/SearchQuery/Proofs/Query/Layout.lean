import Mathlib.Data.List.Chain
import SearchQuery.Proofs.Query.Canonical
import SearchQuery.Proofs.Query.Pieces

/-!
# How pieces lie side by side

In a text that is written each piece fits what comes behind it, `Grammar.Derivation.laid`: behind a
term, a word or a number comes a blank, a modifier or the end of a group or range, and behind a sign
no blank. Where every piece is legible the lexer therefore reads the text as its tokens,
`Piece.lexes`, if only a lone sign has a blank or nothing behind it. A lone sign in front of
anything else is read as a sign, with the closing piece behind it, `Piece.apart_or_touches`.
-/

namespace SearchQuery

namespace Piece

/-- Whether the piece may come behind a value: a blank, a modifier, or what ends a group or a
range. -/
def closes : Piece → Bool
  | blank => true
  | token .rightParen => true
  | token .rightBracket => true
  | token .rightBrace => true
  | token (.boost _) => true
  | token (.proximity _) => true
  | _ => false

def Fits (piece next : Piece) : Prop :=
  match piece with
  | blank | token .leftParen | token .leftBracket | token .leftBrace | token (.field _) => True
  | token .plus | token .minus => next ≠ blank
  | _ => next.closes = true

/-- Pieces that may come behind a value, each one fitting the next. -/
structure Ends (pieces : List Piece) : Prop where
  fits : pieces.IsChain Fits
  closes : ∀ p ∈ pieces.head?, p.closes = true

/-- Pieces that may come behind a sign, each one fitting the next. -/
structure Starts (pieces : List Piece) : Prop where
  fits : pieces.IsChain Fits
  ne_blank : ∀ p ∈ pieces.head?, p ≠ blank

variable {p : Piece} {pieces : List Piece}

theorem Ends.cons (h : Ends pieces) (hp : p.closes = true)
    (hfits : ∀ next, next.closes = true → p.Fits next) : Ends (p :: pieces) :=
  ⟨h.fits.cons fun next hnext => hfits next (h.closes next hnext), by simpa using hp⟩

theorem Starts.cons (h : Starts pieces) (hp : p ≠ blank)
    (hfits : ∀ next, next ≠ blank → p.Fits next) : Starts (p :: pieces) :=
  ⟨h.fits.cons fun next hnext => hfits next (h.ne_blank next hnext), by simpa using hp⟩

theorem Ends.value (h : Ends pieces) (hp : p ≠ blank)
    (hfits : ∀ next, next.closes = true → p.Fits next) : Starts (p :: pieces) :=
  ⟨h.fits.cons fun next hnext => hfits next (h.closes next hnext), by simpa using hp⟩

theorem Starts.ends_blank (h : Starts pieces) : Ends (blank :: pieces) :=
  ⟨h.fits.cons fun _ _ => trivial, by simp [closes]⟩

end Piece

namespace Attributes

open Piece

variable {pieces : List Piece}

theorem ends_closingPieces (a : Attributes) (h : Ends pieces) :
    Ends (a.closingPieces ++ pieces) := by
  have hboost : Ends ((a.boost.map fun value => token (.boost value)).toList ++ pieces) := by
    cases a.boost with
    | none => exact h
    | some value => exact h.cons rfl fun _ hnext => hnext
  rw [closingPieces, List.append_assoc]
  cases a.proximity with
  | none => exact hboost
  | some value => exact hboost.cons rfl fun _ hnext => hnext

theorem starts_fieldPieces (a : Attributes) (h : Starts pieces) :
    Starts (a.fieldPieces ++ pieces) := by
  rw [fieldPieces]
  cases a.fieldName? with
  | none => exact h
  | some field => exact h.cons (by simp) fun _ _ => trivial

theorem starts_openingPieces (a : Attributes) (h : Starts pieces) :
    Starts (a.openingPieces ++ pieces) := by
  have hnegation :
      Starts ((if a.negation.isNegated then [.token .not, .blank] else []) ++ pieces) := by
    split
    · exact h.ends_blank.value (by simp) fun _ hnext => hnext
    · exact h
  rw [openingPieces, List.append_assoc]
  rcases a.sign with - | - | -
  · exact hnegation
  · exact hnegation.cons (by simp [Sign.token]) fun _ hnext => hnext
  · exact hnegation.cons (by simp [Sign.token]) fun _ hnext => hnext

end Attributes

namespace Grammar

open Piece

def Derivation.Laid : {s : Symbol} → Derivation s → Prop
  | .clauses, d => ∀ rest, Ends rest → (d.pieces ++ rest).IsChain Fits
  | .rest, d => ∀ rest, Ends rest → Ends (d.pieces ++ rest)
  | .clause, d => ∀ rest, Ends rest → Starts (d.pieces ++ rest)
  | .value, d => ∀ rest, Ends rest → Starts (d.pieces ++ rest)

theorem Derivation.laid {s : Symbol} (d : Derivation s) : d.Laid := by
  induction d with
  | nothing => exact fun rest hrest => hrest.fits
  | first c more ihc ihmore =>
      intro rest hrest
      rw [pieces, List.append_assoc]
      exact (ihc _ (ihmore rest hrest)).fits
  | done => exact fun rest hrest => hrest
  | next operator c more ihc ihmore =>
      intro rest hrest
      have hclause := ihc _ (ihmore rest hrest)
      have hoperator : Starts (operator.pieces ++ (c.pieces ++ (more.pieces ++ rest))) := by
        cases operator with
        | default => exact hclause
        | and => exact hclause.ends_blank.value (by simp) fun _ hnext => hnext
        | or => exact hclause.ends_blank.value (by simp) fun _ hnext => hnext
      simp only [pieces, List.append_assoc, List.cons_append]
      exact hoperator.ends_blank
  | clause marks field v modifiers ih =>
      intro rest hrest
      simp only [pieces, List.append_assoc]
      exact Attributes.starts_openingPieces _ (Attributes.starts_fieldPieces _
        (ih _ (Attributes.ends_closingPieces _ hrest)))
  | group cs ih =>
      intro rest hrest
      have hright : Ends (token .rightParen :: rest) := hrest.cons rfl fun _ hnext => hnext
      simp only [pieces, List.append_assoc, List.cons_append, List.nil_append]
      exact ⟨(ih _ hright).cons fun _ _ => trivial, by simp⟩
  | term text => exact fun rest hrest => hrest.value (by simp) fun _ hnext => hnext
  | quoted text => exact fun rest hrest => hrest.value (by simp) fun _ hnext => hnext
  | pattern text => exact fun rest hrest => hrest.value (by simp) fun _ hnext => hnext
  | range fromMin min max toMax =>
      intro rest hrest
      have hright : Ends (token (if toMax then .rightBracket else .rightBrace) :: rest) := by
        cases toMax with
        | true => exact hrest.cons rfl fun _ hnext => hnext
        | false => exact hrest.cons rfl fun _ hnext => hnext
      have hmax : Starts (bound max.text ::
          token (if toMax then .rightBracket else .rightBrace) :: rest) :=
        hright.value (by simp) fun _ hnext => hnext
      have hword : Starts (token (.term "TO") :: blank :: bound max.text ::
          token (if toMax then .rightBracket else .rightBrace) :: rest) :=
        hmax.ends_blank.value (by simp) fun _ hnext => hnext
      have hmin : Starts (bound min.text :: blank :: token (.term "TO") :: blank ::
          bound max.text :: token (if toMax then .rightBracket else .rightBrace) :: rest) :=
        hword.ends_blank.value (by simp) fun _ hnext => hnext
      cases fromMin with
      | true => exact hmin.cons (by simp) fun _ _ => trivial
      | false => exact hmin.cons (by simp) fun _ _ => trivial

end Grammar

namespace Token

theorem scan_sign {token : Token} (h : token.IsLoneSign) {rest : List Char}
    (hrest : bindsTo rest = true) :
    ∃ c sign, token.chars = [c] ∧ Text.isBlank c = false ∧ scan c rest = .ok (sign, 1) ∧
      sign ∈ [plus, minus] := by
  rcases h with rfl | rfl
  · exact ⟨'+', plus, rfl, by decide, if_pos hrest, by simp⟩
  · exact ⟨'-', minus, rfl, by decide, if_pos hrest, by simp⟩

theorem bindsTo_of_isLoneSign {token : Token} (h : token.IsLoneSign) (rest : List Char) :
    bindsTo (token.chars ++ rest) = true := by
  rcases h with rfl | rfl <;> rfl

end Token

namespace Piece

def IsLoneSign (p : Piece) : Prop :=
  ∃ t ∈ p.token?, t.IsLoneSign

instance (p : Piece) : Decidable p.IsLoneSign :=
  inferInstanceAs (Decidable (∃ t ∈ p.token?, t.IsLoneSign))

def Legible (p : Piece) : Prop :=
  ∀ t ∈ p.token?, t.Lexical ∨ t.IsLoneSign

def Apart (pieces : List Piece) : Prop :=
  pieces.IsChain fun p next => p.IsLoneSign → next = blank

instance (pieces : List Piece) : Decidable (Apart pieces) :=
  inferInstanceAs (Decidable (pieces.IsChain _))

def Fitting (pieces : List Piece) : Prop :=
  (pieces ++ [blank]).IsChain Fits

variable {p : Piece} {pieces : List Piece}

theorem eq_blank_or_exists (p : Piece) : p = blank ∨ ∃ t, p.token? = some t := by
  cases p with
  | blank => exact .inl rfl
  | token t => exact .inr ⟨t, rfl⟩
  | bound text => exact .inr ⟨.term text, rfl⟩

theorem not_isLoneSign_blank : ¬ blank.IsLoneSign := by
  rintro ⟨t, ht, -⟩
  cases ht

theorem chars_eq {t : Token} (h : p.token? = some t) : p.chars = t.chars := by
  cases p with
  | blank => cases h
  | token t' =>
      obtain rfl := Option.some.inj h
      rfl
  | bound text =>
      obtain rfl := Option.some.inj h
      rfl

theorem mayFollow_of_closes (h : ∀ p ∈ (pieces ++ [blank]).head?, p.closes = true) :
    MayFollow (pieces.flatMap chars) := by
  cases pieces with
  | nil => simp [MayFollow]
  | cons p pieces =>
      have hp : p.closes = true := h p rfl
      cases p with
      | blank => simp [MayFollow, chars]
      | bound text => cases hp
      | token t =>
          cases t with
          | rightParen | rightBracket | rightBrace | boost | proximity =>
              simp [MayFollow, chars, Token.chars]
          | _ => simp [closes] at hp

theorem bindsTo_of_ne_blank (h : ∀ p ∈ (pieces ++ [blank]).head?, p ≠ blank)
    (hlegible : ∀ p ∈ pieces, p.Legible) : Token.bindsTo (pieces.flatMap chars) = true := by
  cases pieces with
  | nil => simp at h
  | cons p pieces =>
      obtain ⟨t, ht⟩ := p.eq_blank_or_exists.resolve_left (h p rfl)
      rw [List.flatMap_cons, chars_eq ht]
      rcases hlegible p (by simp) t ht with hlexical | hsign
      · exact Token.bindsTo_chars hlexical _
      · exact Token.bindsTo_of_isLoneSign hsign _

theorem allows {t : Token} (ht : p.token? = some t)
    (hfits : ∀ next ∈ (pieces ++ [blank]).head?, p.Fits next) (hlegible : ∀ p ∈ pieces, p.Legible) :
    t.Allows (pieces.flatMap chars) := by
  by_cases hsign : t ∈ [.plus, .minus]
  · have hbinds : Token.bindsTo (pieces.flatMap chars) = true := by
      refine bindsTo_of_ne_blank (fun next hnext => ?_) hlegible
      cases p with
      | blank => cases ht
      | bound text =>
          obtain rfl := Option.some.inj ht
          simp at hsign
      | token t' =>
          obtain rfl := Option.some.inj ht
          simp only [List.mem_cons, List.not_mem_nil, or_false] at hsign
          rcases hsign with rfl | rfl <;> exact hfits next hnext
    simp only [List.mem_cons, List.not_mem_nil, or_false] at hsign
    rcases hsign with rfl | rfl <;> exact hbinds
  · have hcloses : (∀ next ∈ (pieces ++ [blank]).head?, next.closes = true) →
        t.Allows (pieces.flatMap chars) := fun h =>
      Token.allows_of_mayFollow hsign (mayFollow_of_closes h)
    cases p with
    | blank => cases ht
    | bound text => exact hcloses hfits
    | token t' =>
        obtain rfl := Option.some.inj ht
        cases t' with
        | plus | minus => simp at hsign
        | term | boost | proximity | and | or | not => exact hcloses hfits
        | _ => trivial

/-- In a legible text a lone sign has a blank behind it where it does not bind to what is there. -/
theorem apart_cons_iff (hlegible : ∀ p ∈ pieces, p.Legible) :
    Apart (p :: pieces) ↔
      (p.IsLoneSign → Token.bindsTo (pieces.flatMap chars) = false) ∧ Apart pieces := by
  refine List.isChain_cons.trans (and_congr_left fun _ => ?_)
  cases pieces with
  | nil => simp [Token.bindsTo]
  | cons next pieces =>
      constructor
      · intro h hlone
        obtain rfl := h next rfl hlone
        simp [chars, Token.bindsTo, Text.isBlank_space]
      · intro h q hq hlone
        obtain rfl := Option.some.inj hq
        by_contra hne
        have hbinds : Token.bindsTo ((next :: pieces).flatMap chars) = true := by
          refine bindsTo_of_ne_blank (fun q hq => ?_) hlegible
          obtain rfl := Option.some.inj hq
          exact hne
        rw [h hlone] at hbinds
        cases hbinds

theorem exists_scan {t : Token} (ht : p.token? = some t)
    (hread : t.Lexical ∨ t.IsLoneSign ∧ Token.bindsTo (pieces.flatMap chars) = false)
    (hfits : ∀ next ∈ (pieces ++ [blank]).head?, p.Fits next) (hlegible : ∀ p ∈ pieces, p.Legible) :
    ∃ c cs, p.chars = c :: cs ∧ Text.isBlank c = false ∧
      Token.scan c (cs ++ pieces.flatMap chars) = .ok (t, cs.length + 1) := by
  rw [chars_eq ht]
  rcases hread with hlexical | ⟨hlone, hblank⟩
  · exact Token.scan_chars hlexical (allows ht hfits hlegible)
  · obtain ⟨c, hchars, hc, hscan⟩ := Token.scan_loneSign hlone hblank
    exact ⟨c, [], hchars, hc, hscan⟩

/-- A legible text whose lone signs have blanks behind them is read as its tokens. -/
theorem lexes (hfits : Fitting pieces) (hlegible : ∀ p ∈ pieces, p.Legible)
    (hapart : Apart pieces) : Lexes (pieces.flatMap chars) (pieces.filterMap token?) := by
  induction pieces with
  | nil => exact .nil
  | cons p pieces ih =>
      have hrest : ∀ p ∈ pieces, p.Legible := fun p hp => hlegible p (.tail _ hp)
      obtain ⟨hnext, hfits⟩ := List.isChain_cons.1 hfits
      obtain ⟨hsign, hapart⟩ := (apart_cons_iff hrest).1 hapart
      have hlexes := ih hfits hrest hapart
      rcases p.eq_blank_or_exists with rfl | ⟨t, ht⟩
      · exact .blank Text.isBlank_space hlexes
      · have hread := (hlegible p (by simp) t ht).imp_right fun hlone =>
          And.intro hlone (hsign ⟨t, ht, hlone⟩)
        obtain ⟨c, cs, hchars, hc, hscan⟩ := exists_scan ht hread hnext hrest
        rw [List.flatMap_cons, List.filterMap_cons_some ht, hchars, List.cons_append]
        refine .of_scan hc hscan ?_
        rwa [Nat.add_sub_cancel, List.drop_left]

theorem ofChars_blank (position : Nat) :
    Lexing.ofChars position ((blank :: pieces).flatMap chars) =
      Lexing.ofChars (position + 1) (pieces.flatMap chars) := by
  rw [List.flatMap_cons, chars, List.singleton_append, Lexing.ofChars, if_pos Text.isBlank_space]

theorem exists_ofChars_cons {t : Token} (ht : p.token? = some t)
    (hread : t.Lexical ∨ t.IsLoneSign ∧ Token.bindsTo (pieces.flatMap chars) = false)
    (hfits : ∀ next ∈ (pieces ++ [blank]).head?, p.Fits next) (hlegible : ∀ p ∈ pieces, p.Legible)
    (position : Nat) :
    ∃ position', (Lexing.ofChars position ((p :: pieces).flatMap chars)).fault? =
        (Lexing.ofChars position' (pieces.flatMap chars)).fault? ∧
      (Lexing.ofChars position ((p :: pieces).flatMap chars)).lexemes.map (·.token) =
        t :: (Lexing.ofChars position' (pieces.flatMap chars)).lexemes.map (·.token) := by
  obtain ⟨c, cs, hchars, hc, hscan⟩ := exists_scan ht hread hfits hlegible
  refine ⟨position + (cs.length + 1), ?_⟩
  rw [List.flatMap_cons, hchars, List.cons_append, Lexing.ofChars_of_scan hc hscan,
    Nat.add_sub_cancel, List.drop_left]
  exact ⟨rfl, List.map_cons⟩

theorem closes_of_fits {t : Token} (ht : p.token? = some t) (h : t.IsLoneSign) {next : Piece}
    (hfits : p.Fits next) : next.closes = true := by
  cases p with
  | blank => cases ht
  | bound text => exact hfits
  | token t' =>
      obtain rfl := Option.some.inj ht
      rcases h with rfl | rfl <;> exact hfits

theorem eq_token_of_closes {t : Token} (ht : p.token? = some t) (h : p.closes = true) :
    p = token t ∧ ¬ t.IsLoneSign := by
  cases p with
  | blank => cases ht
  | bound text => cases h
  | token t' =>
      obtain rfl := Option.some.inj ht
      refine ⟨rfl, ?_⟩
      rintro (rfl | rfl) <;> cases h

/-- A lone sign that binds to what is behind it is read as a sign, and behind it comes the end of a
value. -/
theorem exists_sign_cons {t : Token} (ht : p.token? = some t) (hlone : t.IsLoneSign)
    (hbinds : Token.bindsTo (pieces.flatMap chars) = true) (hfits : Fitting (p :: pieces))
    (hlegible : ∀ p ∈ pieces, p.Legible) (position : Nat) :
    ∃ sign closer after,
      (Lexing.ofChars position ((p :: pieces).flatMap chars)).lexemes.map (·.token) =
        sign :: closer :: after ∧ sign ∈ [Token.plus, .minus] ∧ (token closer).closes = true := by
  cases pieces with
  | nil => cases hbinds
  | cons next pieces =>
      obtain ⟨hnext, hfits⟩ := List.isChain_cons.1 hfits
      have hcloses := closes_of_fits ht hlone (hnext next rfl)
      rcases next.eq_blank_or_exists with rfl | ⟨closer, hcloser⟩
      · simp [chars, Token.bindsTo, Text.isBlank_space] at hbinds
      · obtain ⟨rfl, hnot⟩ := eq_token_of_closes hcloser hcloses
        have hlexical := (hlegible (token closer) (by simp) closer rfl).resolve_right hnot
        obtain ⟨c, sign, hchars, hc, hscan, hsign⟩ := Token.scan_sign hlone hbinds
        obtain ⟨position', -, htokens⟩ := exists_ofChars_cons hcloser (.inl hlexical)
          (List.isChain_cons.1 hfits).1 (fun p hp => hlegible p (.tail _ hp)) (position + 1)
        have hread : (Lexing.ofChars position
              ((p :: token closer :: pieces).flatMap chars)).lexemes.map (·.token) =
            sign :: (Lexing.ofChars (position + 1)
              ((token closer :: pieces).flatMap chars)).lexemes.map (·.token) := by
          rw [List.flatMap_cons, chars_eq ht, hchars, List.singleton_append,
            Lexing.ofChars_of_scan hc hscan]
          rfl
        rw [htokens] at hread
        exact ⟨sign, closer, _, hread, hsign, hcloses⟩

/-- In a legible text that is read without a fault every lone sign has a blank behind it, or one is
read as a sign with the end of a value behind it. -/
theorem apart_or_touches (hfits : Fitting pieces) (hlegible : ∀ p ∈ pieces, p.Legible)
    (position : Nat) (hfault : (Lexing.ofChars position (pieces.flatMap chars)).fault? = none) :
    Apart pieces ∨ ∃ before sign closer after,
      (Lexing.ofChars position (pieces.flatMap chars)).lexemes.map (·.token) =
        before ++ sign :: closer :: after ∧ sign ∈ [Token.plus, .minus] ∧
          (token closer).closes = true := by
  induction pieces generalizing position with
  | nil => exact .inl .nil
  | cons p pieces ih =>
      have hrest : ∀ p ∈ pieces, p.Legible := fun p hp => hlegible p (.tail _ hp)
      obtain ⟨hnext, htail⟩ := List.isChain_cons.1 hfits
      rcases p.eq_blank_or_exists with rfl | ⟨t, ht⟩
      · rw [ofChars_blank] at hfault ⊢
        exact (ih htail hrest _ hfault).imp_left fun hapart =>
          (apart_cons_iff hrest).2 ⟨fun hlone => absurd hlone not_isLoneSign_blank, hapart⟩
      · by_cases htouches : t.IsLoneSign ∧ Token.bindsTo (pieces.flatMap chars) = true
        · obtain ⟨hlone, hbinds⟩ := htouches
          obtain ⟨sign, closer, after, htokens, hsign⟩ :=
            exists_sign_cons ht hlone hbinds hfits hrest position
          exact .inr ⟨[], sign, closer, after, htokens, hsign⟩
        · have hblank : t.IsLoneSign → Token.bindsTo (pieces.flatMap chars) = false :=
            fun hlone => by simpa [hlone] using htouches
          obtain ⟨position', hsame, htokens⟩ := exists_ofChars_cons ht
            ((hlegible p (by simp) t ht).imp_right fun hlone => ⟨hlone, hblank hlone⟩)
            hnext hrest position
          rw [htokens]
          rcases ih htail hrest position' (hsame ▸ hfault) with hapart | hsign
          · refine .inl ((apart_cons_iff hrest).2 ⟨?_, hapart⟩)
            rintro ⟨t', ht', hlone⟩
            obtain rfl := Option.some.inj (ht.symm.trans ht')
            exact hblank hlone
          · obtain ⟨before, sign, closer, after, htokens', hsign⟩ := hsign
            refine .inr ⟨t :: before, sign, closer, after, ?_, hsign⟩
            rw [htokens']
            rfl

end Piece

end SearchQuery
