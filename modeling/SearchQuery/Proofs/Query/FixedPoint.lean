import SearchQuery.Proofs.Query.Acceptance
import SearchQuery.Proofs.Query.Layout
import SearchQuery.Proofs.Token.Scanning

/-!
# The canonical text is a fixed point

The text that a query is written as is derived by the grammar again: `Derivation.canonical` keeps of
a clause the marks and modifiers that count and drops the quotes of bounds, and writing it changes
nothing more, `Derivation.pieces_canonical`. So what is read from a canonical text is written the
same way, if the tokens are read that were meant.

Two things can stand in the way. A quoted bound without its quotes need not be a term, and a lone
sign without the blank behind it is a sign. `Store.render_fixed_iff` says that where quoted bounds
are legible without their quotes only such signs do.
-/

namespace SearchQuery

namespace Piece

/-- Whether the piece says a token of the list, or a word or mark of the grammar. A bound says a term
or a phrase. -/
def ComesFrom (tokens : List Token) : Piece → Prop
  | blank => True
  | token t => t ∈ tokens ∨ t.Lexical
  | bound text => .term text ∈ tokens ∨ .quoted text ∈ tokens

theorem ComesFrom.mono {tokens tokens' : List Token} {p : Piece} (h : p.ComesFrom tokens)
    (hsubset : tokens ⊆ tokens') : p.ComesFrom tokens' := by
  cases p with
  | blank => trivial
  | token t => exact h.imp_left fun ht => hsubset ht
  | bound text => exact h.imp (fun ht => hsubset ht) fun ht => hsubset ht

end Piece

namespace Attributes

open Grammar

def marks (a : Attributes) : List Mark :=
  (a.sign.map fun | .must => Mark.plus | .mustNot => Mark.minus).toList ++
    if a.negation.isNegated then [.not] else []

def modifiers (a : Attributes) : List Modifier :=
  (a.proximity.map .proximity).toList ++ (a.boost.map .boost).toList

theorem pieces_said (a : Attributes) :
    (said a.marks a.fieldName? a.modifiers).openingPieces = a.openingPieces ∧
      (said a.marks a.fieldName? a.modifiers).fieldPieces = a.fieldPieces ∧
      (said a.marks a.fieldName? a.modifiers).closingPieces = a.closingPieces := by
  obtain ⟨field, negation, sign, boost, proximity⟩ := a
  refine ⟨?_, ?_, ?_⟩
  · cases negation <;> rcases sign with - | - | - <;> rfl
  · simp [fieldPieces, fieldName?, said, Option.filter_filter]
  · cases boost <;> cases proximity <;> rfl

end Attributes

namespace Grammar

namespace Derivation

/-- The derivation that is written the same way and has as few tokens as that takes. -/
def canonical {s : Symbol} : Derivation s → Derivation s
  | nothing => nothing
  | first c more => first c.canonical more.canonical
  | done => done
  | next operator c more => next operator c.canonical more.canonical
  | clause marks field v modifiers =>
      clause (said marks field modifiers).marks (said marks field modifiers).fieldName? v.canonical
        (said marks field modifiers).modifiers
  | group cs => group cs.canonical
  | term text => term text
  | quoted text => quoted text
  | pattern text => pattern text
  | range fromMin min max toMax => range fromMin (.term min.text) (.term max.text) toMax

theorem pieces_canonical {s : Symbol} (d : Derivation s) : d.canonical.pieces = d.pieces := by
  induction d with
  | nothing => rfl
  | first c more ihc ihmore => rw [canonical, pieces, pieces, ihc, ihmore]
  | done => rfl
  | next operator c more ihc ihmore => rw [canonical, pieces, pieces, ihc, ihmore]
  | clause marks field v modifiers ih =>
      obtain ⟨hopening, hfield, hclosing⟩ := (said marks field modifiers).pieces_said
      rw [canonical, pieces, pieces, ih, hopening, hfield, hclosing]
  | group cs ih => rw [canonical, pieces, pieces, ih]
  | term | quoted | pattern | range => rfl

theorem filterMap_openingPieces (a : Attributes) :
    a.openingPieces.filterMap Piece.token? = a.marks.map Mark.token := by
  rw [Attributes.openingPieces, Attributes.marks]
  rcases a.sign with - | - | - <;> split <;> rfl

theorem filterMap_fieldPieces (a : Attributes) :
    a.fieldPieces.filterMap Piece.token? = (a.fieldName?.map Token.field).toList := by
  rw [Attributes.fieldPieces]
  cases a.fieldName? <;> rfl

theorem filterMap_closingPieces (a : Attributes) :
    a.closingPieces.filterMap Piece.token? = a.modifiers.map Modifier.token := by
  rw [Attributes.closingPieces, Attributes.modifiers]
  cases a.proximity <;> cases a.boost <;> rfl

/-- What is written is meant to be read as the tokens of the canonical derivation. -/
theorem tokens_canonical {s : Symbol} (d : Derivation s) :
    d.canonical.tokens = d.pieces.filterMap Piece.token? := by
  induction d with
  | nothing => rfl
  | first c more ihc ihmore => rw [canonical, tokens, pieces, List.filterMap_append, ihc, ihmore]
  | done => rfl
  | next operator c more ihc ihmore =>
      have hoperator : operator.pieces.filterMap Piece.token? = operator.tokens := by
        cases operator <;> rfl
      rw [canonical, tokens, pieces, List.filterMap_cons_none rfl, List.filterMap_append,
        List.filterMap_append, ihc, ihmore, hoperator]
  | clause marks field v modifiers ih =>
      rw [canonical, tokens, pieces, List.filterMap_append, List.filterMap_append,
        List.filterMap_append, filterMap_openingPieces, filterMap_fieldPieces,
        filterMap_closingPieces, ih]
  | group cs ih =>
      have hleft : Piece.token? (.token .leftParen) = some .leftParen := rfl
      rw [canonical, tokens, pieces, List.filterMap_cons_some hleft, List.filterMap_append, ih]
      rfl
  | term | quoted | pattern => rfl
  | range fromMin min max toMax => rfl

/-- What a clause opens with is a sign, a negation or the blank behind it. -/
theorem comesFrom_of_mem_openingPieces {a : Attributes} {p : Piece} (hp : p ∈ a.openingPieces)
    (tokens : List Token) : p.ComesFrom tokens := by
  rcases List.mem_append.1 hp with hp | hp
  · rw [Option.mem_toList, Option.map_eq_some_iff] at hp
    obtain ⟨sign, -, rfl⟩ := hp
    cases sign <;> exact .inr trivial
  · split at hp
    · simp only [List.mem_cons, List.not_mem_nil, or_false] at hp
      rcases hp with rfl | rfl
      · exact .inr trivial
      · trivial
    · cases hp

theorem comesFrom_of_mem_fieldPieces {marks : List Mark} {field : Option String}
    {modifiers : List Modifier} {p : Piece} (hp : p ∈ (said marks field modifiers).fieldPieces) :
    p.ComesFrom (field.map Token.field).toList := by
  rw [Attributes.fieldPieces, Option.mem_toList, Option.map_eq_some_iff] at hp
  obtain ⟨name, hname, rfl⟩ := hp
  obtain rfl : field = some name := (Option.filter_eq_some_iff.1 hname).1
  exact .inl (by simp)

theorem comesFrom_of_mem_closingPieces {marks : List Mark} {field : Option String}
    {modifiers : List Modifier} {p : Piece}
    (hp : p ∈ (said marks field modifiers).closingPieces) :
    p.ComesFrom (modifiers.map Modifier.token) := by
  have hlast : ∀ (f : Modifier → Option String) (write : String → Token),
      (∀ modifier value, f modifier = some value → write value = modifier.token) →
      p ∈ ((modifiers.filterMap f).getLast?.map fun value => Piece.token (write value)).toList →
      p.ComesFrom (modifiers.map Modifier.token) := by
    intro f write hwrite hmem
    rw [Option.mem_toList, Option.map_eq_some_iff] at hmem
    obtain ⟨value, hvalue, rfl⟩ := hmem
    obtain ⟨modifier, hmodifier, hf⟩ := List.mem_filterMap.1 (List.mem_of_getLast? hvalue)
    rw [hwrite modifier value hf]
    exact .inl (List.mem_map_of_mem hmodifier)
  rcases List.mem_append.1 hp with hp | hp
  · refine hlast Modifier.proximity? Token.proximity (fun modifier value h => ?_) hp
    cases modifier with
    | boost => cases h
    | proximity value => exact congrArg Token.proximity (Option.some.inj h).symm
  · refine hlast Modifier.boost? Token.boost (fun modifier value h => ?_) hp
    cases modifier with
    | proximity => cases h
    | boost value => exact congrArg Token.boost (Option.some.inj h).symm

/-- Every piece that is written was read, or is a word or mark of the grammar. -/
theorem comesFrom_of_mem_pieces {s : Symbol} (d : Derivation s) {p : Piece} (hp : p ∈ d.pieces) :
    p.ComesFrom d.tokens := by
  induction d with
  | nothing => cases hp
  | first c more ihc ihmore =>
      rcases List.mem_append.1 hp with hp | hp
      · exact (ihc hp).mono (by simp [tokens])
      · exact (ihmore hp).mono (by simp [tokens])
  | done => cases hp
  | next operator c more ihc ihmore =>
      simp only [pieces, List.mem_cons, List.mem_append] at hp
      rcases hp with rfl | hp | hp | hp
      · trivial
      · obtain ⟨token, htoken, hp⟩ := List.mem_flatMap.1 hp
        simp only [List.mem_cons, List.not_mem_nil, or_false] at hp
        rcases hp with rfl | rfl
        · exact .inl (by simp [tokens, htoken])
        · trivial
      · exact (ihc hp).mono (by simp [tokens])
      · exact (ihmore hp).mono (by simp [tokens])
  | clause marks field v modifiers ih =>
      simp only [pieces, List.mem_append] at hp
      rcases hp with hp | hp | hp | hp
      · exact comesFrom_of_mem_openingPieces hp _
      · exact (comesFrom_of_mem_fieldPieces hp).mono fun t ht => by
          simp only [tokens, List.mem_append, ht, true_or, or_true]
      · exact (ih hp).mono fun t ht => by
          simp only [tokens, List.mem_append, ht, true_or, or_true]
      · exact (comesFrom_of_mem_closingPieces hp).mono fun t ht => by
          simp only [tokens, List.mem_append, ht, or_true]
  | group cs ih =>
      simp only [pieces, List.mem_cons, List.mem_append, List.not_mem_nil, or_false] at hp
      rcases hp with rfl | hp | rfl
      · exact .inr trivial
      · exact (ih hp).mono (by simp [tokens])
      · exact .inr trivial
  | term | quoted | pattern =>
      simp only [pieces, List.mem_singleton] at hp
      subst hp
      exact .inl (by simp [tokens])
  | range fromMin min max toMax =>
      have hbound : ∀ b : Bound, b.token ∈ (range fromMin min max toMax).tokens →
          (Piece.bound b.text).ComesFrom (range fromMin min max toMax).tokens := by
        intro b hb
        cases b with
        | term => exact .inl hb
        | quoted => exact .inr hb
      simp only [pieces, List.mem_cons, List.not_mem_nil, or_false] at hp
      rcases hp with rfl | rfl | rfl | rfl | rfl | rfl | rfl
      · exact .inl (by simp [tokens])
      · exact hbound min (by simp [tokens])
      · trivial
      · exact .inl (by simp [tokens])
      · trivial
      · exact hbound max (by simp [tokens])
      · exact .inl (by simp [tokens])

end Derivation

end Grammar

namespace Reader

variable {r r' : Reader}

theorem Reads.exists_append {tokens tokens' : List Token} (h : Reads r (tokens ++ tokens') r') :
    ∃ middle, Reads r tokens middle ∧ Reads middle tokens' r' := by
  induction tokens generalizing r with
  | nil => exact ⟨r, .nil r, h⟩
  | cons token tokens ih =>
      obtain ⟨next, hstep, hrest⟩ := h.exists_step
      obtain ⟨middle, htokens, htokens'⟩ := ih hrest
      exact ⟨middle, .cons hstep htokens, htokens'⟩

/-- Behind a sign the rest of a clause is expected. -/
theorem exists_marked_of_step {sign : Token} (hsign : sign ∈ [Token.plus, .minus])
    (h : r.step sign = .ok r') : ∃ a, r'.mode = .marked a := by
  have htakes : ∀ {r : Reader}, r.Takes sign r' → ∃ a, r'.mode = .marked a := by
    intro r h
    simp only [List.mem_cons, List.not_mem_nil, or_false] at hsign
    rcases hsign with rfl | rfl
    · cases h with
      | plus => exact ⟨_, rfl⟩
      | lowerBound _ hbound | upperBound _ hbound => cases hbound
    · cases h with
      | minus => exact ⟨_, rfl⟩
      | lowerBound _ hbound | upperBound _ hbound => cases hbound
  exact (takes_of_step h).elim htakes htakes

/-- What ends a value cannot be read right behind a sign. -/
theorem not_reads_sign_closer {before after : List Token} {sign closer : Token}
    (hsign : sign ∈ [Token.plus, .minus]) (hcloser : (Piece.token closer).closes = true) :
    ¬ Reads r (before ++ sign :: closer :: after) r' := by
  intro h
  obtain ⟨middle, -, h⟩ := h.exists_append
  obtain ⟨marked, hmark, h⟩ := h.exists_step
  obtain ⟨a, hmode⟩ := exists_marked_of_step hsign hmark
  obtain ⟨next, hstep, -⟩ := h.exists_step
  rw [step, hmode] at hstep
  cases closer with
  | rightParen | rightBracket | rightBrace | boost | proximity =>
      simp [readClause, readValue] at hstep
  | _ => cases hcloser

end Reader

namespace Tree

open Grammar

variable {text : String} {t : Tree}

/-- Each piece of what was read is legible, but for a bound that was read as a phrase. -/
theorem legible_of_comesFrom {p : Piece}
    (h : p.ComesFrom ((Lexing.ofString text).lexemes.map (·.token)))
    (hquoted : ∀ bound, p = .bound bound →
      .quoted bound ∈ (Lexing.ofString text).lexemes.map (·.token) → p.Legible) : p.Legible := by
  have hread : ∀ t ∈ (Lexing.ofString text).lexemes.map (·.token), t.Lexical ∨ t.IsLoneSign := by
    intro t ht
    obtain ⟨lexeme, hlexeme, rfl⟩ := List.mem_map.1 ht
    exact Lexing.lexical_of_mem hlexeme
  intro t ht
  cases p with
  | blank => cases ht
  | token token =>
      obtain rfl := Option.some.inj ht
      exact h.elim (hread token) .inl
  | bound bound =>
      obtain rfl := Option.some.inj ht
      exact h.elim (hread _) fun hphrase => hquoted bound rfl hphrase _ rfl

/-- What a tree that was read is written as is derived from what was read. -/
theorem exists_pieces_eq_of_parse (h : Tree.parse text = .ok t) :
    ∃ d : Derivation .clauses, t.pieces = d.pieces ∧
      ∀ p ∈ t.pieces, p.ComesFrom ((Lexing.ofString text).lexemes.map (·.token)) := by
  obtain ⟨d, hd⟩ := exists_derivation_of_parse h
  obtain ⟨t', ht', hpieces, -⟩ := exists_parse_of_derivation (fault?_of_parse h) d hd
  obtain rfl := Except.ok.inj (h.symm.trans ht')
  refine ⟨d, hpieces, fun p hp => ?_⟩
  rw [← hd]
  exact d.comesFrom_of_mem_pieces (hpieces ▸ hp)

theorem toList_render (t : Tree) : t.render.toList = t.pieces.flatMap Piece.chars := by
  rw [render, String.toList_ofList, t.flatMap_pieces]

/-- The canonical text of a query is a fixed point just if no lone sign has anything but a blank
behind it, so long as the quoted bounds of ranges are legible without their quotes. -/
theorem parse_render_iff (h : Tree.parse text = .ok t)
    (hbounds : ∀ bound, .bound bound ∈ t.pieces →
      .quoted bound ∈ (Lexing.ofString text).lexemes.map (·.token) →
        (Piece.bound bound).Legible) :
    (∃ back, Tree.parse t.render = .ok back ∧ back.render = t.render) ↔ Piece.Apart t.pieces := by
  obtain ⟨d, hpieces, hread⟩ := exists_pieces_eq_of_parse h
  have hfits : Piece.Fitting t.pieces := by
    rw [hpieces]
    exact d.laid [.blank] ⟨.singleton _, by simp [Piece.closes]⟩
  have hlegible : ∀ p ∈ t.pieces, p.Legible := by
    intro p hp
    refine legible_of_comesFrom (hread p hp) fun bound hbound => ?_
    subst hbound
    exact hbounds bound hp
  constructor
  · rintro ⟨back, hback, -⟩
    have hfault := fault?_of_parse hback
    obtain ⟨reader, hreads, -⟩ := exists_finish_of_parse hback
    rw [Lexing.ofString, toList_render] at hfault hreads
    rcases Piece.apart_or_touches hfits hlegible 0 hfault with hapart | htouches
    · exact hapart
    · obtain ⟨before, sign, closer, after, heq, hsign, hcloser⟩ := htouches
      rw [heq] at hreads
      exact absurd hreads (Reader.not_reads_sign_closer hsign hcloser)
  · intro hapart
    have hlexes := Piece.lexes hfits hlegible hapart 0
    rw [← toList_render] at hlexes
    obtain ⟨hfault, hread⟩ := hlexes
    rw [hpieces, ← d.tokens_canonical] at hread
    obtain ⟨back, hback, hpieces', -⟩ := exists_parse_of_derivation hfault d.canonical hread.symm
    refine ⟨back, hback, ?_⟩
    rw [← String.toList_inj, toList_render, toList_render, hpieces', d.pieces_canonical, hpieces]

end Tree

namespace Store

theorem render_of_parse {text : String} {t : Tree} (h : Tree.parse text = .ok t) :
    (ofTree t).render = t.render :=
  congrArg Tree.render (isQuery_of_parse h).2.1

/-- What is printed of a query that was read is a fixed point just if no lone sign has anything but
a blank behind it, so long as the quoted bounds of its ranges are legible without their quotes. -/
theorem render_fixed_iff {text : String} {s : Store} (h : Store.parse text = .ok s)
    (hbounds : ∀ bound, .bound bound ∈ s.tree.pieces →
      .quoted bound ∈ (Lexing.ofString text).lexemes.map (·.token) →
        (Piece.bound bound).Legible) :
    (∃ back, Store.parse s.render = .ok back ∧ back.render = s.render) ↔
      Piece.Apart s.tree.pieces := by
  obtain ⟨t, ht, rfl⟩ := exists_eq_ofTree_of_parse h
  obtain ⟨-, htree, -⟩ := isQuery_of_parse ht
  rw [htree] at hbounds ⊢
  rw [render_of_parse ht, ← Tree.parse_render_iff ht hbounds]
  constructor
  · rintro ⟨s, hs, hsame⟩
    obtain ⟨back, hback, rfl⟩ := exists_eq_ofTree_of_parse hs
    exact ⟨back, hback, (render_of_parse hback).symm.trans hsame⟩
  · rintro ⟨back, hback, hsame⟩
    exact ⟨ofTree back, by rw [Store.parse, hback]; rfl, (render_of_parse hback).trans hsame⟩

/-- Double negations, all but the last modifier, quotes and blanks are gone, and lone signs are read
again, one in front of a blank and one at the end. -/
theorem render_fixed_of_lone_signs :
    ∃ s, Store.parse "NOT NOT a^1^2  OR f:([\"1\" TO b\x7d  + c)~3  -" = .ok s ∧
      s.render = "a^2 OR f:([1 TO b\x7d + c)~3 -" ∧
        ∃ back, Store.parse s.render = .ok back ∧ back.render = s.render := by
  obtain ⟨t, ht, hpieces, hrender⟩ : ∃ t,
      Tree.parse "NOT NOT a^1^2  OR f:([\"1\" TO b\x7d  + c)~3  -" = .ok t ∧
        t.pieces = [.token (.term "a"), .token (.boost "2"), .blank, .token .or, .blank,
          .token (.field "f"), .token .leftParen, .token .leftBracket, .bound "1", .blank,
          .token (.term "TO"), .blank, .bound "b", .token .rightBrace, .blank, .token (.term "+"),
          .blank, .token (.term "c"), .token .rightParen, .token (.proximity "3"), .blank,
          .token (.term "-")] ∧
        t.render = "a^2 OR f:([1 TO b\x7d + c)~3 -" := by
    refine ⟨(Tree.parse "NOT NOT a^1^2  OR f:([\"1\" TO b\x7d  + c)~3  -").toOption.getD .nil, ?_⟩
    decide +kernel
  obtain ⟨-, htree, -⟩ := isQuery_of_parse ht
  have hs : Store.parse "NOT NOT a^1^2  OR f:([\"1\" TO b\x7d  + c)~3  -" = .ok (ofTree t) := by
    rw [Store.parse, ht]
    rfl
  refine ⟨ofTree t, hs, (render_of_parse ht).trans hrender, (render_fixed_iff hs ?_).2 ?_⟩
  · intro bound hbound _ t ht
    rw [htree, hpieces] at hbound
    simp only [List.mem_cons, List.not_mem_nil, or_false, reduceCtorEq, false_or,
      Piece.bound.injEq] at hbound
    obtain rfl : .term bound = t := Option.some.inj ht
    rcases hbound with rfl | rfl
    · exact .inl ⟨by decide, by simp [Token.Leads], by decide⟩
    · exact .inl ⟨by decide, by simp [Token.Leads], by decide⟩
  · rw [htree, hpieces]
    decide

/-- Without its quotes a bound can be two terms, and a sign behind which there is no blank any more
is no term. -/
theorem exists_render_unread :
    (∃ s, Store.parse "[\"a b\" TO c]" = .ok s ∧ s.render = "[a b TO c]" ∧
      ¬ ∃ back, Store.parse s.render = .ok back) ∧
    ∃ s, Store.parse "(+ )" = .ok s ∧ s.render = "(+)" ∧
      ¬ ∃ back, Store.parse s.render = .ok back := by
  have hunread : ∀ text written, (Tree.parse text).toOption.map Tree.render = some written →
      (Tree.parse written).toOption = none → ∃ s, Store.parse text = .ok s ∧ s.render = written ∧
        ¬ ∃ back, Store.parse s.render = .ok back := by
    intro text written hwritten hnone
    obtain ⟨t, ht, rfl⟩ := Option.map_eq_some_iff.1 hwritten
    have ht : Tree.parse text = .ok t := by
      cases h : Tree.parse text with
      | error => simp [h, Except.toOption] at ht
      | ok t' => simpa [h, Except.toOption] using ht
    refine ⟨ofTree t, by rw [Store.parse, ht]; rfl, render_of_parse ht, ?_⟩
    rintro ⟨back, hback⟩
    rw [render_of_parse ht] at hback
    obtain ⟨t', ht', -⟩ := exists_eq_ofTree_of_parse hback
    rw [ht'] at hnone
    cases hnone
  exact ⟨hunread _ _ (by decide +kernel) (by decide +kernel),
    hunread _ _ (by decide +kernel) (by decide +kernel)⟩

end Store

end SearchQuery
