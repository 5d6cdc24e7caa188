import SearchQuery.Proofs.Token.Spelling

/-!
# Where tokens stand in a text

`Token.Stands after token spelled` lists the ways in which a token can stand in a text: as it is
written, as a lone sign, or as one of the marks that are short for an operator, each in front of
what lets it end there. The lexer reads a token at the front of a text just if it stands there,
`Token.stands_of_scan` and `Token.scan_of_stands`.

`Lexing.Passes` follows the lexer through the front of a text, and `Lexing.exists_passes` says that
the lexemes of a text, up to any of them, are found in this way. What comes behind the front may
then be exchanged for anything that lets its last token end, `Lexing.Passes.lexes_append`.
-/

namespace SearchQuery

namespace Token

/-- How a token stands in front of the rest of a text. -/
inductive Stands (after : List Char) : Token → List Char → Prop
  | written (token) (h : token.Lexical) (hafter : token.Allows after) :
      Stands after token token.chars
  | sign (token) (h : token.IsLoneSign) (hafter : bindsTo after = false) :
      Stands after token token.chars
  | ampersands : Stands after .and ['&', '&']
  | bars : Stands after .or ['|', '|']
  | exclamation (hafter : after.head? ≠ some '=') : Stands after .not ['!']

def spellings : Token → List (List Char)
  | and => [and.chars, ['&', '&']]
  | or => [or.chars, ['|', '|']]
  | not => [not.chars, ['!']]
  | token => [token.chars]

section Stands

variable {c : Char} {rest after after' spelled : List Char} {token : Token} {width : Nat}

theorem chars_mem_spellings (token : Token) : token.chars ∈ token.spellings := by
  cases token <;> simp [spellings]

theorem Stands.mem_spellings (h : Stands after token spelled) : spelled ∈ token.spellings := by
  cases h with
  | written | sign => exact token.chars_mem_spellings
  | ampersands | bars | exclamation => simp [spellings]

theorem scan_of_stands (h : Stands after token spelled) :
    ∃ c cs, spelled = c :: cs ∧ Text.isBlank c = false ∧
      scan c (cs ++ after) = .ok (token, cs.length + 1) := by
  cases h with
  | written _ h hafter => exact scan_chars h hafter
  | sign _ h hafter =>
      obtain ⟨c, hchars, hc, hscan⟩ := scan_loneSign h hafter
      exact ⟨c, [], hchars, hc, hscan⟩
  | ampersands => exact ⟨'&', ['&'], rfl, by decide, rfl⟩
  | bars => exact ⟨'|', ['|'], rfl, by decide, rfl⟩
  | exclamation hafter => exact ⟨'!', [], rfl, by decide, if_neg hafter⟩

theorem Stands.of_chars_eq (hchars : token.chars = spelled) (h : token.Lexical)
    (hafter : token.Allows after) : Stands after token spelled :=
  hchars ▸ .written token h hafter

/-- A word stands in front of what ends it as a term or an operator. -/
theorem stands_ofWord {cs : List Char} (hword : IsWord cs) (hleads : Leads cs) (hends : Ends after)
    (hcolon : after.head? ≠ some ':') : Stands after (ofWord cs) cs := by
  by_cases hoperator : cs ∈ [['A', 'N', 'D'], ['O', 'R'], ['N', 'O', 'T']]
  · simp only [List.mem_cons, List.not_mem_nil, or_false] at hoperator
    rcases hoperator with rfl | rfl | rfl
    · exact .written .and trivial ⟨hends, hcolon⟩
    · exact .written .or trivial ⟨hends, hcolon⟩
    · exact .written .not trivial ⟨hends, hcolon⟩
  · have htext : (String.ofList cs).toList = cs := String.toList_ofList
    rw [ofWord_eq_term hoperator]
    exact .of_chars_eq htext ⟨by rwa [htext], by rwa [htext], by rwa [htext]⟩ ⟨hends, hcolon⟩

theorem stands_ofTerm {cs : List Char} (hword : IsWord (c :: cs)) (hleads : Leads (c :: cs))
    (hends : Ends after) :
    ∃ cs' after', cs ++ after = cs' ++ after' ∧ (ofTerm (c :: cs) after).2 = cs'.length + 1 ∧
      Stands after' (ofTerm (c :: cs) after).1 (c :: cs') := by
  rw [ofTerm.eq_def]
  split
  · next after =>
      have htext : (String.ofList (c :: cs)).toList = c :: cs := String.toList_ofList
      have hchars : (field (String.ofList (c :: cs))).chars = c :: (cs ++ [':']) := by
        rw [chars, htext, List.cons_append]
      exact ⟨cs ++ [':'], after, by simp, by simp,
        .of_chars_eq hchars ⟨by rwa [htext], by rwa [htext]⟩ trivial⟩
  · next hfield =>
      have hcolon : after.head? ≠ some ':' := by
        intro hhead
        obtain ⟨_, rfl⟩ := List.head?_eq_some_iff.1 hhead
        exact hfield _ rfl
      exact ⟨cs, after, rfl, rfl, stands_ofWord hword hleads hends hcolon⟩

theorem stands_of_scanTerm (h : scanTerm (c :: rest) = .ok (token, width))
    (hboundary : isBoundary c = false) (hleads : Leads (c :: rest)) :
    ∃ cs after, rest = cs ++ after ∧ width = cs.length + 1 ∧ Stands after token (c :: cs) := by
  rw [scanTerm] at h
  cases hsplit : splitTerm? (c :: rest) with
  | none => simp [hsplit] at h
  | some split =>
      obtain ⟨taken, after⟩ := split
      rw [hsplit] at h
      have hword := isWord_of_splitTerm? hsplit
      obtain ⟨heq, hends, -⟩ := splitTerm?_spec hsplit
      cases taken with
      | nil =>
          rw [List.nil_append] at heq
          have hc : isBoundary c = true := hends c (by rw [← heq]; rfl)
          simp [hboundary] at hc
      | cons d cs =>
          obtain ⟨rfl, rfl⟩ := List.cons.inj heq
          have hterm : ofTerm (c :: cs) after = (token, width) := Except.ok.inj h
          have hstands := stands_ofTerm hword (hleads.of_append hends) hends
          rwa [hterm] at hstands

theorem stands_of_scanDelimited (literal : Delimited)
    (h : scanDelimited literal rest = .ok (token, width)) :
    ∃ cs after, rest = cs ++ after ∧ width = cs.length + 1 ∧
      Stands after token (literal.mark :: cs) := by
  rw [scanDelimited] at h
  split at h
  · next text hsplit =>
      obtain ⟨rfl, rfl⟩ := Prod.mk.inj (Except.ok.inj h)
      have hmark : literal.mark ≠ '\\' := by cases literal <;> decide
      obtain ⟨⟨after, rfl⟩, -⟩ := splitDelimited?_spec hmark hsplit
      refine ⟨text ++ [literal.mark], after, by simp, by simp, ?_⟩
      have hinside := isInside_of_splitDelimited? hmark hsplit
      have hchars : (literal.token (String.ofList text)).chars =
          literal.mark :: (text ++ [literal.mark]) := by
        cases literal <;> simp [Delimited.token, Delimited.mark, chars]
      have hlexical : (literal.token (String.ofList text)).Lexical := by
        cases literal <;> simpa [Delimited.token, Delimited.mark, Lexical] using hinside
      exact .of_chars_eq hchars hlexical (by cases literal <;> trivial)
  · simp at h

/-- What is scanned as a number stands in front of what is no part of a number. -/
theorem number_spec (rest : List Char) :
    (∀ c ∈ rest.takeWhile isNumeral, isNumeral c = true) ∧ EndsNumber (rest.dropWhile isNumeral) := by
  refine ⟨List.all_eq_true.1 List.all_takeWhile, fun c hc => ?_⟩
  have hhead := List.head?_dropWhile_not isNumeral rest
  rw [Option.mem_def.1 hc] at hhead
  exact hhead

theorem stands_of_scan (hblank : Text.isBlank c = false) (h : scan c rest = .ok (token, width)) :
    ∃ cs after, rest = cs ++ after ∧ width = cs.length + 1 ∧ Stands after token (c :: cs) := by
  have hmark : ∀ mark : Token, (.ok (mark, 1) : Except ParseFault (Token × Nat)) =
      .ok (token, width) → Stands rest mark [c] →
      ∃ cs after, rest = cs ++ after ∧ width = cs.length + 1 ∧ Stands after token (c :: cs) := by
    intro mark heq hstands
    obtain ⟨rfl, rfl⟩ := Prod.mk.inj (Except.ok.inj heq)
    exact ⟨[], rest, rfl, rfl, hstands⟩
  rw [scan.eq_def] at h
  split at h
  · exact hmark _ h (.written .leftParen trivial trivial)
  · exact hmark _ h (.written .rightParen trivial trivial)
  · exact hmark _ h (.written .leftBracket trivial trivial)
  · exact hmark _ h (.written .rightBracket trivial trivial)
  · exact hmark _ h (.written .leftBrace trivial trivial)
  · exact hmark _ h (.written .rightBrace trivial trivial)
  · exact stands_of_scanDelimited .phrase h
  · exact stands_of_scanDelimited .pattern h
  · dsimp only at h
    split at h
    · simp at h
    · next hnumber =>
        obtain ⟨rfl, rfl⟩ := Prod.mk.inj (Except.ok.inj h)
        obtain ⟨hnumerals, hends⟩ := number_spec rest
        refine ⟨_, _, List.takeWhile_append_dropWhile.symm, rfl, .of_chars_eq ?_ ⟨?_, ?_⟩ hends⟩
        · rw [chars, String.toList_ofList]
        · rwa [String.toList_ofList]
        · rwa [String.toList_ofList]
  · obtain ⟨rfl, rfl⟩ := Prod.mk.inj (Except.ok.inj h)
    obtain ⟨hnumerals, hends⟩ := number_spec rest
    refine ⟨_, _, List.takeWhile_append_dropWhile.symm, rfl, .of_chars_eq ?_ ?_ hends⟩
    · rw [chars, String.toList_ofList]
    · rwa [Lexical, String.toList_ofList]
  · simp at h
  · split at h
    · next hbinds => exact hmark _ h (.written .plus trivial hbinds)
    · next hbinds =>
        have hbinds : bindsTo rest = false := by simpa using hbinds
        rw [scanTerm_of_bindsTo_eq_false (by decide) (by decide) hbinds] at h
        exact hmark _ h (.sign (.term "+") (.inl rfl) hbinds)
  · split at h
    · next hbinds => exact hmark _ h (.written .minus trivial hbinds)
    · next hbinds =>
        have hbinds : bindsTo rest = false := by simpa using hbinds
        rw [scanTerm_of_bindsTo_eq_false (by decide) (by decide) hbinds] at h
        exact hmark _ h (.sign (.term "-") (.inr rfl) hbinds)
  · split at h
    · next hequals => exact stands_of_scanTerm h (by decide) (by simp [Leads, hequals])
    · next hequals => exact hmark _ h (.exclamation hequals)
  · split at h
    · next hdoubled =>
        obtain ⟨rfl, rfl⟩ := Prod.mk.inj (Except.ok.inj h)
        obtain ⟨after, rfl⟩ := List.head?_eq_some_iff.1 hdoubled
        exact ⟨['&'], after, rfl, rfl, .ampersands⟩
    · next hdoubled => exact stands_of_scanTerm h (by decide) (by simp [Leads, hdoubled])
  · split at h
    · next hdoubled =>
        obtain ⟨rfl, rfl⟩ := Prod.mk.inj (Except.ok.inj h)
        obtain ⟨after, rfl⟩ := List.head?_eq_some_iff.1 hdoubled
        exact ⟨['|'], after, rfl, rfl, .bars⟩
    · next hdoubled => exact stands_of_scanTerm h (by decide) (by simp [Leads, hdoubled])
  · refine stands_of_scanTerm h ?_ ?_
    · simp_all [isBoundary]
    · simp_all [Leads]

theorem Stands.lexical (h : Stands after token spelled) : token.Lexical ∨ token.IsLoneSign := by
  cases h with
  | written _ h => exact .inl h
  | sign _ h => exact .inr h
  | ampersands | bars | exclamation => exact .inl trivial

theorem allows_of_head?_eq (hhead : after'.head? = after.head?) (h : token.Allows after) :
    token.Allows after' := by
  have hbinds : bindsTo after' = bindsTo after := by
    cases after <;> cases after' <;> simp_all [bindsTo]
  cases token with
  | term | and | or | not | plus | minus | boost | proximity =>
      simpa [Allows, Ends, EndsNumber, hhead, hbinds] using h
  | _ => trivial

theorem Stands.of_head?_eq (h : Stands after token spelled) (hhead : after'.head? = after.head?) :
    Stands after' token spelled := by
  cases h with
  | written _ h hafter => exact .written _ h (allows_of_head?_eq hhead hafter)
  | sign _ h hafter =>
      refine .sign _ h ?_
      cases after <;> cases after' <;> simp_all [bindsTo]
  | ampersands => exact .ampersands
  | bars => exact .bars
  | exclamation hafter => exact .exclamation (hhead ▸ hafter)

/-- Whether a token ends in front of these characters, also if it is a lone sign. -/
structure Precedes (after : List Char) (token : Token) : Prop where
  allows : token.Allows after
  loneSign : token.IsLoneSign → bindsTo after = false

theorem Stands.of_precedes (h : Stands after token spelled) (hafter : token.Precedes after') :
    Stands after' token spelled := by
  cases h with
  | written _ h => exact .written _ h hafter.allows
  | sign _ h => exact .sign _ h (hafter.loneSign h)
  | ampersands => exact .ampersands
  | bars => exact .bars
  | exclamation =>
      -- an equals sign is no boundary, and behind a negation only a boundary is allowed
      refine .exclamation fun hequals => ?_
      exact absurd (hafter.allows.1 '=' hequals) (by decide)

theorem Stands.ne_nil (h : Stands after token spelled) : spelled ≠ [] := by
  obtain ⟨c, cs, rfl, -⟩ := scan_of_stands h
  exact List.cons_ne_nil c cs

end Stands

end Token

namespace Lexing

open Token (Stands)

/-- The lexer gets through the front of a text, which begins at a place and has other characters
behind it, and finds these lexemes in it. -/
inductive Passes (behind : List Char) : List Char → Nat → List Lexeme → Prop
  | done {position} : Passes behind [] position []
  | blank {c front position lexemes} (hc : Text.isBlank c = true)
      (h : Passes behind front (position + 1) lexemes) : Passes behind (c :: front) position lexemes
  | token {token spelled front position lexemes} (hstands : Stands (front ++ behind) token spelled)
      (h : Passes behind front (position + spelled.length) lexemes) :
      Passes behind (spelled ++ front) position
        (⟨token, position, position + spelled.length⟩ :: lexemes)

def place (stop : Nat) (lexemes : List Lexeme) : Nat :=
  (lexemes.head?.map (·.start)).getD stop

/-- The lexemes in the front of a list of lexemes stand in the front of the text, which reaches up
to the next one, or up to the place where reading stops. -/
theorem exists_passes {position : Nat} {cs : List Char} {xs ys : List Lexeme}
    (h : (ofChars position cs).lexemes = xs ++ ys) :
    ∃ front behind, cs = front ++ behind ∧ Passes behind front position xs ∧
      position + front.length = place (ofChars position cs).stop ys := by
  induction position, cs using ofChars.induct generalizing xs with
  | case1 position =>
      rw [ofChars] at h ⊢
      obtain ⟨rfl, rfl⟩ := List.append_eq_nil_iff.1 h.symm
      exact ⟨[], [], rfl, .done, rfl⟩
  | case2 position c rest hc ih =>
      rw [ofChars, if_pos hc] at h ⊢
      obtain ⟨front, behind, rfl, hpasses, hplace⟩ := ih h
      refine ⟨c :: front, behind, rfl, .blank hc hpasses, ?_⟩
      rw [← hplace, List.length_cons]
      omega
  | case3 position c rest hc fault hscan =>
      rw [ofChars, if_neg hc, hscan] at h ⊢
      obtain ⟨rfl, rfl⟩ := List.append_eq_nil_iff.1 h.symm
      exact ⟨[], c :: rest, rfl, .done, rfl⟩
  | case4 position c rest hc token width hscan ih =>
      rw [ofChars, if_neg hc, hscan] at h ⊢
      dsimp only at h ⊢
      cases xs with
      | nil =>
          rw [List.nil_append] at h
          exact ⟨[], c :: rest, rfl, .done, by rw [← h]; rfl⟩
      | cons x xs =>
          obtain ⟨rfl, hlater⟩ := List.cons.inj h
          obtain ⟨cs, after, rfl, rfl, hstands⟩ := Token.stands_of_scan (by simpa using hc) hscan
          rw [Nat.add_sub_cancel, List.drop_left] at hlater ih
          obtain ⟨front, behind, rfl, hpasses, hplace⟩ := ih hlater
          refine ⟨c :: cs ++ front, behind, by simp, .token hstands hpasses, ?_⟩
          rw [Nat.add_sub_cancel, List.drop_left, ← hplace, List.length_append, List.length_cons]
          omega

namespace Passes

variable {behind front more : List Char} {position : Nat} {lexemes : List Lexeme}

theorem lexical (h : Passes behind front position lexemes) :
    ∀ x ∈ lexemes, x.token.Lexical ∨ x.token.IsLoneSign := by
  induction h with
  | done => simp
  | blank _ _ ih => exact ih
  | token hstands _ ih => exact List.forall_mem_cons.2 ⟨hstands.lexical, ih⟩

theorem eq_nil_of_front (h : Passes behind [] position lexemes) : lexemes = [] := by
  generalize hfront : ([] : List Char) = front at h
  cases h with
  | done => rfl
  | blank => simp at hfront
  | token hstands =>
      exact absurd (List.append_eq_nil_iff.1 hfront.symm).1 hstands.ne_nil

/-- The lexer finds the same tokens if other characters come behind in front of which the last
token ends, and then what it finds in those. -/
theorem lexes_append (h : Passes behind front position lexemes)
    (hmore : ∀ x ∈ lexemes.getLast?, x.token.Precedes more) {later : List Token}
    (hlater : Lexes more later) : Lexes (front ++ more) (lexemes.map (·.token) ++ later) := by
  induction h with
  | done => exact hlater
  | blank hc _ ih => exact .blank hc (ih hmore)
  | @token token spelled front position lexemes hstands hpasses ih =>
      have hstands' : Stands (front ++ more) token spelled := by
        cases front with
        | nil =>
            obtain rfl := hpasses.eq_nil_of_front
            exact hstands.of_precedes (hmore _ rfl)
        | cons d front => exact hstands.of_head?_eq rfl
      have hrest : Lexes (front ++ more) (lexemes.map (·.token) ++ later) := by
        refine ih fun x hx => hmore x ?_
        rw [List.getLast?_cons, Option.mem_def.1 hx]
        rfl
      obtain ⟨c, cs, rfl, hc, hscan⟩ := Token.scan_of_stands hstands'
      rw [List.append_assoc, List.cons_append]
      refine .of_scan hc hscan ?_
      rwa [Nat.add_sub_cancel, List.drop_left]

end Passes

theorem lexical_of_mem {position : Nat} {cs : List Char} {lexeme : Lexeme}
    (h : lexeme ∈ (ofChars position cs).lexemes) :
    lexeme.token.Lexical ∨ lexeme.token.IsLoneSign := by
  obtain ⟨_, _, -, hpasses, -⟩ := exists_passes (List.append_nil (ofChars position cs).lexemes).symm
  exact hpasses.lexical lexeme h

end Lexing

end SearchQuery
