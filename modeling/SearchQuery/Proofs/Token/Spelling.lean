import SearchQuery.Proofs.Token.Words

/-!
# The spelling of tokens

`Token.chars` writes a token, and `Lexes cs tokens` says that the lexer reads a text without a
fault as these tokens. A token is read back if its text is one that the lexer could have read,
`Lexical`, and if what comes behind it does not run into it, `Allows`.
-/

namespace SearchQuery

namespace Token

def chars : Token → List Char
  | term text => text.toList
  | quoted text => '"' :: text.toList ++ ['"']
  | pattern text => '/' :: text.toList ++ ['/']
  | field name => name.toList ++ [':']
  | leftParen => ['(']
  | rightParen => [')']
  | leftBracket => ['[']
  | rightBracket => [']']
  | leftBrace => ['\x7b']
  | rightBrace => ['\x7d']
  | plus => ['+']
  | minus => ['-']
  | boost value => '^' :: value.toList
  | proximity value => '~' :: value.toList
  | and => ['A', 'N', 'D']
  | or => ['O', 'R']
  | not => ['N', 'O', 'T']

/-- Whether a bare term that starts like this is taken for one, and not for a sign, a mark or a
literal. -/
def Leads : List Char → Prop
  | [] => False
  | c :: rest =>
      c ∉ ['/', '+', '-'] ∧ (c = '!' → rest.head? = some '=') ∧
        (c = '&' → rest.head? ≠ some '&') ∧ (c = '|' → rest.head? ≠ some '|')

def Lexical : Token → Prop
  | term text =>
      IsWord text.toList ∧ Leads text.toList ∧
        text.toList ∉ [['A', 'N', 'D'], ['O', 'R'], ['N', 'O', 'T']]
  | quoted text => IsInside '"' text.toList
  | pattern text => IsInside '/' text.toList
  | field name => IsWord name.toList ∧ Leads name.toList
  | boost value => value.toList ≠ [] ∧ ∀ c ∈ value.toList, isNumeral c = true
  | proximity value => ∀ c ∈ value.toList, isNumeral c = true
  | _ => True

def Allows (rest : List Char) : Token → Prop
  | term _ | and | or | not => Ends rest ∧ rest.head? ≠ some ':'
  | plus | minus => bindsTo rest = true
  | boost _ | proximity _ => EndsNumber rest
  | _ => True

theorem not_isBoundary_of_isWord {c : Char} {cs : List Char} (h : IsWord (c :: cs)) :
    isBoundary c = false := by
  rw [← Bool.not_eq_true]
  intro hc
  have hends : Ends (c :: cs) := by simpa [Ends] using hc
  rw [IsWord, splitTerm?_of_ends hends] at h
  simp at h

theorem scanTerm_append {taken rest : List Char} (h : IsWord taken) (hrest : Ends rest) :
    scanTerm (taken ++ rest) = .ok (ofTerm taken rest) := by
  rw [scanTerm, (splitTerm?_spec h).2.2 rest hrest]

/-- A word that leads a text is scanned as a bare term or a field. -/
theorem scan_word {c : Char} {cs rest : List Char} (h : IsWord (c :: cs)) (hleads : Leads (c :: cs))
    (hrest : Ends rest) :
    Text.isBlank c = false ∧ scan c (cs ++ rest) = .ok (ofTerm (c :: cs) rest) := by
  have hboundary := not_isBoundary_of_isWord h
  have hscan := scanTerm_append h hrest
  obtain ⟨hfirst, hnot, hand, hor⟩ := hleads
  -- a doubled mark would have to stand in the word, since nothing that ends a word is one
  have hdoubled : ∀ d, isBoundary d = false → cs.head? ≠ some d → (cs ++ rest).head? ≠ some d := by
    intro d hd hcs happend
    cases cs with
    | nil => exact absurd (hrest d happend) (by simp [hd])
    | cons => exact hcs happend
  simp only [isBoundary, Bool.or_eq_false_iff, decide_eq_false_iff_not] at hboundary
  refine ⟨hboundary.1, ?_⟩
  rw [← hscan, scan.eq_def]
  split
  all_goals first
    | exact absurd hboundary.2 (by decide)
    | exact absurd hfirst (by decide)
    | skip
  · have hequals : (cs ++ rest).head? = some '=' := by
      cases cs with
      | nil => exact absurd (hnot rfl) (by simp)
      | cons => exact hnot rfl
    exact if_pos hequals
  · exact if_neg (hdoubled '&' (by decide) (hand rfl))
  · exact if_neg (hdoubled '|' (by decide) (hor rfl))
  · rfl

theorem ofWord_eq_term {taken : List Char}
    (h : taken ∉ [['A', 'N', 'D'], ['O', 'R'], ['N', 'O', 'T']]) :
    ofWord taken = term (String.ofList taken) := by
  simp only [List.mem_cons, List.not_mem_nil, or_false, not_or] at h
  rw [ofWord, if_neg h.1, if_neg h.2.1, if_neg h.2.2]

theorem ofTerm_eq_ofWord {rest : List Char} (h : rest.head? ≠ some ':') (taken : List Char) :
    ofTerm taken rest = (ofWord taken, taken.length) := by
  rw [ofTerm.eq_def]
  split
  · simp at h
  · rfl

theorem scan_operator {c : Char} {cs rest : List Char} (h : IsWord (c :: cs))
    (hleads : Leads (c :: cs)) (hrest : Ends rest) (hcolon : rest.head? ≠ some ':') :
    Text.isBlank c = false ∧ scan c (cs ++ rest) = .ok (ofWord (c :: cs), cs.length + 1) := by
  obtain ⟨hblank, hscan⟩ := scan_word h hleads hrest
  exact ⟨hblank, hscan.trans (congrArg Except.ok (ofTerm_eq_ofWord hcolon _))⟩

theorem scan_chars {token : Token} {rest : List Char} (h : token.Lexical)
    (hrest : token.Allows rest) :
    ∃ c cs, token.chars = c :: cs ∧ Text.isBlank c = false ∧
      scan c (cs ++ rest) = .ok (token, cs.length + 1) := by
  cases token with
  | term text =>
      obtain ⟨hword, hleads, hnot⟩ := h
      cases hchars : text.toList with
      | nil => simp [hchars, Leads] at hleads
      | cons c cs =>
          rw [hchars] at hword hleads hnot
          obtain ⟨hblank, hscan⟩ := scan_operator hword hleads hrest.1 hrest.2
          rw [ofWord_eq_term hnot, ← hchars, String.ofList_toList] at hscan
          exact ⟨c, cs, hchars, hblank, hscan⟩
  | field name =>
      obtain ⟨hword, hleads⟩ := h
      cases hchars : name.toList with
      | nil => simp [hchars, Leads] at hleads
      | cons c cs =>
          rw [hchars] at hword hleads
          have hends : Ends (':' :: rest) := by simp [Ends, isBoundary]
          obtain ⟨hblank, hscan⟩ := scan_word hword hleads hends
          refine ⟨c, cs ++ [':'], by rw [chars, hchars, List.cons_append], hblank, ?_⟩
          rw [List.append_assoc, List.singleton_append, hscan, ofTerm, ← hchars,
            String.ofList_toList, hchars]
          simp
  | quoted text =>
      refine ⟨'"', text.toList ++ ['"'], rfl, by decide, ?_⟩
      rw [List.append_assoc, List.singleton_append, scan, scanDelimited, Delimited.mark]
      have hsplit := (splitDelimited?_spec (by decide) h).2 rest
      rw [hsplit]
      simp [Delimited.token]
  | pattern text =>
      refine ⟨'/', text.toList ++ ['/'], rfl, by decide, ?_⟩
      rw [List.append_assoc, List.singleton_append, scan, scanDelimited, Delimited.mark]
      have hsplit := (splitDelimited?_spec (by decide) h).2 rest
      rw [hsplit]
      simp [Delimited.token]
  | boost value =>
      refine ⟨'^', value.toList, rfl, by decide, ?_⟩
      simp only [scan, takeWhile_append h.2 hrest, if_neg h.1, String.ofList_toList]
  | proximity value =>
      refine ⟨'~', value.toList, rfl, by decide, ?_⟩
      simp only [scan, takeWhile_append h hrest, String.ofList_toList]
  | plus => exact ⟨'+', [], rfl, by decide, if_pos hrest⟩
  | minus => exact ⟨'-', [], rfl, by decide, if_pos hrest⟩
  | and =>
      obtain ⟨hblank, hscan⟩ := scan_operator (show IsWord ['A', 'N', 'D'] by decide)
        (by simp [Leads]) hrest.1 hrest.2
      exact ⟨'A', ['N', 'D'], rfl, hblank, hscan⟩
  | or =>
      obtain ⟨hblank, hscan⟩ := scan_operator (show IsWord ['O', 'R'] by decide)
        (by simp [Leads]) hrest.1 hrest.2
      exact ⟨'O', ['R'], rfl, hblank, hscan⟩
  | not =>
      obtain ⟨hblank, hscan⟩ := scan_operator (show IsWord ['N', 'O', 'T'] by decide)
        (by simp [Leads]) hrest.1 hrest.2
      exact ⟨'N', ['O', 'T'], rfl, hblank, hscan⟩
  | leftParen => exact ⟨'(', [], rfl, by decide, rfl⟩
  | rightParen => exact ⟨')', [], rfl, by decide, rfl⟩
  | leftBracket => exact ⟨'[', [], rfl, by decide, rfl⟩
  | rightBracket => exact ⟨']', [], rfl, by decide, rfl⟩
  | leftBrace => exact ⟨'\x7b', [], rfl, by decide, rfl⟩
  | rightBrace => exact ⟨'\x7d', [], rfl, by decide, rfl⟩

/-- What leads a text still leads it when the text is cut off behind a word. -/
theorem Leads.of_append {c : Char} {cs after : List Char} (h : Leads (c :: (cs ++ after)))
    (hends : Ends after) : Leads (c :: cs) := by
  obtain ⟨hfirst, hnot, hand, hor⟩ := h
  have hhead : ∀ d, cs.head? = some d → (cs ++ after).head? = some d := by
    intro d hd
    cases cs with
    | nil => simp at hd
    | cons => exact hd
  refine ⟨hfirst, fun hc => ?_, fun hc hcs => hand hc (hhead _ hcs),
    fun hc hcs => hor hc (hhead _ hcs)⟩
  cases cs with
  | nil => exact absurd (hends '=' (hnot hc)) (by decide)
  | cons => exact hnot hc

def IsLoneSign (token : Token) : Prop :=
  token = term "+" ∨ token = term "-"

instance (token : Token) : Decidable token.IsLoneSign :=
  inferInstanceAs (Decidable (_ ∨ _))

/-- Nothing and a blank end a word. -/
theorem ends_of_bindsTo_eq_false {rest : List Char} (hrest : bindsTo rest = false) :
    Ends rest ∧ rest.head? ≠ some ':' := by
  cases rest with
  | nil => simp [Ends]
  | cons e rest =>
      have hblank : Text.isBlank e = true := by simpa [bindsTo] using hrest
      refine ⟨by simp [Ends, isBoundary, hblank], ?_⟩
      rw [List.head?_cons, ne_eq, Option.some.injEq]
      rintro rfl
      exact absurd hblank (by decide)

/-- A character that stands alone, since nothing or a blank comes behind it, is a word. -/
theorem scanTerm_of_bindsTo_eq_false {c : Char} {rest : List Char} (hne : c ≠ '\\')
    (hboundary : isBoundary c = false) (hrest : bindsTo rest = false) :
    scanTerm (c :: rest) = .ok (ofWord [c], 1) := by
  obtain ⟨hends, hcolon⟩ := ends_of_bindsTo_eq_false hrest
  rw [scanTerm, splitTerm?_cons hne hboundary, splitTerm?_of_ends hends]
  exact congrArg Except.ok (ofTerm_eq_ofWord hcolon [c])

/-- A lone sign is scanned as a term where nothing or a blank comes behind it. -/
theorem scan_loneSign {token : Token} (h : token.IsLoneSign) {rest : List Char}
    (hrest : bindsTo rest = false) :
    ∃ c, token.chars = [c] ∧ Text.isBlank c = false ∧ scan c rest = .ok (token, 1) := by
  rcases h with rfl | rfl
  · refine ⟨'+', rfl, by decide, ?_⟩
    rw [scan, if_neg (by simp [hrest]),
      scanTerm_of_bindsTo_eq_false (by decide) (by decide) hrest]
    rfl
  · refine ⟨'-', rfl, by decide, ?_⟩
    rw [scan, if_neg (by simp [hrest]),
      scanTerm_of_bindsTo_eq_false (by decide) (by decide) hrest]
    rfl

end Token

theorem Lexing.ofChars_of_scan {c : Char} {cs : List Char} {token : Token} {width : Nat}
    (hblank : Text.isBlank c = false) (hscan : Token.scan c cs = .ok (token, width))
    (position : Nat) :
    ofChars position (c :: cs) =
      let later := ofChars (position + width) (cs.drop (width - 1))
      { later with lexemes := ⟨token, position, position + width⟩ :: later.lexemes } := by
  rw [ofChars, if_neg (by simp [hblank]), hscan]

def Lexes (cs : List Char) (tokens : List Token) : Prop :=
  ∀ position, (Lexing.ofChars position cs).fault? = none ∧
    (Lexing.ofChars position cs).lexemes.map (·.token) = tokens

namespace Lexes

theorem nil : Lexes [] [] := by
  intro position
  rw [Lexing.ofChars]
  exact ⟨rfl, rfl⟩

variable {rest : List Char} {tokens : List Token}

theorem blank {c : Char} (hc : Text.isBlank c = true) (h : Lexes rest tokens) :
    Lexes (c :: rest) tokens := by
  intro position
  rw [Lexing.ofChars, if_pos hc]
  exact h (position + 1)

theorem of_scan {c : Char} {cs : List Char} {token : Token} {width : Nat}
    (hblank : Text.isBlank c = false) (hscan : Token.scan c cs = .ok (token, width))
    (h : Lexes (cs.drop (width - 1)) tokens) : Lexes (c :: cs) (token :: tokens) := by
  intro position
  obtain ⟨hfault, htokens⟩ := h (position + width)
  rw [Lexing.ofChars_of_scan hblank hscan]
  dsimp only
  rw [List.map_cons, htokens]
  exact ⟨hfault, rfl⟩

/-- A token in front of what does not run into it is read first. -/
theorem token {token : Token} (hlexical : token.Lexical) (hrest : token.Allows rest)
    (h : Lexes rest tokens) : Lexes (token.chars ++ rest) (token :: tokens) := by
  obtain ⟨c, cs, hchars, hblank, hscan⟩ := Token.scan_chars hlexical hrest
  rw [hchars, List.cons_append]
  refine of_scan hblank hscan ?_
  rwa [Nat.add_sub_cancel, List.drop_left]

end Lexes

end SearchQuery
