import SearchQuery.Proofs.Query.Building

/-!
# Texts with backslashes in front of some characters

`Text.Escapes needs s raw` says that `raw` is `s` with backslashes put in front of some of its
characters, and in front of all that need one. Where those are the characters that end a bare term,
and the first character has a backslash too, `raw` is read as a single bare term, whatever `s` spells
otherwise: a word for an operator, a sign, a comparison or a field. Where they are the quotes and
backslashes, `raw` between quotes is read as a single phrase. Either way the text that is searched
for is `s`, `Tree.parse_of_escapes`.
-/

namespace SearchQuery

namespace Text

/-- Whether `raw` is `s` with a backslash in front of some characters, at least of those that need
one. -/
inductive Escapes (needs : Char → Bool) : (s raw : List Char) → Prop
  | nil : Escapes needs [] []
  | bare {c s raw} (hc : needs c = false) (h : Escapes needs s raw) :
      Escapes needs (c :: s) (c :: raw)
  | escaped {c s raw} (h : Escapes needs s raw) : Escapes needs (c :: s) ('\\' :: c :: raw)

def needsEscape (c : Char) : Bool :=
  isBlank c || c ∈ ['\\', '(', ')', '[', ']', '{', '}', '"', '^', '~', ':']

def needsEscapeInPhrase (c : Char) : Bool :=
  c ∈ ['"', '\\']

namespace Escapes

variable {needs : Char → Bool} {s raw : List Char} {c : Char}

theorem ne_backslash (hneeds : needs '\\' = true) (hc : needs c = false) : c ≠ '\\' := by
  rintro rfl
  simp [hneeds] at hc

/-- Taking the backslashes out again gives the text back. -/
theorem unescapeChars_eq (hneeds : needs '\\' = true) (h : Escapes needs s raw) :
    unescapeChars raw = s := by
  induction h with
  | nil => rfl
  | bare hc _ ih => rw [unescapeChars_cons (ne_backslash hneeds hc), ih]
  | escaped _ ih => rw [unescapeChars_escaped, ih]

theorem isBoundary_eq_false (hc : needsEscape c = false) : Token.isBoundary c = false := by
  simp only [needsEscape, Bool.or_eq_false_iff, decide_eq_false_iff_not, List.mem_cons,
    not_or] at hc
  simp [Token.isBoundary, hc]

theorem isWord (h : Escapes needsEscape s raw) : Token.IsWord raw := by
  induction h with
  | nil => rfl
  | bare hc _ ih =>
      rw [Token.IsWord, Token.splitTerm?_cons (ne_backslash (by decide) hc)
        (isBoundary_eq_false hc), ih]
      rfl
  | escaped _ ih =>
      rw [Token.IsWord, Token.splitTerm?_escape, ih]
      rfl

theorem isInside (h : Escapes needsEscapeInPhrase s raw) : Token.IsInside '"' raw := by
  induction h with
  | nil => rfl
  | @bare c s raw hc _ ih =>
      have hquote : c ≠ '"' := by
        rintro rfl
        exact absurd hc (by decide)
      rw [Token.IsInside, List.cons_append,
        Token.splitDelimited?_cons (ne_backslash (by decide) hc) hquote, ih]
      rfl
  | escaped _ ih =>
      rw [Token.IsInside, List.cons_append, List.cons_append, Token.splitDelimited?_escape, ih]
      rfl

/-- A word whose first character has a backslash is a bare term, and never an operator. -/
theorem lexical_term (h : Escapes needsEscape s raw) (c : Char) :
    (Token.term (String.ofList ('\\' :: c :: raw))).Lexical := by
  rw [Token.Lexical, String.toList_ofList]
  exact ⟨h.escaped.isWord, by simp [Token.Leads], by simp⟩

end Escapes

end Text

namespace Tree

def ofTerm (t : Term) : Tree :=
  group 0 .plain .plain (leaf 1 .plain (.term t)) nil

theorem parse_of_lexes_single {text : String} {token : Token} {t : Term}
    (htext : Lexes text.toList [token])
    (hstep : Reader.start.step token = .ok (Reader.start.readLeaf .plain (.term t))) :
    Tree.parse text = .ok (ofTerm t) :=
  parse_of_reads htext (.one hstep) rfl

/-- A text with a backslash in front of its first character, and of each character that ends a bare
term, is the query of a bare term that searches for the text. Between quotes, with a backslash in
front of each quote and each backslash, it is the query of a phrase that searches for it. Further
backslashes change nothing. -/
theorem parse_of_escapes :
    (∀ c s raw, Text.Escapes Text.needsEscape s raw →
      let text := String.ofList ('\\' :: c :: raw)
      Tree.parse text = .ok (ofTerm ⟨text, .bare⟩) ∧
        Term.unescaped ⟨text, .bare⟩ = String.ofList (c :: s)) ∧
    ∀ s raw, Text.Escapes Text.needsEscapeInPhrase s raw →
      let text := String.ofList raw
      Tree.parse (String.ofList ('"' :: (raw ++ ['"']))) = .ok (ofTerm ⟨text, .quoted⟩) ∧
        Term.unescaped ⟨text, .quoted⟩ = String.ofList s := by
  refine ⟨fun c s raw h => ?_, fun s raw h => ?_⟩
  · intro text
    have htext : text.toList = '\\' :: c :: raw := String.toList_ofList
    have hlexes : Lexes text.toList [.term text] := by
      have hends : (Token.term text).Allows [] := ⟨by simp [Token.Ends], by simp⟩
      have hlexes := Lexes.token (h.lexical_term c) hends .nil
      rwa [List.append_nil] at hlexes
    have hbare : Leaf.ofBare text = .term ⟨text, .bare⟩ := by
      rw [Leaf.ofBare, htext]
      rfl
    refine ⟨parse_of_lexes_single hlexes ?_, ?_⟩
    · rw [← hbare]
      rfl
    · rw [Term.unescaped, if_neg (by simp), Text.unescape, htext,
        h.escaped.unescapeChars_eq (by decide)]
  · intro text
    have htext : text.toList = raw := String.toList_ofList
    have hinside : (Token.quoted text).Lexical := by
      rw [Token.Lexical, htext]
      exact h.isInside
    have hlexes : Lexes (String.ofList ('"' :: (raw ++ ['"']))).toList [.quoted text] := by
      have hlexes := Lexes.token hinside trivial .nil
      rwa [List.append_nil, Token.chars, htext, ← String.toList_ofList (l := _ ++ _)] at hlexes
    refine ⟨parse_of_lexes_single hlexes rfl, ?_⟩
    rw [Term.unescaped, if_neg (by simp), Text.unescape, htext, h.unescapeChars_eq (by decide)]

/-- What would be a comparison and a second clause, and a phrase with a quote in it and a backslash
that it does not need. -/
theorem parse_of_escaped_comparison :
    (Tree.parse "\\>=\\ OR" = .ok (ofTerm ⟨"\\>=\\ OR", .bare⟩) ∧
      Term.unescaped ⟨"\\>=\\ OR", .bare⟩ = ">= OR") ∧
    Tree.parse "\"s\\\"\\:\"" = .ok (ofTerm ⟨"s\\\"\\:", .quoted⟩) ∧
      Term.unescaped ⟨"s\\\"\\:", .quoted⟩ = "s\":" :=
  ⟨parse_of_escapes.1 '>' ['=', ' ', 'O', 'R'] ['=', '\\', ' ', 'O', 'R']
      (.bare (by decide) (.escaped (.bare (by decide) (.bare (by decide) .nil)))),
    parse_of_escapes.2 ['s', '"', ':'] ['s', '\\', '"', '\\', ':']
      (.bare (by decide) (.escaped (.escaped .nil)))⟩

end Tree

end SearchQuery
