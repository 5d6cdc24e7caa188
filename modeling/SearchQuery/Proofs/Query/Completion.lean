import SearchQuery.Proofs.Query.Building
import SearchQuery.Proofs.Token.Scanning
import SearchQuery.Store.View

/-!
# Every beginning can be completed

Whatever a reader has read, there are tokens that bring it to the end of a query,
`Reader.exists_reads_completion`: what the mode asks for, and a parenthesis for each open group. As
a text, `Reader.ending`, they can be written behind the token that was read last, for a blank comes
in front where the last token might go on, and none where it is a sign.

A parse error is noticed at a token, at a fault of the lexer or at the end of the text, and the
reader got through everything before it. So the text up to there can go on as a query,
`Store.exists_parse_of_parse_eq_error`, but not with the token at fault,
`Tree.parse_eq_error_of_same_lexemes`.
-/

namespace SearchQuery

namespace Reader

def Mode.completion : Mode → List Token
  | between | marked _ | value .. => [.quoted ""]
  | lowerBound _ => [.quoted "", .term "TO", .quoted "", .rightBracket]
  | rangeWord .. => [.term "TO", .quoted "", .rightBracket]
  | upperBound .. => [.quoted "", .rightBracket]
  | rangeEnd .. => [.rightBracket]
  | modifiers _ => []

def completion (r : Reader) : List Token :=
  r.mode.completion ++ List.replicate r.outer.length .rightParen

/-- What keeps the next token apart from the last one. Behind a sign it has to be nothing. -/
def Mode.gap : Mode → List Char
  | marked _ => []
  | _ => [' ']

def ending (r : Reader) : List Char :=
  r.mode.gap ++ r.completion.flatMap Token.chars

section Reading

variable {r r' : Reader}

theorem exists_reads_mode_completion (r : Reader) :
    ∃ clause next,
      Reads r r.mode.completion { r with mode := .modifiers clause, next := next } := by
  obtain ⟨mode, group, outer, next⟩ := r
  cases mode with
  | between => exact ⟨_, _, .one rfl⟩
  | marked => exact ⟨_, _, .one rfl⟩
  | value => exact ⟨_, _, .one rfl⟩
  | lowerBound => exact ⟨_, _, .cons rfl (.cons rfl (.cons rfl (.one rfl)))⟩
  | rangeWord => exact ⟨_, _, .cons rfl (.cons rfl (.one rfl))⟩
  | upperBound => exact ⟨_, _, .cons rfl (.one rfl)⟩
  | rangeEnd => exact ⟨_, _, .one rfl⟩
  | modifiers clause => exact ⟨clause, next, .nil _⟩

/-- Behind a clause all open groups can be closed. -/
theorem exists_reads_rightParens {clause : Tree} (h : r.mode = .modifiers clause) :
    ∃ r' clause', Reads r (List.replicate r.outer.length .rightParen) r' ∧
      r'.mode = .modifiers clause' ∧ r'.outer = [] := by
  generalize houter : r.outer = outer
  induction outer generalizing r clause with
  | nil => exact ⟨r, clause, .nil r, h, houter⟩
  | cons around outer ih =>
      have hsettled : r.settled = r.endClause clause := by rw [settled, h]
      have hstep := step_rightParen (r := r) (by rw [hsettled]; rfl) (by rw [hsettled]; rfl)
        (by rw [hsettled]; exact houter)
      obtain ⟨r', clause', hreads, hmode, hnil⟩ := ih (r := ⟨.modifiers _, around, outer, _⟩) rfl rfl
      exact ⟨r', clause', .cons hstep hreads, hmode, hnil⟩

theorem exists_finish_eq_ok {clause : Tree} (h : r.mode = .modifiers clause)
    (houter : r.outer = []) : ∃ t, r.finish = .ok t := by
  obtain ⟨mode, group, outer, next⟩ := r
  obtain rfl : mode = .modifiers clause := h
  obtain rfl : outer = [] := houter
  exact ⟨_, rfl⟩

/-- Every reader gets through the tokens that complete the query, and then to the end. -/
theorem exists_reads_completion (r : Reader) :
    ∃ r' t, Reads r r.completion r' ∧ r'.finish = .ok t := by
  obtain ⟨clause, next, hclause⟩ := r.exists_reads_mode_completion
  obtain ⟨r', clause', hclose, hmode, houter⟩ :=
    exists_reads_rightParens (r := { r with mode := .modifiers clause, next := next }) rfl
  obtain ⟨t, ht⟩ := exists_finish_eq_ok hmode houter
  exact ⟨r', t, hclause.append hclose, ht⟩

end Reading

section Writing

variable {r r' : Reader} {rest : List Char} {tokens : List Token} {token : Token}

theorem lexes_rightParens (n : Nat) :
    Lexes ((List.replicate n Token.rightParen).flatMap Token.chars)
      (List.replicate n .rightParen) := by
  induction n with
  | zero => exact .nil
  | succ n ih =>
      rw [List.replicate_succ, List.flatMap_cons]
      exact .token trivial trivial ih

theorem Mode.lexes_completion (mode : Mode) (h : Lexes rest tokens) :
    Lexes (mode.completion.flatMap Token.chars ++ rest) (mode.completion ++ tokens) := by
  have hphrase : ∀ {rest tokens}, Lexes rest tokens →
      Lexes ((Token.quoted "").chars ++ rest) (.quoted "" :: tokens) :=
    fun h => .token (show Token.IsInside '"' "".toList by decide) trivial h
  have hword : ∀ {rest tokens}, Lexes ((Token.quoted "").chars ++ rest) tokens →
      Lexes ((Token.term "TO").chars ++ ((Token.quoted "").chars ++ rest))
        (.term "TO" :: tokens) :=
    fun h => .token ⟨by decide, by simp [Token.Leads], by decide⟩
      ⟨by simp [Token.chars, Token.Ends, Token.isBoundary], by simp [Token.chars]⟩ h
  have hclose : Lexes (Token.rightBracket.chars ++ rest) (.rightBracket :: tokens) :=
    .token trivial trivial h
  cases mode <;>
    simp only [completion, List.flatMap_cons, List.flatMap_nil, List.append_assoc,
      List.nil_append, List.append_nil, List.cons_append]
  case between | marked | value => exact hphrase h
  case lowerBound => exact hphrase (hword (hphrase hclose))
  case rangeWord => exact hword (hphrase hclose)
  case upperBound => exact hphrase hclose
  case rangeEnd => exact hclose
  case modifiers => exact h

theorem Mode.gap_cases (mode : Mode) :
    (∃ a, mode = .marked a) ∧ mode.gap = [] ∨ (∀ a, mode ≠ .marked a) ∧ mode.gap = [' '] := by
  cases mode with
  | marked a => exact .inl ⟨⟨a, rfl⟩, rfl⟩
  | _ => exact .inr ⟨by simp, rfl⟩

theorem lexes_ending (r : Reader) : Lexes r.ending r.completion := by
  have hlexes := r.mode.lexes_completion (lexes_rightParens r.outer.length)
  rw [ending, completion, List.flatMap_append]
  obtain ⟨-, hgap⟩ | ⟨-, hgap⟩ := r.mode.gap_cases
  · rwa [hgap]
  · rw [hgap]
    exact .blank Text.isBlank_space hlexes

/-- All tokens but signs end in front of a blank. -/
theorem precedes_blank (h : token ∉ [.plus, .minus]) : token.Precedes (' ' :: rest) := by
  have hends : Token.Ends (' ' :: rest) := by simp [Token.Ends, Token.isBoundary, Text.isBlank_space]
  have hnumber : Token.EndsNumber (' ' :: rest) := by
    rintro c ⟨⟩
    decide
  refine ⟨?_, fun _ => rfl⟩
  cases token with
  | plus | minus => simp at h
  | term | and | or | not => exact ⟨hends, by simp⟩
  | boost | proximity => exact hnumber
  | _ => trivial

/-- All tokens but lone signs end in front of a phrase. -/
theorem precedes_quote (h : ¬ token.IsLoneSign) : token.Precedes ('"' :: rest) := by
  have hends : Token.Ends ('"' :: rest) := by simp [Token.Ends, Token.isBoundary]
  have hnumber : Token.EndsNumber ('"' :: rest) := by
    rintro c ⟨⟩
    decide
  refine ⟨?_, fun hsign => absurd hsign h⟩
  cases token with
  | term | and | or | not => exact ⟨hends, by simp⟩
  | plus | minus => rfl
  | boost | proximity => exact hnumber
  | _ => trivial

theorem precedes_ending_of_marked {a : Attributes} (hmode : r.mode = .marked a)
    (h : ¬ token.IsLoneSign) : token.Precedes r.ending := by
  rw [ending, completion, hmode]
  exact precedes_quote h

theorem precedes_ending (hmode : ∀ a, r.mode ≠ .marked a) (h : token ∉ [.plus, .minus]) :
    token.Precedes r.ending := by
  obtain ⟨⟨a, hmarked⟩, -⟩ | ⟨-, hgap⟩ := r.mode.gap_cases
  · exact absurd hmarked (hmode a)
  · rw [ending, hgap]
    exact precedes_blank h

theorem not_sign_of_bound? {text : String} (h : bound? token = some text) :
    token ∉ [.plus, .minus] := by
  cases token <;> simp [bound?] at h <;> simp

/-- The ending of a reader comes behind the token that was read last. A sign leads to where no blank
comes in between, and a lone sign, which needs one, does not lead there. -/
theorem Takes.precedes_ending (h : r.Takes token r') : token.Precedes r'.ending := by
  cases h with
  | plus | minus | not => exact precedes_ending_of_marked rfl (by decide)
  | field | leftParen | term | quoted | pattern | fieldExists | fieldMissing | leftBracket | leftBrace
  | rightBracket | rightBrace | boost | proximity | rightParen =>
      exact Reader.precedes_ending (by simp [readLeaf, openGroup, closeRange]) (by simp)
  | rangeWord => exact Reader.precedes_ending (by simp) (by decide)
  | lowerBound _ hbound | upperBound _ hbound =>
      exact Reader.precedes_ending (by simp) (not_sign_of_bound? hbound)
  | and h | or h => exact Reader.precedes_ending (by simp [h]) (by decide)

theorem precedes_ending_of_step (h : r.step token = .ok r') : token.Precedes r'.ending := by
  rcases takes_of_step h with h | h
  · exact h.precedes_ending
  · exact h.precedes_ending

end Writing

theorem Reads.exists_last {r r' : Reader} {tokens : List Token} {token : Token}
    (h : Reads r (tokens ++ [token]) r') : ∃ middle : Reader, middle.step token = .ok r' := by
  induction tokens generalizing r with
  | nil =>
      obtain ⟨next, hstep, hrest⟩ := h.exists_step
      obtain rfl := Except.ok.inj hrest
      exact ⟨r, hstep⟩
  | cons first tokens ih =>
      obtain ⟨next, -, hrest⟩ := h.exists_step
      exact ih hrest

/-- A fault is at a lexeme up to which the reader got, and nothing that follows can mend it. -/
theorem exists_reads_of_steps_eq_error {r : Reader} {lexemes : List Lexeme} {e : ParseError}
    (h : r.steps lexemes = .error e) :
    ∃ xs x ys r', lexemes = xs ++ x :: ys ∧ Reads r (xs.map (·.token)) r' ∧
      e.position = x.start ∧ ∀ zs, r.steps (xs ++ x :: zs) = .error e := by
  induction lexemes generalizing r with
  | nil => cases h
  | cons lexeme rest ih =>
      rw [steps] at h
      split at h
      · next next hstep =>
          obtain ⟨xs, x, ys, r', rfl, hreads, hposition, hfault⟩ := ih h
          refine ⟨lexeme :: xs, x, ys, r', rfl, .cons hstep hreads, hposition, fun zs => ?_⟩
          rw [List.cons_append, steps, hstep]
          exact hfault zs
      · next fault hstep =>
          obtain rfl := Except.error.inj h
          refine ⟨[], lexeme, rest, r, rfl, .nil r, rfl, fun zs => ?_⟩
          rw [List.nil_append, steps, hstep]

end Reader

namespace Tree

variable {text : String} {e : ParseError}

/-- A parse error is a fault of the reader at a lexeme, or is found where the lexer stops. -/
theorem parse_eq_error_cases (h : Tree.parse text = .error e) :
    Reader.start.steps (Lexing.ofString text).lexemes = .error e ∨
      ∃ r, Reader.start.Reads ((Lexing.ofString text).lexemes.map (·.token)) r ∧
        e.position = (Lexing.ofString text).stop := by
  rw [Tree.parse, Lexing.query] at h
  cases hsteps : Reader.start.steps (Lexing.ofString text).lexemes with
  | error error =>
      rw [hsteps] at h
      exact .inl (congrArg Except.error (Except.error.inj h))
  | ok r =>
      refine .inr ⟨r, Reader.Reads.steps_iff.1 hsteps, ?_⟩
      rw [hsteps] at h
      dsimp only [bind, Except.bind] at h
      split at h
      · next error herror =>
          obtain rfl := Except.error.inj h
          rw [Lexing.error?, Option.map_eq_some_iff] at herror
          obtain ⟨fault, -, rfl⟩ := herror
          rfl
      · split at h
        · cases h
        · exact (congrArg (·.position) (Except.error.inj h)).symm

/-- The reader gets through all lexemes in front of the place that a parse error names. -/
theorem exists_reads_of_parse_eq_error (h : Tree.parse text = .error e) :
    ∃ xs ys r, (Lexing.ofString text).lexemes = xs ++ ys ∧
      Reader.start.Reads (xs.map (·.token)) r ∧
      e.position = Lexing.place (Lexing.ofString text).stop ys := by
  obtain hsteps | ⟨r, hreads, hposition⟩ := parse_eq_error_cases h
  · obtain ⟨xs, x, ys, r, hlexemes, hreads, hposition, -⟩ :=
      Reader.exists_reads_of_steps_eq_error hsteps
    exact ⟨xs, x :: ys, r, hlexemes, hreads, hposition⟩
  · exact ⟨_, [], r, (List.append_nil _).symm, hreads, hposition⟩

/-- A parse error in front of the place where the lexer stops is at a lexeme that no query has behind
the same lexemes. -/
theorem parse_eq_error_of_same_lexemes (h : Tree.parse text = .error e)
    (hposition : e.position ≠ (Lexing.ofString text).stop) :
    ∃ xs x ys, (Lexing.ofString text).lexemes = xs ++ x :: ys ∧ e.position = x.start ∧
      ∀ text' zs, (Lexing.ofString text').lexemes = xs ++ x :: zs →
        Tree.parse text' = .error e := by
  obtain hsteps | ⟨r, -, hstop⟩ := parse_eq_error_cases h
  · obtain ⟨xs, x, ys, -, hlexemes, -, hstart, hfault⟩ :=
      Reader.exists_reads_of_steps_eq_error hsteps
    refine ⟨xs, x, ys, hlexemes, hstart, fun text' zs hlexemes' => ?_⟩
    rw [Tree.parse, Lexing.query, hlexemes', hfault zs]
    rfl
  · exact absurd hstop hposition

theorem exists_parse_append {xs ys : List Lexeme} {r : Reader}
    (hlexemes : (Lexing.ofString text).lexemes = xs ++ ys)
    (hreads : Reader.start.Reads (xs.map (·.token)) r) :
    Lexing.place (Lexing.ofString text).stop ys ≤ text.length ∧
      ∃ t, Tree.parse (String.ofList
        (text.toList.take (Lexing.place (Lexing.ofString text).stop ys) ++ r.ending)) = .ok t := by
  obtain ⟨front, behind, htext, hpasses, hplace⟩ := Lexing.exists_passes hlexemes
  have hplace : front.length = Lexing.place (Lexing.ofString text).stop ys :=
    (Nat.zero_add _).symm.trans hplace
  have hlast : ∀ x ∈ xs.getLast?, x.token.Precedes r.ending := by
    intro x hx
    obtain ⟨before, rfl⟩ := List.getLast?_eq_some_iff.1 hx
    rw [List.map_append] at hreads
    obtain ⟨middle, hstep⟩ := hreads.exists_last
    exact Reader.precedes_ending_of_step hstep
  obtain ⟨r', t, hcompletion, hfinish⟩ := r.exists_reads_completion
  refine ⟨?_, t, Tree.parse_of_reads ?_ (hreads.append hcompletion) hfinish⟩
  · rw [← hplace, ← String.length_toList, htext, List.length_append]
    exact Nat.le_add_right _ _
  · rw [String.toList_ofList, ← hplace, htext, List.take_left]
    exact hpasses.lexes_append hlast r.lexes_ending

end Tree

namespace Store

/-- Up to the place that the error names, a text that is no query is the beginning of one. -/
theorem exists_parse_of_parse_eq_error {text : String} {e : ParseError}
    (h : Store.parse text = .error e) :
    e.position ≤ text.length ∧ ∃ (more : List Char) (s : Store),
      Store.parse (String.ofList (text.toList.take e.position ++ more)) = .ok s := by
  have htree : Tree.parse text = .error e := by
    rw [Store.parse] at h
    cases hparse : Tree.parse text with
    | error error =>
        rw [hparse] at h
        exact congrArg Except.error (Except.error.inj h)
    | ok t =>
        rw [hparse] at h
        cases h
  obtain ⟨xs, ys, r, hlexemes, hreads, hposition⟩ := Tree.exists_reads_of_parse_eq_error htree
  obtain ⟨hle, t, ht⟩ := Tree.exists_parse_append hlexemes hreads
  rw [hposition]
  refine ⟨hle, r.ending, ofTree t, ?_⟩
  rw [Store.parse, ht]
  rfl

theorem exists_parse_of_missing_bound :
    Store.parse "(a OR -f:[+ TO )" = .error ⟨.rangeBoundMissing (some .rightParen), 15⟩ ∧
      15 ≤ "(a OR -f:[+ TO )".length ∧ ∃ (more : List Char) (s : Store),
        Store.parse (String.ofList ("(a OR -f:[+ TO )".toList.take 15 ++ more)) = .ok s := by
  have h : Store.parse "(a OR -f:[+ TO )" =
      .error ⟨.rangeBoundMissing (some .rightParen), 15⟩ := by decide +kernel
  exact ⟨h, exists_parse_of_parse_eq_error h⟩

end Store

end SearchQuery
