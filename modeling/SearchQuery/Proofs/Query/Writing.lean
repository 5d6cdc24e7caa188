import SearchQuery.Proofs.Query.Grammar

/-!
# The text of a query is read as its tokens

`Tree.Spells.lexes`: the text of a tree is read by the lexer as the tokens that the tree is derived
from, in front of anything that may come behind a clause.
-/

namespace SearchQuery

variable {cs rest : List Char} {tokens later : List Token}

theorem Token.ends_blank : Token.Ends (' ' :: rest) ∧ (' ' :: rest).head? ≠ some ':' :=
  ⟨by simp [Token.Ends, Token.isBoundary, Text.isBlank_space], by simp⟩

namespace Lexes

theorem token_blank {token : Token} (hlexical : token.Lexical) (hblank : token.Allows (' ' :: rest))
    (h : Lexes rest tokens) : Lexes (token.chars ++ ' ' :: rest) (token :: tokens) :=
  .token hlexical hblank (.blank Text.isBlank_space h)

theorem option {token : Option Token} (hlexical : ∀ t ∈ token, t.Lexical)
    (hrest : ∀ t ∈ token, t.Allows rest) (h : Lexes rest tokens) :
    Lexes (token.elim [] Token.chars ++ rest) (token.toList ++ tokens) := by
  cases token with
  | none => exact h
  | some t => exact .token (hlexical t rfl) (hrest t rfl) h

end Lexes

namespace Attributes

variable {a : Attributes}

theorem closing_eq (a : Attributes) :
    a.closing = (a.proximity.map Token.proximity).elim [] Token.chars ++
      (a.boost.map Token.boost).elim [] Token.chars := by
  rw [closing]
  cases a.proximity <;> cases a.boost <;> rfl

theorem lexes_closing (ha : a.LexicalClosing) (hrest : Closes rest) (h : Lexes rest tokens) :
    Closes (a.closing ++ rest) ∧ Lexes (a.closing ++ rest) (a.closingTokens ++ tokens) := by
  have hboost : Closes ((a.boost.map Token.boost).elim [] Token.chars ++ rest) := by
    cases a.boost with
    | none => exact hrest
    | some value => simp [Closes, Token.chars]
  have hproximity : Closes ((a.proximity.map Token.proximity).elim [] Token.chars ++
      ((a.boost.map Token.boost).elim [] Token.chars ++ rest)) := by
    cases a.proximity with
    | none => exact hboost
    | some value => simp [Closes, Token.chars]
  rw [closing_eq, closingTokens, List.append_assoc, List.append_assoc]
  refine ⟨hproximity, .option ?_ ?_ (.option ?_ ?_ h)⟩
  · intro t ht
    obtain ⟨value, hvalue, rfl⟩ := Option.map_eq_some_iff.1 ht
    exact ha.proximity value hvalue
  · intro t ht
    obtain ⟨value, -, rfl⟩ := Option.map_eq_some_iff.1 ht
    exact hboost.endsNumber
  · intro t ht
    obtain ⟨value, hvalue, rfl⟩ := Option.map_eq_some_iff.1 ht
    exact ha.boost value hvalue
  · intro t ht
    obtain ⟨value, -, rfl⟩ := Option.map_eq_some_iff.1 ht
    exact hrest.endsNumber

theorem opening_eq (a : Attributes) :
    a.opening = (a.sign.map Sign.token).elim [] Token.chars ++
      if a.negation.isNegated then "NOT ".toList else [] := by
  rw [opening]
  rcases a.sign with - | - | - <;> rfl

/-- What stands before a field or value runs into nothing that starts with no blank. -/
theorem lexes_opening (hcs : Token.bindsTo cs = true) (h : Lexes cs tokens) :
    Token.bindsTo (a.opening ++ cs) = true ∧
      Lexes (a.opening ++ cs) (a.openingTokens ++ tokens) := by
  have hnegation : Token.bindsTo ((if a.negation.isNegated then "NOT ".toList else []) ++ cs) = true ∧
      Lexes ((if a.negation.isNegated then "NOT ".toList else []) ++ cs)
        ((if a.negation.isNegated then [.not] else []) ++ tokens) := by
    split
    · exact ⟨rfl, .token_blank (show Token.not.Lexical from trivial) Token.ends_blank h⟩
    · exact ⟨hcs, h⟩
  rw [opening_eq, openingTokens, List.append_assoc, List.append_assoc]
  refine ⟨?_, .option ?_ ?_ hnegation.2⟩
  · rcases a.sign with - | - | -
    · exact hnegation.1
    · rfl
    · rfl
  · intro t ht
    obtain ⟨sign, -, rfl⟩ := Option.map_eq_some_iff.1 ht
    cases sign <;> trivial
  · intro t ht
    obtain ⟨sign, -, rfl⟩ := Option.map_eq_some_iff.1 ht
    cases sign <;> exact hnegation.1

theorem fieldMark_eq (ha : a.LexicalField) :
    a.fieldMark = (a.field.map Token.field).elim [] Token.chars := by
  rw [fieldMark, fieldName?]
  cases hfield : a.field with
  | none => rfl
  | some field =>
      have hne : field ≠ "" := by
        rintro rfl
        exact (ha "" hfield).2
      have hfilter : (some field).filter (· ≠ "") = some field := by simp [hne]
      rw [hfilter]
      rfl

theorem lexes_fieldMark (ha : a.LexicalField) (hcs : Token.bindsTo cs = true)
    (h : Lexes cs tokens) :
    Token.bindsTo (a.fieldMark ++ cs) = true ∧
      Lexes (a.fieldMark ++ cs) (a.fieldTokens ++ tokens) := by
  rw [fieldMark_eq ha, fieldTokens]
  refine ⟨?_, .option ?_ ?_ h⟩
  · cases hfield : a.field with
    | none => exact hcs
    | some field => exact Token.bindsTo_chars (ha field hfield) cs
  · intro t ht
    obtain ⟨field, hfield, rfl⟩ := Option.map_eq_some_iff.1 ht
    exact ha field hfield
  · intro t ht
    obtain ⟨field, -, rfl⟩ := Option.map_eq_some_iff.1 ht
    trivial

end Attributes

namespace Leaf

theorem chars_term (a : Attributes) (t : Term) : (term t).chars a = a.fieldMark ++ t.chars := rfl

theorem chars_range (a : Attributes) (r : Range) : (range r).chars a = a.fieldMark ++ r.chars := rfl

/-- A comparison is written as the text that it was read from. -/
theorem chars_of_comparison? {r : Range} (h : comparison? cs = some r) : r.chars = cs := by
  rw [comparison?.eq_def] at h
  split at h
  all_goals first
    | rw [comparison?.atLeast] at h
    | rw [comparison?.atMost] at h
    | simp at h
  all_goals
    split at h
    · simp at h
    · obtain rfl := Option.some.inj h
      simp [Range.chars, Range.isMinInclusive, Range.isMaxInclusive]

theorem chars_ofBare (a : Attributes) (text : String) :
    (ofBare text).chars a = a.fieldMark ++ text.toList := by
  rw [ofBare]
  split
  · next r hr => rw [chars_range, chars_of_comparison? hr]
  · rfl

variable {a : Attributes} {l : Leaf}

theorem chars_fieldExists {field : String} (ha : a.field = some field) :
    fieldExists.chars a = (Token.field "_exists_").chars ++ (Token.term field).chars := by
  rw [chars.eq_def]
  simp [ha, Token.chars]

theorem chars_fieldMissing {field : String} (ha : a.field = some field) :
    fieldMissing.chars a = (Token.field "_missing_").chars ++ (Token.term field).chars := by
  rw [chars.eq_def]
  simp [ha, Token.chars]

theorem chars_between (min max : String) (fromMin toMax : Bool) :
    (Range.mk (some min) (some max) (some fromMin) (some toMax)).chars =
      (if fromMin then Token.leftBracket else Token.leftBrace).chars ++
        ((Token.term min).chars ++ ' ' :: ((Token.term "TO").chars ++ ' ' ::
          ((Token.term max).chars ++
            (if toMax then Token.rightBracket else Token.rightBrace).chars))) := by
  cases fromMin <;> cases toMax <;>
    simp [Range.chars, Range.isMinInclusive, Range.isMaxInclusive, Token.chars]

/-- A range between brackets is read as its five tokens. -/
theorem lexes_between {min max : String} (hmin : (Token.term min).Lexical)
    (hmax : (Token.term max).Lexical) (fromMin toMax : Bool) (h : Lexes rest later) :
    Token.bindsTo ((Range.mk (some min) (some max) (some fromMin) (some toMax)).chars ++ rest) =
        true ∧
      Lexes ((Range.mk (some min) (some max) (some fromMin) (some toMax)).chars ++ rest)
        ([if fromMin then .leftBracket else .leftBrace, .term min, .term "TO", .term max,
          if toMax then .rightBracket else .rightBrace] ++ later) := by
  have hclose : Lexes ((if toMax then Token.rightBracket else Token.rightBrace).chars ++ rest)
      ((if toMax then .rightBracket else .rightBrace) :: later) := by
    cases toMax <;> exact .token trivial trivial h
  have hends : (Token.term max).Allows
      ((if toMax then Token.rightBracket else Token.rightBrace).chars ++ rest) := by
    cases toMax <;> exact ⟨by simp [Token.chars, Token.Ends]; decide, by simp [Token.chars]⟩
  have hword : (Token.term "TO").Lexical := ⟨by decide, by simp [Token.Leads], by decide⟩
  have hinside := Lexes.token_blank hmin Token.ends_blank
    (.token_blank hword Token.ends_blank (.token hmax hends hclose))
  rw [chars_between]
  simp only [List.append_assoc, List.cons_append, List.nil_append] at hinside ⊢
  cases fromMin with
  | true => exact ⟨rfl, .token trivial trivial hinside⟩
  | false => exact ⟨rfl, .token trivial trivial hinside⟩

theorem Spells.lexes (h : l.Spells a tokens) (hrest : Closes rest) (hlater : Lexes rest later) :
    Token.bindsTo (l.chars a ++ rest) = true ∧ Lexes (l.chars a ++ rest) (tokens ++ later) := by
  cases h with
  | @bare text ha _ _ h =>
      rw [chars_ofBare, List.append_assoc, List.append_assoc]
      exact Attributes.lexes_fieldMark ha (Token.bindsTo_chars h rest) (.token h hrest.ends hlater)
  | @quoted text ha h =>
      rw [chars_term, List.append_assoc, List.append_assoc]
      exact Attributes.lexes_fieldMark ha (Token.bindsTo_chars h rest) (.token h trivial hlater)
  | @pattern text ha h =>
      rw [chars_term, List.append_assoc, List.append_assoc]
      exact Attributes.lexes_fieldMark ha (Token.bindsTo_chars h rest) (.token h trivial hlater)
  | @range min max fromMin toMax ha hmin hmax =>
      obtain ⟨hbinds, hrange⟩ := lexes_between hmin hmax fromMin toMax hlater
      rw [chars_range, List.append_assoc, List.append_assoc]
      exact Attributes.lexes_fieldMark ha hbinds hrange
  | @fieldExists field ha h =>
      have hname : (Token.field "_exists_").Lexical := ⟨by decide, by simp [Token.Leads]⟩
      rw [chars_fieldExists ha, List.append_assoc]
      exact ⟨Token.bindsTo_chars hname _, .token hname trivial (.token h hrest.ends hlater)⟩
  | @fieldMissing field ha h =>
      have hname : (Token.field "_missing_").Lexical := ⟨by decide, by simp [Token.Leads]⟩
      rw [chars_fieldMissing ha, List.append_assoc]
      exact ⟨Token.bindsTo_chars hname _, .token hname trivial (.token h hrest.ends hlater)⟩

end Leaf

namespace Operator

theorem lexes_chars (operator : Operator) (hcs : Token.bindsTo cs = true) (h : Lexes cs tokens) :
    Token.bindsTo (operator.chars ++ cs) = true ∧
      Lexes (operator.chars ++ cs) (operator.tokens ++ tokens) := by
  cases operator with
  | default => exact ⟨hcs, h⟩
  | and => exact ⟨rfl, .token_blank (show Token.and.Lexical from trivial) Token.ends_blank h⟩
  | or => exact ⟨rfl, .token_blank (show Token.or.Lexical from trivial) Token.ends_blank h⟩

end Operator

namespace Tree

variable {t l r : Tree} {tokens' : List Token}

theorem chars_leaf (id : NodeId) (a : Attributes) (l : Leaf) :
    (leaf id a l).chars = a.opening ++ (l.chars a ++ a.closing) := by
  rw [chars, List.append_assoc]

theorem chars_group (id : NodeId) (a : Attributes) (g : Group) (l r : Tree) :
    (group id a g l r).chars = a.opening ++ (a.fieldMark ++ ((if g.parens then ['('] else []) ++
      ((group id a g l r).inner ++ ((if g.parens then [')'] else []) ++ a.closing)))) := by
  simp only [chars, inner, List.append_assoc]

theorem inner_group_nil (id : NodeId) (a : Attributes) (g : Group) (l : Tree) :
    (group id a g l nil).inner = l.chars :=
  List.append_nil _

theorem inner_group (id : NodeId) (a : Attributes) (g : Group) (hl : l.isNil = false)
    (hr : r.isNil = false) :
    (group id a g l r).inner = l.chars ++ ' ' :: (g.operator.chars ++ r.chars) := by
  simp [inner, hl, hr]

theorem chars_of_silent {a : Attributes} {g : Group} (ha : a.Silent) (hparens : g.parens = false)
    (id : NodeId) (l r : Tree) : (group id a g l r).chars = (group id a g l r).inner := by
  obtain ⟨field, negation, sign, boost, proximity⟩ := a
  obtain ⟨rfl, rfl, hnegation, rfl, rfl⟩ := ha
  have hnegation : negation.isNegated = false := hnegation
  rw [chars_group, hparens]
  simp [Attributes.opening, Attributes.fieldMark, Attributes.fieldName?, Attributes.closing,
    hnegation]

/-- A group without parentheses and without a field around a single clause. -/
theorem chars_of_marked {a : Attributes} {g : Group} (hfield : a.field = none)
    (hparens : g.parens = false) (id : NodeId) (l : Tree) :
    (group id a g l nil).chars = a.opening ++ (l.chars ++ a.closing) := by
  have hmark : a.fieldMark = [] := by simp [Attributes.fieldMark, Attributes.fieldName?, hfield]
  rw [chars_group, hparens, hmark, inner_group_nil]
  rfl

namespace Spells

theorem lexes_sides (id : NodeId) (a : Attributes) (g : Group) (hl : Spells .clause l tokens)
    (hr : Spells .rest r tokens') (hrest : Closes rest) (hlater : Lexes rest later)
    (ihl : ∀ {rest later}, Closes rest → Lexes rest later →
      Token.bindsTo (l.chars ++ rest) = true ∧ Lexes (l.chars ++ rest) (tokens ++ later))
    (ihr : ∀ {rest later}, Closes rest → Lexes rest later →
      Token.bindsTo (r.chars ++ rest) = true ∧ Lexes (r.chars ++ rest) (tokens' ++ later)) :
    Token.bindsTo ((Tree.group id a g l r).inner ++ rest) = true ∧
      Lexes ((Tree.group id a g l r).inner ++ rest)
        ((tokens ++ (g.operator.tokens ++ tokens')) ++ later) := by
  obtain ⟨hbinds, hright⟩ := ihr hrest hlater
  have hoperator := (g.operator.lexes_chars hbinds hright).2
  rw [inner_group id a g (hl.isNil_eq_false (by decide)) (hr.isNil_eq_false (by decide))]
  simp only [List.append_assoc, List.cons_append]
  exact ihl (by simp [Closes]) (.blank Text.isBlank_space hoperator)

/-- The text of a tree is read as the tokens that the tree is derived from. -/
theorem lexes {part : Part} (h : Spells part t tokens) (hrest : Closes rest)
    (hlater : Lexes rest later) :
    (part ≠ .body → Token.bindsTo (part.chars t ++ rest) = true) ∧
      Lexes (part.chars t ++ rest) (tokens ++ later) := by
  induction h generalizing rest later with
  | @leaf id a l tokens ha h =>
      obtain ⟨hcloses, hclosing⟩ := Attributes.lexes_closing ha hrest hlater
      obtain ⟨hbinds, hleaf⟩ := h.lexes hcloses hclosing
      obtain ⟨hbinds, hopening⟩ := Attributes.lexes_opening hbinds hleaf
      rw [Part.chars, chars_leaf]
      simp only [List.append_assoc]
      exact ⟨fun _ => hbinds, hopening⟩
  | @group id a g l r tokens hparens ha hfield _ ih =>
      obtain ⟨-, hclosing⟩ := Attributes.lexes_closing ha hrest hlater
      have hright : Lexes (')' :: (a.closing ++ rest)) (.rightParen :: (a.closingTokens ++ later)) :=
        Lexes.token (show Token.rightParen.Lexical from trivial) trivial hclosing
      have hinner := (ih (by simp [Closes]) hright).2
      have hleft := Lexes.token (show Token.leftParen.Lexical from trivial) trivial hinner
      obtain ⟨hbinds, hmark⟩ := Attributes.lexes_fieldMark hfield rfl hleft
      obtain ⟨hbinds, hopening⟩ := Attributes.lexes_opening hbinds hmark
      rw [Part.chars, chars_group, if_pos hparens, if_pos hparens]
      simp only [List.append_assoc, List.cons_append, List.nil_append, Token.chars, Part.chars]
        at hbinds hopening ⊢
      exact ⟨fun _ => hbinds, hopening⟩
  | @marked id a g leafId b l tokens hparens ha hfield hb h =>
      obtain ⟨hcloses, hclosing⟩ := Attributes.lexes_closing ha hrest hlater
      obtain ⟨hcloses, hclosing⟩ := Attributes.lexes_closing hb hcloses hclosing
      obtain ⟨hbinds, hleaf⟩ := h.lexes hcloses hclosing
      obtain ⟨hbinds, hopening⟩ := Attributes.lexes_opening hbinds hleaf
      obtain ⟨hbinds, hopening⟩ := Attributes.lexes_opening hbinds hopening
      rw [Part.chars, chars_of_marked hfield hparens, chars_leaf]
      simp only [List.append_assoc]
      exact ⟨fun _ => hbinds, hopening⟩
  | @silent id a g l tokens hparens ha _ ih =>
      rw [Part.chars, chars_of_silent ha hparens, inner_group_nil]
      exact ih hrest hlater
  | last _ ih => exact ⟨fun _ => (ih hrest hlater).1 (by decide), (ih hrest hlater).2⟩
  | @link id a g l r _ _ hparens ha hl hr ihl ihr =>
      rw [Part.chars, chars_of_silent ha hparens]
      obtain ⟨hbinds, hsides⟩ := lexes_sides id a g hl hr hrest hlater
        (fun hrest hlater => ⟨(ihl hrest hlater).1 (by decide), (ihl hrest hlater).2⟩)
        (fun hrest hlater => ⟨(ihr hrest hlater).1 (by decide), (ihr hrest hlater).2⟩)
      exact ⟨fun _ => hbinds, hsides⟩
  | empty => exact ⟨fun h => absurd rfl h, hlater⟩
  | single _ ih =>
      rw [Part.chars, inner_group_nil]
      exact ⟨fun h => absurd rfl h, (ih hrest hlater).2⟩
  | @pair id a g l r _ _ hl hr ihl ihr =>
      refine ⟨fun h => absurd rfl h, (lexes_sides id a g hl hr hrest hlater ?_ ?_).2⟩
      · exact fun hrest hlater => ⟨(ihl hrest hlater).1 (by decide), (ihl hrest hlater).2⟩
      · exact fun hrest hlater => ⟨(ihr hrest hlater).1 (by decide), (ihr hrest hlater).2⟩

end Spells

end Tree

end SearchQuery
