import SearchQuery.Proofs.Query.Rereading

/-!
# Trees that can be written

A part of a query is `Writable` if there are tokens that it is written with. Which tokens those are
is no matter when a pass rearranges a query, so this is what is said of a tree on the way from the
text that was read to the text that is written, one rule for each form that a part may take.
-/

namespace SearchQuery

namespace Attributes

variable {a b : Attributes}

theorem LexicalField.of_field_eq (h : b.field = a.field) (ha : a.LexicalField) : b.LexicalField := by
  rwa [LexicalField, h]

theorem lexicalField_of_none (h : a.field = none) : a.LexicalField := by
  intro field hfield
  simp [h] at hfield

theorem lexicalClosing_of_none (hproximity : a.proximity = none) (hboost : a.boost = none) :
    a.LexicalClosing :=
  ⟨fun value h => by simp [hproximity] at h, fun value h => by simp [hboost] at h⟩

theorem Silent.lexicalClosing (h : a.Silent) : a.LexicalClosing :=
  lexicalClosing_of_none h.proximity h.boost

end Attributes

theorem Leaf.Spells.of_field_eq {a b : Attributes} {l : Leaf} {tokens : List Token}
    (h : b.field = a.field) (hl : l.Spells a tokens) : l.Spells b tokens := by
  have htokens : a.fieldTokens = b.fieldTokens := by
    rw [Attributes.fieldTokens, Attributes.fieldTokens, h]
  cases hl with
  | bare ha hexists hmissing htext =>
      rw [htokens]
      exact .bare (ha.of_field_eq h) (h ▸ hexists) (h ▸ hmissing) htext
  | quoted ha htext =>
      rw [htokens]
      exact .quoted (ha.of_field_eq h) htext
  | pattern ha htext =>
      rw [htokens]
      exact .pattern (ha.of_field_eq h) htext
  | range ha hmin hmax =>
      rw [htokens]
      exact .range (ha.of_field_eq h) hmin hmax
  | fieldExists ha hfield => exact .fieldExists (h.trans ha) hfield
  | fieldMissing ha hfield => exact .fieldMissing (h.trans ha) hfield

namespace Tree

def Writable (part : Part) (t : Tree) : Prop :=
  ∃ tokens, Spells part t tokens

variable {id id' : NodeId} {a b : Attributes} {g g' : Group} {l r t : Tree} {question : Leaf}
  {leafId : NodeId}

theorem writable_leaf (ha : a.LexicalClosing) (h : ∃ tokens, question.Spells a tokens) :
    Writable .clause (.leaf id a question) := by
  obtain ⟨tokens, htokens⟩ := h
  exact ⟨_, .leaf ha htokens⟩

theorem spells_of_writable_leaf (h : Writable .clause (.leaf id a question)) :
    a.LexicalClosing ∧ ∃ tokens, question.Spells a tokens := by
  obtain ⟨_, htokens⟩ := h
  cases htokens with
  | leaf ha htokens => exact ⟨ha, _, htokens⟩

theorem Writable.leaf_of_field_eq (h : Writable .clause (.leaf id a question))
    (hfield : b.field = a.field) (hb : b.LexicalClosing) :
    Writable .clause (.leaf id b question) := by
  obtain ⟨-, tokens, htokens⟩ := spells_of_writable_leaf h
  exact writable_leaf hb ⟨tokens, htokens.of_field_eq hfield⟩

theorem Writable.body (h : Writable .body (.group id a g l r)) (id' : NodeId) (b : Attributes)
    (g' : Group) : Writable .body (.group id' b g' l r) := by
  obtain ⟨_, htokens⟩ := h
  cases htokens with
  | empty => exact ⟨_, .empty⟩
  | single hl => exact ⟨_, .single hl⟩
  | pair hl hr => exact ⟨_, .pair hl hr⟩

theorem writable_body (hl : l = .nil ∧ r = .nil ∨ Writable .clause l)
    (hr : r = .nil ∨ Writable .rest r) : Writable .body (.group id a g l r) := by
  rcases hl with ⟨rfl, rfl⟩ | ⟨_, hl⟩
  · exact ⟨_, .empty⟩
  · rcases hr with rfl | ⟨_, hr⟩
    · exact ⟨_, .single hl⟩
    · exact ⟨_, .pair hl hr⟩

theorem slots_of_writable_body (h : Writable .body (.group id a g l r)) :
    (l = .nil ∧ r = .nil ∨ Writable .clause l) ∧ (r = .nil ∨ Writable .rest r) := by
  obtain ⟨_, htokens⟩ := h
  cases htokens with
  | empty => exact ⟨.inl ⟨rfl, rfl⟩, .inl rfl⟩
  | single hl => exact ⟨.inr ⟨_, hl⟩, .inl rfl⟩
  | pair hl hr => exact ⟨.inr ⟨_, hl⟩, .inr ⟨_, hr⟩⟩

theorem writable_group (hparens : g.parens = true) (ha : a.LexicalClosing) (hfield : a.LexicalField)
    (h : Writable .body (.group id a g l r)) : Writable .clause (.group id a g l r) := by
  obtain ⟨_, htokens⟩ := h
  exact ⟨_, .group hparens ha hfield htokens⟩

theorem writable_marked (hparens : g.parens = false) (ha : a.LexicalClosing)
    (hfield : a.field = none) (h : Writable .clause (.leaf leafId b question)) :
    Writable .clause (.group id a g (.leaf leafId b question) .nil) := by
  obtain ⟨hb, tokens, htokens⟩ := spells_of_writable_leaf h
  exact ⟨_, .marked hparens ha hfield hb htokens⟩

theorem writable_silent (hparens : g.parens = false) (ha : a.Silent) (h : Writable .clause l) :
    Writable .clause (.group id a g l .nil) := by
  obtain ⟨_, htokens⟩ := h
  exact ⟨_, .silent hparens ha htokens⟩

theorem Writable.last (h : Writable .clause t) : Writable .rest t := by
  obtain ⟨_, htokens⟩ := h
  exact ⟨_, .last htokens⟩

theorem writable_link (hparens : g.parens = false) (ha : a.Silent) (hl : Writable .clause l)
    (hr : Writable .rest r) : Writable .rest (.group id a g l r) := by
  obtain ⟨_, htokens⟩ := hl
  obtain ⟨_, htokens'⟩ := hr
  exact ⟨_, .link hparens ha htokens htokens'⟩

theorem Writable.isNil_eq_false {part : Part} (h : Writable part t) (hpart : part ≠ .body) :
    t.isNil = false := by
  obtain ⟨_, htokens⟩ := h
  exact htokens.isNil_eq_false hpart

theorem Writable.ne_nil {part : Part} (h : Writable part t) (hpart : part ≠ .body) : t ≠ .nil := by
  rintro rfl
  simpa [isNil] using h.isNil_eq_false hpart

def isPrimary : Tree → Bool
  | nil => false
  | leaf .. => true
  | group _ _ g _ _ => g.parens

theorem isPrimary_withAttrs (t : Tree) (a : Attributes) :
    (t.withAttrs a).isPrimary = t.isPrimary := by
  cases t <;> rfl

theorem Writable.withAttrs (h : Writable .clause t) (hprimary : t.isPrimary = true)
    (hfield : b.field = t.attrs.field) (hb : b.LexicalClosing) :
    Writable .clause (t.withAttrs b) := by
  cases t with
  | nil => simp [isPrimary] at hprimary
  | leaf id a question => exact h.leaf_of_field_eq hfield hb
  | group id a g l r =>
      obtain ⟨_, htokens⟩ := h
      cases htokens with
      | group hparens _ hlexical hbody =>
          exact writable_group hparens hb (hlexical.of_field_eq hfield)
            (Writable.body ⟨_, hbody⟩ id b g)
      | marked hparens => simp [isPrimary, hparens] at hprimary
      | silent hparens => simp [isPrimary, hparens] at hprimary

end Tree

end SearchQuery
