import SearchQuery.Proofs.Query.Rereading
import SearchQuery.Proofs.Query.Width

/-!
# Marks that come back in another order

The text of what is heard of a tree is no longer than the text of the tree, and it is the same text
unless marks are scattered, `Tree.all_echoesText`. Where the marks of a group are written next to
those of its leaf, the reader puts the sign in front of the negation and the proximity in front of
the boost, and keeps one of each.
-/

namespace SearchQuery

/-- Lists that are no longer than others are the others exactly if they are put together. -/
theorem append_eq_append_iff_of_length_le {α : Type} {xs xs' ys ys' : List α}
    (hxs : xs'.length ≤ xs.length) (hys : ys'.length ≤ ys.length) :
    xs' ++ ys' = xs ++ ys ↔ xs' = xs ∧ ys' = ys := by
  refine ⟨fun heq => List.append_inj heq ?_, fun heq => by rw [heq.1, heq.2]⟩
  have hlength := congrArg List.length heq
  rw [List.length_append, List.length_append] at hlength
  omega

namespace Attributes

/-- Whether the marks of a group and those of a node, side by side, are not the marks of one node: a
negation with a negation or a sign behind it, a second sign or boost, or a proximity behind a
modifier. -/
def scatters (outer inner : Attributes) : Bool :=
  (outer.negation.isNegated && (inner.negation.isNegated || inner.sign.isSome)) ||
    (outer.sign.isSome && inner.sign.isSome) ||
    (outer.proximity.isSome && (inner.proximity.isSome || inner.boost.isSome)) ||
    (outer.boost.isSome && inner.boost.isSome)

theorem opening_heard (a : Attributes) : a.heard.opening = a.opening := by
  rw [opening, opening, heard, Negation.isNegated_heard]

theorem opening_around (a b : Attributes) :
    (a.around b.heard).opening.length ≤ (a.opening ++ b.opening).length ∧
      ((a.around b.heard).opening = a.opening ++ b.opening ↔
        (a.negation.isNegated && (b.negation.isNegated || b.sign.isSome) ||
          a.sign.isSome && b.sign.isSome) = false) := by
  simp only [opening, around, heard, Negation.isNegated_merge, Negation.isNegated_heard]
  generalize a.negation.isNegated = m, b.negation.isNegated = n
  rcases a.sign with - | - | - <;> rcases b.sign with - | - | - <;> revert m n <;> decide

theorem closing_around (a b : Attributes) :
    (a.around b.heard).closing.length ≤ (b.closing ++ a.closing).length ∧
      ((a.around b.heard).closing = b.closing ++ a.closing ↔
        (a.proximity.isSome && (b.proximity.isSome || b.boost.isSome) ||
          a.boost.isSome && b.boost.isSome) = false) := by
  constructor
  · have hproximity := modifierWidth_or a.proximity b.proximity
    have hboost := modifierWidth_or a.boost b.boost
    rw [List.length_append, length_closing, length_closing, length_closing]
    simp only [around, heard]
    omega
  · -- where a modifier is written twice the text is too long
    have hlonger : ∀ {xs ys : List Char}, xs.length < ys.length → xs ≠ ys :=
      fun hlt heq => Nat.ne_of_lt hlt (congrArg List.length heq)
    simp only [closing, around, heard]
    cases a.proximity <;> cases a.boost <;> cases b.proximity <;> cases b.boost <;> simp
    all_goals
      refine hlonger ?_
      simp only [List.length_append, List.length_cons]
      omega

/-- The marks of a group and of a node, written side by side, are those that are heard exactly if
they are not scattered. -/
theorem scatters_eq_false_iff (a b : Attributes) : a.scatters b = false ↔
    (a.around b.heard).opening = a.opening ++ b.opening ∧
      (a.around b.heard).closing = b.closing ++ a.closing := by
  rw [(opening_around a b).2, (closing_around a b).2, scatters]
  simp only [Bool.or_eq_false_iff, and_assoc]

theorem scatters_of_silent {a : Attributes} (ha : a.Silent) (b : Attributes) :
    a.scatters b = false := by
  rw [scatters, ha.negation, ha.sign, ha.proximity, ha.boost]
  rfl

end Attributes

namespace Tree

variable {part : Part} {t : Tree} {tokens : List Token}

/-- Whether somewhere the marks of a group are scattered around those of the node in it. -/
def scattersMarks : Tree → Bool
  | nil => false
  | leaf .. => false
  | group _ a g l r =>
      (!g.parens && r.isNil && a.scatters l.attrs) || l.scattersMarks || r.scattersMarks

/-- The text of what is heard of a tree is no longer than that of the tree, and the same if and only
if no marks are scattered. -/
structure EchoesText (t : Tree) : Prop where
  isNil : t.echo.isNil = t.isNil
  length_le : t.echo.chars.length ≤ t.chars.length
  chars_eq_iff : t.echo.chars = t.chars ↔ t.scattersMarks = false

theorem echoesText_leaf (id : NodeId) (a : Attributes) (l : Leaf) : EchoesText (leaf id a l) := by
  have hchars : (leaf id a l).echo.chars = (leaf id a l).chars := by
    rw [echo_leaf, chars_leaf, chars_leaf, Attributes.opening_heard, chars_of_field_eq rfl]
    rfl
  exact ⟨rfl, hchars ▸ Nat.le_refl _, iff_of_true hchars rfl⟩

theorem echoesText_marked {g : Group} (hparens : g.parens = false) {a : Attributes}
    (hfield : a.field = none) (id leafId : NodeId) (b : Attributes) (l : Leaf) :
    EchoesText (group id a g (leaf leafId b l) nil) := by
  have hecho : (group id a g (leaf leafId b l) nil).echo.chars =
      (a.around b.heard).opening ++ (l.chars b ++ (a.around b.heard).closing) := by
    rw [echo_of_marked hparens, echo_leaf]
    exact (chars_leaf leafId (a.around b.heard) l).trans
      (by rw [chars_of_field_eq (a := b) (b := a.around b.heard) rfl])
  have hchars : (group id a g (leaf leafId b l) nil).chars =
      (a.opening ++ b.opening) ++ (l.chars b ++ (b.closing ++ a.closing)) := by
    rw [chars_of_marked hfield hparens, chars_leaf]
    simp only [List.append_assoc]
  have hopening := (Attributes.opening_around a b).1
  have hclosing := (Attributes.closing_around a b).1
  have hscatters : (group id a g (leaf leafId b l) nil).scattersMarks = a.scatters b := by
    simp [scattersMarks, hparens, isNil, attrs]
  refine ⟨by rw [echo_of_marked hparens]; rfl, ?_, ?_⟩
  · rw [hecho, hchars]
    simp only [List.length_append] at hopening hclosing ⊢
    omega
  · have hbehind : (l.chars b ++ (a.around b.heard).closing).length ≤
        (l.chars b ++ (b.closing ++ a.closing)).length := by
      rw [List.length_append, List.length_append]
      omega
    rw [hecho, hchars, append_eq_append_iff_of_length_le hopening hbehind,
      List.append_cancel_left_eq, hscatters, Attributes.scatters_eq_false_iff]

/-- What is heard of the sides of a group, written with the same operator. -/
theorem inner_echo {l r : Tree} (hl : EchoesText l) (hr : EchoesText r) {g h : Group}
    (hoperator : r.isNil = false → h.operator = g.operator) (id : NodeId) (a b : Attributes) :
    (group id b h l.echo r.echo).inner.length ≤ (group id a g l r).inner.length ∧
      ((group id b h l.echo r.echo).inner = (group id a g l r).inner ↔
        (l.scattersMarks || r.scattersMarks) = false) := by
  rw [inner, inner, hl.isNil, hr.isNil, Bool.or_eq_false_iff, ← hl.chars_eq_iff]
  cases hnil : r.isNil with
  | true =>
      have hscatters : r.scattersMarks = false := by
        rw [isNil_iff.1 hnil]
        rfl
      simp only [if_true, List.append_nil, hscatters, and_true, iff_self]
      exact hl.length_le
  | false =>
      have hbehind : ((if l.isNil then [] else [' ']) ++ g.operator.chars ++ r.echo.chars).length ≤
          ((if l.isNil then [] else [' ']) ++ g.operator.chars ++ r.chars).length := by
        have hle := hr.length_le
        simp only [List.length_append]
        omega
      simp only [Bool.false_eq_true, if_false, hoperator hnil]
      constructor
      · have hle := hl.length_le
        simp only [List.length_append] at hbehind ⊢
        omega
      · rw [append_eq_append_iff_of_length_le hl.length_le hbehind, List.append_cancel_left_eq,
          hr.chars_eq_iff]

theorem echoesText_group {l r : Tree} (hl : EchoesText l) (hr : EchoesText r) {g : Group}
    (hparens : g.parens = true) (id : NodeId) (a : Attributes) : EchoesText (group id a g l r) := by
  obtain ⟨hlength, hiff⟩ := inner_echo hl hr (g := g)
    (h := ⟨if r.isNil then .default else g.operator, true⟩)
    (fun hnil => by rw [hnil]; rfl) id a a.heard
  have hscatters : (group id a g l r).scattersMarks = (l.scattersMarks || r.scattersMarks) := by
    simp [scattersMarks, hparens]
  have hclosing : a.heard.closing = a.closing := rfl
  have hmark : a.heard.fieldMark = a.fieldMark := rfl
  refine ⟨by rw [echo_of_parens hparens]; rfl, ?_, ?_⟩
  · rw [echo_of_parens hparens, chars_group, chars_group, Attributes.opening_heard, hparens,
      hclosing, hmark]
    simp only [List.length_append]
    omega
  · rw [echo_of_parens hparens, chars_group, chars_group, Attributes.opening_heard, hparens,
      hclosing, hmark, hscatters, ← hiff]
    simp only [List.append_cancel_left_eq, List.append_cancel_right_eq]

theorem echoesText_silent {l : Tree} (hl : EchoesText l) (hnil : l.isNil = false) {g : Group}
    (hparens : g.parens = false) {a : Attributes} (ha : a.Silent) (id : NodeId) :
    EchoesText (group id a g l nil) := by
  have hscatters : (group id a g l nil).scattersMarks = l.scattersMarks := by
    simp [scattersMarks, Attributes.scatters_of_silent ha]
  have hecho := echo_of_silent ha hparens id l
  have hchars : (group id a g l nil).chars = l.chars :=
    (chars_of_silent ha hparens id l nil).trans (inner_group_nil id a g l)
  exact ⟨by rw [hecho, hl.isNil, hnil]; rfl, by rw [hecho, hchars]; exact hl.length_le,
    by rw [hecho, hchars, hscatters]; exact hl.chars_eq_iff⟩

theorem echoesText_link {l r : Tree} (hl : EchoesText l) (hr : EchoesText r)
    (hnil : r.isNil = false) {g : Group} (hparens : g.parens = false) {a : Attributes}
    (ha : a.Silent) (id : NodeId) : EchoesText (group id a g l r) := by
  obtain ⟨hlength, hiff⟩ := inner_echo hl hr (g := g) (h := ⟨g.operator, false⟩)
    (fun _ => rfl) id a .plain
  have hscatters : (group id a g l r).scattersMarks = (l.scattersMarks || r.scattersMarks) := by
    simp [scattersMarks, hnil]
  have hecho := echo_of_link hparens hnil id a l
  refine ⟨by rw [hecho]; rfl, ?_, ?_⟩
  · rw [hecho, chars_of_silent ha hparens, chars_of_silent Attributes.silent_plain rfl]
    exact hlength
  · rw [hecho, chars_of_silent ha hparens, chars_of_silent Attributes.silent_plain rfl, hscatters]
    exact hiff

theorem all_echoesText (h : Spells part t tokens) : part.All EchoesText t := by
  have hnil : EchoesText nil := ⟨rfl, Nat.le_refl _, iff_of_true rfl rfl⟩
  induction h with
  | leaf => exact echoesText_leaf _ _ _
  | group hparens _ _ _ ih => exact echoesText_group ih.1 ih.2 hparens _ _
  | marked hparens _ hfield => exact echoesText_marked hparens hfield _ _ _ _
  | silent hparens ha hl ih =>
      exact echoesText_silent ih (hl.isNil_eq_false (by decide)) hparens ha _
  | last _ ih => exact ih
  | link hparens ha _ hr ihl ihr =>
      exact echoesText_link ihl ihr (hr.isNil_eq_false (by decide)) hparens ha _
  | empty => exact ⟨hnil, hnil⟩
  | single _ ih => exact ⟨ih, hnil⟩
  | pair _ _ ihl ihr => exact ⟨ihl, ihr⟩

/-- The text of what is heard of a query is no longer than that of the query, and the same if and
only if no marks are scattered. -/
theorem SpellsQuery.chars_echo (h : SpellsQuery t tokens) :
    t.echo.chars.length ≤ t.chars.length ∧
      (t.echo.chars = t.chars ↔ t.scattersMarks = false) := by
  cases h with
  | @nothing id a g hparens ha =>
      have hecho : (group id a g nil nil).echo.chars = [] := by
        rw [echo_of_silent ha hparens]
        rfl
      have hchars : (group id a g nil nil).chars = [] := chars_of_silent ha hparens id nil nil
      have hscatters : (group id a g nil nil).scattersMarks = false := by
        simp [scattersMarks, Attributes.scatters_of_silent ha]
      rw [hecho, hchars]
      exact ⟨Nat.le_refl _, iff_of_true rfl hscatters⟩
  | clauses h =>
      have hechoes : EchoesText t := all_echoesText h
      exact ⟨hechoes.length_le, hechoes.chars_eq_iff⟩

end Tree

end SearchQuery
