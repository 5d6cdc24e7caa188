import SearchQuery.Query.Printer

/-!
# How long the text of a query is

The number of characters that a node is written with, put together from those of its marks and of
its sides.
-/

namespace SearchQuery

namespace Attributes

/-- The number of characters around a node. -/
def width (a : Attributes) : Nat :=
  a.opening.length + a.closing.length

theorem length_opening (a : Attributes) :
    a.opening.length = a.sign.isSome.toNat + 4 * a.negation.isNegated.toNat := by
  rw [opening]
  cases a.sign <;> cases a.negation.isNegated <;> rfl

def modifierWidth (value : Option String) : Nat :=
  value.elim 0 fun value => value.toList.length + 1

theorem length_closing (a : Attributes) :
    a.closing.length = modifierWidth a.proximity + modifierWidth a.boost := by
  rw [closing]
  cases a.proximity <;> cases a.boost <;>
    simp only [modifierWidth, List.length_append, List.length_cons, List.length_nil,
      Option.elim_none, Option.elim_some]

theorem width_eq (a : Attributes) :
    a.width = a.sign.isSome.toNat + 4 * a.negation.isNegated.toNat +
      (modifierWidth a.proximity + modifierWidth a.boost) := by
  rw [width, length_opening, length_closing]

theorem modifierWidth_or (v w : Option String) :
    modifierWidth (v.or w) ≤ modifierWidth v + modifierWidth w := by
  cases v <;> simp [modifierWidth]

end Attributes

namespace Tree

variable {t l l' r r' : Tree}

def sidesWidth (g : Group) (l r : Tree) : Nat :=
  l.chars.length +
    if r.isNil then 0 else (!l.isNil).toNat + g.operator.chars.length + r.chars.length

theorem chars_of_field_eq {a b : Attributes} (h : b.field = a.field) (l : Leaf) :
    l.chars b = l.chars a := by
  have hmark : b.fieldMark = a.fieldMark := by
    rw [Attributes.fieldMark, Attributes.fieldMark, Attributes.fieldName?, Attributes.fieldName?, h]
  cases l with
  | term t => exact congrArg (· ++ t.chars) hmark
  | range r => exact congrArg (· ++ r.chars) hmark
  | fieldExists => exact congrArg (fun field => "_exists_:".toList ++ (field.getD "").toList) h
  | fieldMissing => exact congrArg (fun field => "_missing_:".toList ++ (field.getD "").toList) h

theorem length_chars_leaf (id : NodeId) (a : Attributes) (l : Leaf) :
    (leaf id a l).chars.length = a.width + (l.chars a).length := by
  rw [chars, List.length_append, List.length_append, Attributes.width]
  omega

theorem length_chars_group (id : NodeId) (a : Attributes) (g : Group) (l r : Tree) :
    (group id a g l r).chars.length =
      a.width + a.fieldMark.length + 2 * g.parens.toNat + sidesWidth g l r := by
  have hparens : ∀ c : Char, (if g.parens then [c] else []).length = g.parens.toNat := by
    intro c
    cases g.parens <;> rfl
  have hblank : (if l.isNil then [] else [' ']).length = (!l.isNil).toNat := by
    cases l.isNil <;> rfl
  rw [chars, sidesWidth, Attributes.width]
  simp only [List.length_append, hparens]
  cases r.isNil with
  | true =>
      simp only [if_true, List.length_nil]
      omega
  | false =>
      simp only [Bool.false_eq_true, if_false, List.length_append, hblank]
      omega

theorem sidesWidth_nil (g : Group) (l : Tree) : sidesWidth g l nil = l.chars.length := rfl

theorem chars_of_isNil (h : t.isNil = true) : t.chars = [] := by
  rw [isNil_iff.1 h]
  rfl

/-- What is written between sides is no longer where sides are missing. -/
theorem sidesWidth_add_le (g : Group) (hl : l.isNil = true → l'.isNil = true)
    (hr : r.isNil = true → r'.isNil = true) :
    sidesWidth g l' r' + (l.chars.length + r.chars.length) ≤
      sidesWidth g l r + (l'.chars.length + r'.chars.length) := by
  have hblank : (!l'.isNil).toNat ≤ (!l.isNil).toNat := by
    cases hnil : l.isNil with
    | true => simp [hl hnil]
    | false => exact Bool.toNat_le _
  rw [sidesWidth, sidesWidth]
  cases hrnil : r.isNil with
  | true =>
      simp only [hr hrnil, chars_of_isNil hrnil, if_true, List.length_nil]
      omega
  | false =>
      cases hrnil' : r'.isNil with
      | true =>
          simp only [chars_of_isNil hrnil', if_true, Bool.false_eq_true, if_false]
          omega
      | false =>
          simp only [Bool.false_eq_true, if_false]
          omega

theorem length_chars_single (id : NodeId) (a : Attributes) (g : Group) (t : Tree) :
    (group id a g t nil).chars.length =
      a.width + a.fieldMark.length + 2 * g.parens.toNat + t.chars.length := by
  rw [length_chars_group, sidesWidth_nil]

end Tree

end SearchQuery
