import SearchQuery.Query.Tree

/-!
# The boolean reading of a query

A tree is read as a formula. A leaf is an atom, decided by what it asks and by the field it asks
about, which is its own or else that of the nearest group around it that has one. A group combines
its two sides by its operator, a negation and the sign `-` complement what they stand on, and all
other attributes are passed over.

A slot that is empty, or that holds no leaf, contributes nothing, so `reading` is an `Option` and
is `none` exactly for a tree without leaves.
-/

namespace SearchQuery

/-- What a formula is read by: what clauses side by side mean, and which atoms hold. -/
structure Interpretation where
  adjacent : Bool → Bool → Bool
  holds : Leaf → String → Bool

namespace Operator

def combine (i : Interpretation) : Operator → Bool → Bool → Bool
  | default => i.adjacent
  | and => (· && ·)
  | or => (· || ·)

end Operator

namespace Attributes

/-- Whether a node complements what it stands on. A negation does, the sign `-` does, and both
together cancel. -/
def complements (a : Attributes) : Bool :=
  a.negation.isNegated ^^ decide (a.sign = some .mustNot)

def scope (inherited : Option String) (a : Attributes) : Option String :=
  a.fieldName?.or inherited

/-- The field that a leaf asks about, the empty name if there is none. -/
def searched (inherited : Option String) (a : Attributes) : String :=
  (a.scope inherited).getD ""

@[simp] theorem complements_plain : Attributes.plain.complements = false := rfl

@[simp] theorem scope_plain (inherited : Option String) :
    Attributes.plain.scope inherited = inherited := by
  simp [scope, plain, fieldName?]

/-- Without a field nothing but the scope around counts. -/
theorem scope_of_field_eq_none {a : Attributes} (h : a.field = none) (inherited : Option String) :
    a.scope inherited = inherited := by
  simp [scope, fieldName?, h]

theorem scope_congr {a b : Attributes} (h : a.field = b.field) (inherited : Option String) :
    a.scope inherited = b.scope inherited := by
  simp [scope, fieldName?, h]

theorem searched_congr {a b : Attributes} (h : a.field = b.field) (inherited : Option String) :
    a.searched inherited = b.searched inherited := by
  rw [searched, searched, scope_congr h]

end Attributes

namespace Tree

/-- The truth value of a tree below a place where `inherited` is the field in scope. -/
def reading (i : Interpretation) (inherited : Option String) : Tree → Option Bool
  | nil => none
  | leaf _ a l => some (a.complements ^^ i.holds l (a.searched inherited))
  | group _ a g l r =>
      ((l.reading i (a.scope inherited)).merge (g.operator.combine i)
        (r.reading i (a.scope inherited))).map (a.complements ^^ ·)

def hasLeaf : Tree → Bool
  | nil => false
  | leaf .. => true
  | group _ _ _ l r => l.hasLeaf || r.hasLeaf

variable (i : Interpretation)

@[simp] theorem reading_nil (inherited : Option String) : nil.reading i inherited = none := rfl

theorem reading_leaf (inherited : Option String) (id : NodeId) (a : Attributes) (l : Leaf) :
    (leaf id a l).reading i inherited =
      some (a.complements ^^ i.holds l (a.searched inherited)) := rfl

theorem reading_group (inherited : Option String) (id : NodeId) (a : Attributes) (g : Group)
    (l r : Tree) :
    (group id a g l r).reading i inherited =
      ((l.reading i (a.scope inherited)).merge (g.operator.combine i)
        (r.reading i (a.scope inherited))).map (a.complements ^^ ·) := rfl

theorem reading_group_nil (inherited : Option String) (id : NodeId) (a : Attributes) (g : Group)
    (l : Tree) :
    (group id a g l nil).reading i inherited =
      (l.reading i (a.scope inherited)).map (a.complements ^^ ·) := by
  rw [reading_group, reading_nil, Option.merge_none_right]

/-- On which side the only clause of a group stands makes no difference. -/
theorem reading_nil_group (inherited : Option String) (id : NodeId) (a : Attributes) (g : Group)
    (r : Tree) :
    (group id a g nil r).reading i inherited =
      (r.reading i (a.scope inherited)).map (a.complements ^^ ·) := by
  rw [reading_group, reading_nil, Option.merge_none_left]

/-- What complements is passed on to the clauses one by one only as a whole, so two complements
around the same formula are one exclusive or. -/
theorem map_xor_map_xor (b c : Bool) (o : Option Bool) :
    (o.map (c ^^ ·)).map (b ^^ ·) = o.map ((b ^^ c) ^^ ·) := by
  cases o <;> simp

theorem map_false_xor (o : Option Bool) : o.map (false ^^ ·) = o := by
  cases o <;> simp

theorem isSome_reading (t : Tree) (inherited : Option String) :
    (t.reading i inherited).isSome = t.hasLeaf := by
  induction t generalizing inherited with
  | nil => rfl
  | leaf => rfl
  | group id a g l r ihl ihr =>
      rw [reading_group, Option.isSome_map, Option.isSome_merge, ihl, ihr, hasLeaf]

theorem reading_renumber (t : Tree) (next : NodeId) (inherited : Option String) :
    (t.renumber next).1.reading i inherited = t.reading i inherited := by
  induction t generalizing next inherited with
  | nil => rfl
  | leaf => rfl
  | group id a g l r ihl ihr =>
      simp only [renumber, reading_group]
      rw [ihl, ihr]

end Tree

end SearchQuery
