import Mathlib.Data.List.Forall2
import SearchQuery.Proofs.Query.Reading

/-!
# Where the leaves of a query stand

`Tree.occurrences` lists the leaves of a tree from left to right, each with what a pass may change
about it without touching the leaf: the field it asks about, whether the nodes on the way down to
it complement it, and the groups around it. A `Place` carries these three down the tree.

Passes are compared leaf by leaf through `Occurrence.Agrees`, which looks at everything but the
groups around.
-/

namespace SearchQuery

/-- A place in a tree. -/
structure Place where
  /-- The field in scope. -/
  scope : Option String
  /-- Whether an odd number of complements stand around. -/
  complemented : Bool
  /-- The groups around, from the inside out. -/
  above : List NodeId

namespace Place

def top : Place :=
  ⟨none, false, []⟩

def inside (p : Place) (id : NodeId) (a : Attributes) : Place :=
  ⟨a.scope p.scope, p.complemented ^^ a.complements, id :: p.above⟩

end Place

/-- A leaf at its place in a tree. -/
structure Occurrence where
  id : NodeId
  leaf : Leaf
  /-- The field of the leaf itself. -/
  own : Option String
  /-- The field that the leaf asks about. -/
  field : String
  /-- Whether an odd number of complements stand on the leaf and around it. -/
  complemented : Bool
  /-- The groups around the leaf, from the inside out. -/
  above : List NodeId

namespace Occurrence

def asked (o : Occurrence) : NodeId × Leaf × Option String × String :=
  (o.id, o.leaf, o.own, o.field)

/-- The same leaf asking the same, complemented the other way if `flipped`. -/
structure Agrees (flipped : Bool) (o o' : Occurrence) : Prop where
  asked : o'.asked = o.asked
  complemented : o'.complemented = (o.complemented ^^ flipped)

namespace Agrees

variable {b c : Bool} {o o' o'' : Occurrence}

theorem trans (h : Agrees b o o') (h' : Agrees c o' o'') : Agrees (b ^^ c) o o'' where
  asked := h'.asked.trans h.asked
  complemented := by rw [h'.complemented, h.complemented, Bool.xor_assoc]

theorem id_eq (h : Agrees b o o') : o'.id = o.id :=
  congrArg (·.1) h.asked

theorem leaf_eq (h : Agrees b o o') : o'.leaf = o.leaf :=
  congrArg (·.2.1) h.asked

theorem field_eq (h : Agrees b o o') : o'.field = o.field :=
  congrArg (·.2.2.2) h.asked

theorem forall₂_trans {os os' os'' : List Occurrence} (h : List.Forall₂ (Agrees b) os os')
    (h' : List.Forall₂ (Agrees c) os' os'') : List.Forall₂ (Agrees (b ^^ c)) os os'' := by
  induction h generalizing os'' with
  | nil =>
      cases h'
      exact .nil
  | cons hagree _ ih =>
      cases h' with
      | cons hagree' htail => exact .cons (hagree.trans hagree') (ih htail)

/-- Leaves that agree without exception are complemented alike. -/
theorem map_complemented_eq {os os' : List Occurrence} (h : List.Forall₂ (Agrees false) os os') :
    os'.map (·.complemented) = os.map (·.complemented) := by
  induction h with
  | nil => rfl
  | cons hagree _ ih =>
      rw [List.map_cons, List.map_cons, hagree.complemented, Bool.xor_false, ih]

theorem exists_of_mem {os os' : List Occurrence} (h : List.Forall₂ (Agrees b) os os')
    (ho' : o' ∈ os') : ∃ o ∈ os, Agrees b o o' := by
  induction h with
  | nil => simp at ho'
  | cons hagree _ ih =>
      rcases List.mem_cons.1 ho' with rfl | ho'
      · exact ⟨_, List.mem_cons_self, hagree⟩
      · obtain ⟨o, ho, hoo'⟩ := ih ho'
        exact ⟨o, List.mem_cons_of_mem _ ho, hoo'⟩

end Agrees

end Occurrence

namespace Tree

def occurrences (p : Place) : Tree → List Occurrence
  | nil => []
  | leaf id a l =>
      [⟨id, l, a.field, a.searched p.scope, p.complemented ^^ a.complements, p.above⟩]
  | group id a _ l r => l.occurrences (p.inside id a) ++ r.occurrences (p.inside id a)

@[simp] theorem occurrences_nil (p : Place) : nil.occurrences p = [] := rfl

theorem occurrences_leaf (p : Place) (id : NodeId) (a : Attributes) (l : Leaf) :
    (leaf id a l).occurrences p =
      [⟨id, l, a.field, a.searched p.scope, p.complemented ^^ a.complements, p.above⟩] := rfl

theorem occurrences_group (p : Place) (id : NodeId) (a : Attributes) (g : Group) (l r : Tree) :
    (group id a g l r).occurrences p =
      l.occurrences (p.inside id a) ++ r.occurrences (p.inside id a) := rfl

/-- The numbers of the leaves come in the order of all numbers. -/
theorem map_id_occurrences_sublist (t : Tree) (p : Place) :
    ((t.occurrences p).map (·.id)).Sublist t.ids := by
  induction t generalizing p with
  | nil => exact .slnil
  | leaf => exact .refl _
  | group id a g l r ihl ihr =>
      rw [occurrences_group, List.map_append, ids]
      exact ((ihl _).append (ihr _)).cons _

theorem id_mem_ids {t : Tree} {p : Place} {o : Occurrence} (h : o ∈ t.occurrences p) :
    o.id ∈ t.ids :=
  (map_id_occurrences_sublist t p).subset (List.mem_map_of_mem h)

/-- The groups around a leaf are groups of the tree or stand around the tree. -/
theorem mem_of_mem_above {t : Tree} {p : Place} {o : Occurrence} (h : o ∈ t.occurrences p)
    {g : NodeId} (hg : g ∈ o.above) : g ∈ t.ids ∨ g ∈ p.above := by
  induction t generalizing p with
  | nil => simp at h
  | leaf id a l =>
      obtain rfl : o = _ := by simpa [occurrences_leaf] using h
      exact Or.inr hg
  | group id a form l r ihl ihr =>
      have hstep : ∀ {t : Tree}, g ∈ t.ids ∨ g ∈ (p.inside id a).above →
          g = id ∨ g ∈ t.ids ∨ g ∈ p.above := by
        rintro t (h | h)
        · exact Or.inr (Or.inl h)
        · rcases List.mem_cons.1 h with h | h
          · exact Or.inl h
          · exact Or.inr (Or.inr h)
      rw [occurrences_group, List.mem_append] at h
      simp only [ids, List.mem_cons, List.mem_append]
      rcases h with h | h
      · rcases hstep (ihl h) with h | h | h <;> simp [h]
      · rcases hstep (ihr h) with h | h | h <;> simp [h]

/-- At another place with the same field in scope the leaves ask the same; they are complemented
the other way if the places are. -/
theorem occurrences_agree {p p' : Place} {c : Bool} (hscope : p'.scope = p.scope)
    (hcomplemented : p'.complemented = (p.complemented ^^ c)) (t : Tree) :
    List.Forall₂ (Occurrence.Agrees c) (t.occurrences p) (t.occurrences p') := by
  induction t generalizing p p' with
  | nil => exact .nil
  | leaf id a l =>
      refine .cons ⟨?_, ?_⟩ .nil
      · simp [Occurrence.asked, hscope]
      · simp only [hcomplemented, Bool.xor_right_comm]
  | group id a g l r ihl ihr =>
      have hinside : (p'.inside id a).complemented = ((p.inside id a).complemented ^^ c) := by
        simp only [Place.inside, hcomplemented, Bool.xor_right_comm]
      have hinscope : (p'.inside id a).scope = (p.inside id a).scope := by
        simp only [Place.inside, hscope]
      exact List.rel_append (ihl hinscope hinside) (ihr hinscope hinside)

end Tree

end SearchQuery
