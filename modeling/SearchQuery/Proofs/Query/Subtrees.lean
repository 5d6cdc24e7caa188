import SearchQuery.Proofs.Query.Paths
import SearchQuery.Proofs.Query.Replacing

/-!
# The parts of a tree

`Tree.subtrees` lists the trees at the nodes of a tree. It goes hand in hand with the other lists of
nodes: the top nodes of the subtrees begin the paths of the tree, `map_head?_paths`, and their numbers
are those of the tree, so that where no number occurs twice a number tells the subtree,
`find_eq_of_mem_subtrees`.
-/

namespace SearchQuery.Tree

variable {t u : Tree} {id : NodeId}

def subtrees : Tree → List Tree
  | nil => []
  | leaf id a l => [leaf id a l]
  | group id a g l r => group id a g l r :: (l.subtrees ++ r.subtrees)

def nodes : Tree → List (NodeId × Attributes)
  | nil => []
  | leaf id a _ => [(id, a)]
  | group id a _ l r => (id, a) :: (l.nodes ++ r.nodes)

def spot? : Tree → Option Spot
  | nil => none
  | leaf id a l => some ⟨id, a, .inl l⟩
  | group id a g _ _ => some ⟨id, a, .inr g⟩

theorem mem_subtrees_group {a : Attributes} {g : Group} {l r : Tree} :
    u ∈ (group id a g l r).subtrees ↔
      u = group id a g l r ∨ u ∈ l.subtrees ∨ u ∈ r.subtrees := by
  rw [subtrees, List.mem_cons, List.mem_append]

theorem mem_subtrees_of_left {a : Attributes} {g : Group} {l r : Tree} (h : u ∈ l.subtrees) :
    u ∈ (group id a g l r).subtrees :=
  mem_subtrees_group.2 (.inr (.inl h))

theorem mem_subtrees_of_right {a : Attributes} {g : Group} {l r : Tree} (h : u ∈ r.subtrees) :
    u ∈ (group id a g l r).subtrees :=
  mem_subtrees_group.2 (.inr (.inr h))

theorem self_mem_subtrees (h : t ≠ nil) : t ∈ t.subtrees := by
  cases t with
  | nil => exact absurd rfl h
  | leaf => exact List.mem_cons_self
  | group => exact List.mem_cons_self

theorem mem_subtrees_trans {v : Tree} (hu : u ∈ v.subtrees) (hv : v ∈ t.subtrees) :
    u ∈ t.subtrees := by
  induction t with
  | nil => cases hv
  | leaf => exact List.mem_singleton.1 hv ▸ hu
  | group id a g l r ihl ihr =>
      rcases mem_subtrees_group.1 hv with rfl | hv | hv
      · exact hu
      · exact mem_subtrees_of_left (ihl hv)
      · exact mem_subtrees_of_right (ihr hv)

theorem map_head?_paths (t : Tree) (above : List Spot) :
    (t.paths above).map List.head? = t.subtrees.map spot? := by
  induction t generalizing above with
  | nil => rfl
  | leaf => rfl
  | group id a g l r ihl ihr =>
      rw [paths_group, subtrees, List.map_cons, List.map_cons, List.map_append, List.map_append,
        ihl, ihr]
      rfl

/-- What is at the end of some path is at the top of some subtree. -/
theorem exists_path_iff {p : Spot → Prop} :
    (∃ path ∈ t.paths [], ∃ spot ∈ path.head?, p spot) ↔
      ∃ u ∈ t.subtrees, ∃ spot ∈ u.spot?, p spot := by
  have hmaps : (∃ o ∈ (t.paths []).map List.head?, ∃ spot ∈ o, p spot) ↔
      ∃ o ∈ t.subtrees.map spot?, ∃ spot ∈ o, p spot := by rw [map_head?_paths]
  simpa only [List.mem_map, exists_exists_and_eq_and] using hmaps

theorem find_mem_subtrees (h : id ∈ t.ids) : t.find id ∈ t.subtrees := by
  induction t with
  | nil => cases h
  | leaf i a l =>
      rw [ids, List.mem_singleton] at h
      rw [find, if_pos h.symm]
      exact List.mem_cons_self
  | group i a g l r ihl ihr =>
      by_cases hi : id = i
      · rw [find, if_pos hi.symm]
        exact List.mem_cons_self
      · rw [ids, List.mem_cons, List.mem_append] at h
        by_cases hl : id ∈ l.ids
        · rw [find_group_left hi hl]
          exact mem_subtrees_of_left (ihl hl)
        · rw [find_group_right hi hl]
          exact mem_subtrees_of_right (ihr ((h.resolve_left hi).resolve_left hl))

theorem mem_ids_of_mem_subtrees (h : u ∈ t.subtrees) (hid : u.id? = some id) : id ∈ t.ids := by
  induction t with
  | nil => cases h
  | leaf i a l =>
      obtain rfl := List.mem_singleton.1 h
      exact List.mem_singleton.2 (Option.some.inj hid).symm
  | group i a g l r ihl ihr =>
      rw [ids, List.mem_cons, List.mem_append]
      rcases mem_subtrees_group.1 h with rfl | h | h
      · exact .inl (Option.some.inj hid).symm
      · exact .inr (.inl (ihl h))
      · exact .inr (.inr (ihr h))

/-- Where no number occurs twice the subtree with a number on top is the one at that number. -/
theorem find_eq_of_mem_subtrees (hnodup : t.ids.Nodup) (h : u ∈ t.subtrees)
    (hid : u.id? = some id) : t.find id = u := by
  induction t with
  | nil => cases h
  | leaf i a l =>
      obtain rfl := List.mem_singleton.1 h
      rw [find, if_pos (Option.some.inj hid)]
  | group i a g l r ihl ihr =>
      rw [ids, List.nodup_cons, List.mem_append, not_or, List.nodup_append] at hnodup
      obtain ⟨⟨hil, hir⟩, hndl, hndr, hdisjoint⟩ := hnodup
      rcases mem_subtrees_group.1 h with rfl | h | h
      · rw [find, if_pos (Option.some.inj hid)]
      · have hl := mem_ids_of_mem_subtrees h hid
        rw [find_group_left (ne_of_mem_of_not_mem hl hil) hl, ihl hndl h]
      · have hr := mem_ids_of_mem_subtrees h hid
        have hl : id ∉ l.ids := fun hl => hdisjoint id hl id hr rfl
        rw [find_group_right (ne_of_mem_of_not_mem hr hir) hl, ihr hndr h]

section Nodes

theorem map_fst_nodes (t : Tree) : t.nodes.map (·.1) = t.ids := by
  induction t with
  | nil => rfl
  | leaf => rfl
  | group id a g l r ihl ihr => rw [nodes, ids, List.map_cons, List.map_append, ihl, ihr]

theorem nodes_eq_filterMap_paths (t : Tree) (above : List Spot) :
    t.nodes = (t.paths above).filterMap fun path =>
      path.head?.map fun spot => (spot.id, spot.attrs) := by
  induction t generalizing above with
  | nil => rfl
  | leaf => rfl
  | group id a g l r ihl ihr =>
      rw [paths_group, nodes, List.filterMap_cons, List.filterMap_append, ← ihl, ← ihr]
      rfl

theorem exists_path_iff_exists_node {p : NodeId → Attributes → Prop} :
    (∃ path ∈ t.paths [], ∃ spot ∈ path.head?, p spot.id spot.attrs) ↔
      ∃ id a, (id, a) ∈ t.nodes ∧ p id a := by
  simp only [nodes_eq_filterMap_paths t [], List.mem_filterMap, Option.map_eq_some_iff]
  constructor
  · rintro ⟨path, hpath, spot, hspot, hp⟩
    exact ⟨_, _, ⟨path, hpath, spot, hspot, rfl⟩, hp⟩
  · rintro ⟨id, a, ⟨path, hpath, spot, hspot, heq⟩, hp⟩
    cases heq
    exact ⟨path, hpath, spot, hspot, hp⟩

theorem mem_nodes_of_mem_paths {path : List Spot} (hpath : path ∈ t.paths []) {spot : Spot}
    (hspot : spot ∈ path) : (spot.id, spot.attrs) ∈ t.nodes := by
  obtain ⟨path, hpath, hhead⟩ := exists_path_of_mem hpath hspot
  rw [nodes_eq_filterMap_paths t []]
  exact List.mem_filterMap.2 ⟨path, hpath, congrArg _ hhead⟩

end Nodes

end SearchQuery.Tree
