import SearchQuery.Query.Tree

/-!
# The paths of a tree

`Tree.paths` lists, for each node of a tree, parents first, the path from that node up to the root.
A path is a list of nodes without what is below them, so it begins with the node that it is the path
of and goes on with the groups around it, from the inside out.
-/

namespace SearchQuery

/-- A node of a tree without what is below it. -/
structure Spot where
  id : NodeId
  attrs : Attributes
  label : Leaf ⊕ Group
  deriving DecidableEq

namespace Tree

def paths (above : List Spot) : Tree → List (List Spot)
  | nil => []
  | leaf id a l => [⟨id, a, .inl l⟩ :: above]
  | group id a g l r =>
      let here := ⟨id, a, .inr g⟩ :: above
      here :: (l.paths here ++ r.paths here)

theorem paths_group (above : List Spot) (id : NodeId) (a : Attributes) (g : Group) (l r : Tree) :
    (group id a g l r).paths above =
      (⟨id, a, .inr g⟩ :: above) ::
        (l.paths (⟨id, a, .inr g⟩ :: above) ++ r.paths (⟨id, a, .inr g⟩ :: above)) := rfl

theorem map_head_paths (above : List Spot) (t : Tree) :
    (t.paths above).map (fun path => path.head?.map (·.id)) = t.ids.map some := by
  induction t generalizing above with
  | nil => rfl
  | leaf => rfl
  | group id a g l r ihl ihr =>
      rw [paths_group, List.map_cons, List.map_append, ihl, ihr, ids, List.map_cons,
        List.map_append]
      rfl

/-- What is left of a path without its first node is the path of the group around that node. -/
theorem tail_mem_paths {above path : List Spot} {t : Tree} (h : path ∈ t.paths above) :
    path.tail = above ∨ path.tail ∈ t.paths above := by
  induction t generalizing above with
  | nil => cases h
  | leaf id a l =>
      obtain rfl := List.mem_singleton.1 h
      exact .inl rfl
  | group id a g l r ihl ihr =>
      rw [paths_group, List.mem_cons, List.mem_append] at h
      rw [paths_group, List.mem_cons, List.mem_append]
      rcases h with rfl | h | h
      · exact .inl rfl
      · exact .inr ((ihl h).imp_right .inl)
      · exact .inr ((ihr h).imp_right .inr)

theorem exists_path_of_mem {t : Tree} {path : List Spot} (hpath : path ∈ t.paths []) {spot : Spot}
    (hspot : spot ∈ path) : ∃ path ∈ t.paths [], spot ∈ path.head? := by
  induction path with
  | nil => cases hspot
  | cons first above ih =>
      rcases List.mem_cons.1 hspot with rfl | hmem
      · exact ⟨_, hpath, rfl⟩
      · rcases tail_mem_paths hpath with hnil | habove
        · rw [show above = [] from hnil] at hmem
          cases hmem
        · exact ih habove hmem

end Tree

end SearchQuery
