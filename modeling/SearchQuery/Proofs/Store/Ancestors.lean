import SearchQuery.Proofs.Query.Paths
import SearchQuery.Proofs.Store.Links

/-!
# The way up from a node

In a tree that a store holds the path of a node tells the way up from it: the numbers on the path are
just those that the parent links lead to, `Holds.reflTransGen_hangs_iff`, and the store has every node
of the path as the path tells, `Holds.label?_of_mem_paths`.
-/

namespace SearchQuery

namespace Tree

theorem mem_ids_iff_exists_path {t : Tree} (above : List Spot) {x : NodeId} :
    x ∈ t.ids ↔ ∃ path ∈ t.paths above, ∃ spot ∈ path.head?, spot.id = x := by
  have hmaps : some x ∈ (t.paths above).map (fun path => path.head?.map (·.id)) ↔
      some x ∈ t.ids.map some := by rw [map_head_paths]
  simpa using hmaps.symm

end Tree

namespace Store

variable {s : Store}

theorem label?_of_node? {id : NodeId} {n : Node} (h : s.node? id = some n) :
    s.label? id = some n.label := by
  simp [label?, h]

namespace Holds

variable {t : Tree} {above path : List Spot} {spot : Spot}

/-- The store has the first node of a path as the path tells, linked to the second one. -/
theorem head_of_mem_paths (h : s.Holds (above.head?.map (·.id)) t) (hpath : path ∈ t.paths above)
    (hspot : spot ∈ path.head?) :
    s.label? spot.id = some (spot.attrs, spot.label) ∧
      s.parent? spot.id = path.tail.head?.map (·.id) := by
  induction t generalizing above with
  | nil => cases hpath
  | leaf id a l =>
      obtain rfl := List.mem_singleton.1 hpath
      cases hspot
      exact ⟨label?_of_node? h, parent?_of_node? h⟩
  | group id a g l r ihl ihr =>
      rw [Tree.paths_group, List.mem_cons, List.mem_append] at hpath
      rcases hpath with rfl | hpath | hpath
      · cases hspot
        exact ⟨label?_of_node? h.1, parent?_of_node? h.1⟩
      · exact @ihl (⟨id, a, .inr g⟩ :: above) h.2.1 hpath
      · exact @ihr (⟨id, a, .inr g⟩ :: above) h.2.2 hpath

theorem label?_of_mem_paths (h : s.Holds none t) (hpath : path ∈ t.paths []) (hspot : spot ∈ path) :
    s.label? spot.id = some (spot.attrs, spot.label) := by
  obtain ⟨path, hpath, hhead⟩ := Tree.exists_path_of_mem hpath hspot
  exact (h.head_of_mem_paths hpath hhead).1

theorem parent?_of_mem_paths (h : s.Holds none t) {rest : List Spot}
    (hpath : spot :: rest ∈ t.paths []) : s.parent? spot.id = rest.head?.map (·.id) :=
  (h.head_of_mem_paths hpath rfl).2

theorem attrs_of_mem_paths (h : s.Holds none t) (hpath : path ∈ t.paths []) (hspot : spot ∈ path) :
    s.attrs spot.id = spot.attrs :=
  attrs_of_label? (h.label?_of_mem_paths hpath hspot)

theorem reflTransGen_hangs_iff (h : s.Holds none t) {rest : List Spot}
    (hpath : spot :: rest ∈ t.paths []) {y : NodeId} :
    Relation.ReflTransGen s.Hangs spot.id y ↔ ∃ other ∈ spot :: rest, other.id = y := by
  induction rest generalizing spot with
  | nil =>
      have hparent := h.parent?_of_mem_paths hpath
      have hend : ∀ z, ¬ s.Hangs spot.id z := fun z hz =>
        Option.some_ne_none z (hz.symm.trans hparent)
      rw [Relation.ReflTransGen.cases_head_iff]
      simp [hend]
  | cons next rest ih =>
      have hparent : s.Hangs spot.id next.id := h.parent?_of_mem_paths hpath
      have hnext : next :: rest ∈ t.paths [] :=
        (Tree.tail_mem_paths hpath).resolve_left (List.cons_ne_nil next rest)
      have hstep : (∃ z, s.Hangs spot.id z ∧ Relation.ReflTransGen s.Hangs z y) ↔
          Relation.ReflTransGen s.Hangs next.id y :=
        ⟨fun ⟨_, hz, hup⟩ => hangs_unique hz hparent ▸ hup, fun hup => ⟨_, hparent, hup⟩⟩
      rw [Relation.ReflTransGen.cases_head_iff, hstep, ih hnext]
      simp

end Holds

end Store

end SearchQuery
