import SearchQuery.Proofs.Query.Subtrees
import SearchQuery.Proofs.Store.Spare

/-!
# Stores that hold a query

`IsQuery` is what passes find and leave: a well-formed store whose root is a group. What such a
store shows below a node of the query is the part of the whole tree at that node, and with a tree in
the place of a node it is such a store again, `IsQuery.of_puts`, if a group comes for the root.
-/

namespace SearchQuery

namespace Store

variable {s : Store} {id : NodeId}

/-- A store that is a tree below its root, which is a group. -/
structure IsQuery (s : Store) : Prop where
  wellFormed : s.WellFormed
  isGroup_root : s.isGroup s.root

theorem Holds.attrs_eq {parent : Option NodeId} {t : Tree} (h : s.Holds parent t) {a : Attributes}
    (hmem : (id, a) ∈ t.nodes) : s.attrs id = a := by
  induction t generalizing parent with
  | nil => cases hmem
  | leaf i b l =>
      obtain ⟨rfl, rfl⟩ := Prod.mk.inj (List.mem_singleton.1 hmem)
      exact attrs_of_node? h
  | group i b g l r ihl ihr =>
      rw [Tree.nodes, List.mem_cons, List.mem_append] at hmem
      rcases hmem with heq | hmem | hmem
      · obtain ⟨rfl, rfl⟩ := Prod.mk.inj heq
        exact attrs_of_node? h.1
      · exact ihl h.2.1 hmem
      · exact ihr h.2.2 hmem

namespace IsQuery

theorem rooted (h : s.IsQuery) : s.Rooted :=
  ⟨h.wellFormed, root_lt_next_of_isGroup h.isGroup_root⟩

theorem holds_tree (h : s.IsQuery) : s.Holds none s.tree :=
  h.rooted.shows.holds

theorem nodup_ids_tree (h : s.IsQuery) : s.tree.ids.Nodup :=
  h.rooted.nodup

theorem lt_next_of_mem (h : s.IsQuery) {x : Nat} (hx : x ∈ s.tree.ids) : x < s.next :=
  h.holds_tree.lt_size hx

theorem root_mem (h : s.IsQuery) : s.root ∈ s.tree.ids :=
  h.rooted.shows.mem

theorem isGroup_tree (h : s.IsQuery) : s.tree.isGroup :=
  h.rooted.shows.isGroup_eq.symm.trans h.isGroup_root

/-- Below a node of the query the store shows what the whole tree shows there. -/
theorem view_eq_find (h : s.IsQuery) (hid : id ∈ s.tree.ids) : s.view id = s.tree.find id :=
  h.rooted.view_eq_find hid

theorem view_mem_subtrees (h : s.IsQuery) (hid : id ∈ s.tree.ids) :
    s.view id ∈ s.tree.subtrees := by
  rw [h.view_eq_find hid]
  exact Tree.find_mem_subtrees hid

theorem view_eq_of_mem_subtrees (h : s.IsQuery) {u : Tree} (hu : u ∈ s.tree.subtrees)
    (hid : u.id? = some id) : s.view id = u := by
  rw [h.view_eq_find (Tree.mem_ids_of_mem_subtrees hu hid)]
  exact Tree.find_eq_of_mem_subtrees h.nodup_ids_tree hu hid

theorem attrs_eq (h : s.IsQuery) (hid : id ∈ s.tree.ids) {x : NodeId} {a : Attributes}
    (hmem : (x, a) ∈ (s.view id).nodes) : s.attrs x = a := by
  obtain ⟨p, hfind⟩ := h.holds_tree.find id
  rw [h.view_eq_find hid] at hmem
  exact hfind.attrs_eq hmem

theorem id?_view (h : s.IsQuery) (hid : id ∈ s.tree.ids) : (s.view id).id? = some id :=
  h.rooted.id?_view hid

theorem attrs_view (h : s.IsQuery) (hid : id ∈ s.tree.ids) : (s.view id).attrs = s.attrs id :=
  h.rooted.attrs_view hid

theorem isGroup_view (h : s.IsQuery) (hid : id ∈ s.tree.ids) :
    (s.view id).isGroup = s.isGroup id :=
  h.rooted.isGroup_view hid

theorem holds_view (h : s.IsQuery) (hid : id ∈ s.tree.ids) : ∃ p, s.Holds p (s.view id) := by
  rw [h.view_eq_find hid]
  exact h.holds_tree.find id

theorem slot?_eq (h : s.IsQuery) (hid : id ∈ s.tree.ids) (side : Tree.Side) :
    s.slot? side id = (Tree.follow [side] (s.view id)).id? := by
  obtain ⟨p, hview⟩ := h.holds_view hid
  have htop := h.id?_view hid
  generalize s.view id = t at hview htop
  cases t with
  | nil => cases htop
  | leaf i a l =>
      obtain rfl := Option.some.inj htop
      rw [slot?_of_node? hview]
      cases side <;> rfl
  | group i a g l r =>
      obtain rfl := Option.some.inj htop
      rw [slot?_of_node? hview.1]
      cases side <;> rfl

theorem isLink_iff (h : s.IsQuery) (hid : id ∈ s.tree.ids) :
    s.isLink id ↔ (s.view id).isLink ∧ id ≠ s.root := by
  obtain ⟨p, hview⟩ := h.holds_view hid
  have htop := h.id?_view hid
  generalize s.view id = t at hview htop
  cases t with
  | nil => cases htop
  | leaf i a l =>
      obtain rfl := Option.some.inj htop
      simp [isLink, show s.node? i = _ from hview, Tree.isLink]
  | group i a g l r =>
      obtain rfl := Option.some.inj htop
      simp [isLink, hview.1, Tree.isLink, isRoot, @eq_comm _ s.root]

theorem root_notMem_view (h : s.IsQuery) (hid : id ∈ s.tree.ids) (hne : id ≠ s.root) :
    s.root ∉ (s.view id).ids := by
  have hnodup := h.nodup_ids_tree
  obtain ⟨a, g, l, r, htree, -⟩ := h.wellFormed.exists_tree_eq_group h.isGroup_root
  rw [h.view_eq_find hid, htree]
  rw [htree, Tree.ids, List.nodup_cons, List.mem_append, not_or] at hnodup
  by_cases hl : id ∈ l.ids
  · rw [Tree.find_group_left hne hl]
    exact fun hroot => hnodup.1.1 ((Tree.ids_find_sublist id l).subset hroot)
  · rw [Tree.find_group_right hne hl]
    exact fun hroot => hnodup.1.2 ((Tree.ids_find_sublist id r).subset hroot)

theorem exists_group_of_mem_subtrees (h : s.IsQuery) {u : Tree} (hu : u ∈ s.tree.subtrees)
    (hgroup : u.isGroup) :
    ∃ id ∈ s.tree.ids, u.id? = some id ∧ s.isGroup id ∧ s.view id = u := by
  obtain ⟨id, hid?⟩ : ∃ id, u.id? = some id := by
    cases u with
    | nil => cases hgroup
    | leaf => cases hgroup
    | group id => exact ⟨id, rfl⟩
  have hid := Tree.mem_ids_of_mem_subtrees hu hid?
  have hview := h.view_eq_of_mem_subtrees hu hid?
  exact ⟨id, hid, hid?, by rw [← h.isGroup_view hid, hview, hgroup], hview⟩

theorem nodes_tree (h : s.IsQuery) :
    s.tree.nodes = s.tree.ids.map fun id => (id, s.attrs id) := by
  rw [← Tree.map_fst_nodes, List.map_map]
  refine (List.map_id _).symm.trans (List.map_congr_left fun node hnode => ?_)
  exact Prod.ext rfl (h.attrs_eq h.root_mem hnode).symm

theorem mem_nodes_tree (h : s.IsQuery) {a : Attributes} :
    (id, a) ∈ s.tree.nodes ↔ id ∈ s.tree.ids ∧ s.attrs id = a := by
  rw [h.nodes_tree, List.mem_map]
  constructor
  · rintro ⟨_, hid, heq⟩
    cases heq
    exact ⟨hid, rfl⟩
  · rintro ⟨hid, rfl⟩
    exact ⟨id, hid, rfl⟩

theorem exists_view_eq_group (h : s.IsQuery) (hgroup : s.isGroup id) :
    ∃ a g l r, s.view id = .group id a g l r := by
  obtain ⟨_, _, _, _, _, hn⟩ := exists_node?_of_isGroup hgroup
  exact ⟨_, _, _, _, h.wellFormed.view_group hn⟩

theorem isGroup_replace (h : s.IsQuery) {new : Tree} (hgroup : id = s.root → new.isGroup) :
    (s.tree.replace id new).isGroup := by
  obtain ⟨a, g, l, r, htree, -⟩ := h.wellFormed.exists_tree_eq_group h.isGroup_root
  rw [htree, Tree.replace]
  split
  · next heq => exact hgroup heq.symm
  · rfl

/-- With a tree in the place of a node a query stays a query, if a group comes for the root. -/
theorem of_puts (h : s.IsQuery) {s' : Store} {new : Tree} (hputs : Puts s s' id new)
    (hgroup : id = s.root → new.isGroup) : s'.IsQuery := by
  refine ⟨hputs.after.wellFormed, ?_⟩
  rw [hputs.after.shows.isGroup_eq, hputs.tree_eq]
  exact h.isGroup_replace hgroup

end IsQuery

end Store

end SearchQuery
