import SearchQuery.Proofs.Store.Holds

/-!
# Well-formed stores

A store is well formed when its slots and parent links tell the same story, no node is held twice,
no chain of parents runs in a circle, and the root has no parent.

Below any node of a well-formed store lies a tree, which the store holds: `view` is not cut off by
its depth, as `view_group` says, and no number occurs in it twice.
-/

namespace SearchQuery

namespace Store

variable {s : Store}

/-- Slots and parent links agree, and the links make up trees. -/
structure WellFormed (s : Store) : Prop where
  /-- A node in a slot is linked to the group that holds it, so no other group does. -/
  hangs_of_slot : ∀ {parent side child}, s.slot? side parent = some child → s.Hangs child parent
  /-- A node that is linked to a parent is in one of its slots. -/
  slot_of_hangs : ∀ {child parent}, s.Hangs child parent → ∃ side, s.slot? side parent = some child
  /-- No node is in both slots of a group. -/
  left_ne_right : ∀ {parent child}, s.slot? .left parent = some child →
    s.slot? .right parent ≠ some child
  acyclic : ∀ id, ¬ Relation.TransGen s.Hangs id id
  root_free : s.parent? s.root = none

namespace WellFormed

theorem lt_size_of_hangs (h : s.WellFormed) {child parent : Nat} (hc : s.Hangs child parent) :
    parent < s.nodes.size := by
  obtain ⟨side, hside⟩ := h.slot_of_hangs hc
  obtain ⟨n, hn, -⟩ := Option.bind_eq_some_iff.1 hside
  exact lt_size_of_node? hn

theorem lt_size_of_transGen (h : s.WellFormed) {id a : Nat}
    (ha : Relation.TransGen s.Hangs id a) : a < s.nodes.size := by
  obtain ⟨b, -, hb⟩ := Relation.TransGen.tail'_iff.1 ha
  exact h.lt_size_of_hangs hb

theorem exists_node?_of_hangs {child parent : NodeId} (hc : s.Hangs child parent) :
    ∃ n, s.node? child = some n ∧ n.parent = some parent := by
  obtain ⟨n, hn, hp⟩ := Option.bind_eq_some_iff.1 hc
  exact ⟨n, hn, hp⟩

/-- The store holds what a view shows, and the view starts at its node, provided that the depth and
the nodes passed on the way down add up to the size of the table. -/
theorem holds_viewTo (h : s.WellFormed) {depth : Nat} {id : NodeId} {n : Node}
    (hn : s.node? id = some n) {above : List NodeId}
    (habove : ∀ a ∈ above, Relation.TransGen s.Hangs id a) (hnodup : above.Nodup)
    (hdepth : s.nodes.size ≤ depth + above.length) :
    s.Holds n.parent (s.viewTo depth id) ∧ (s.viewTo depth id).id? = some id := by
  have hid : id ∉ above := fun hmem => h.acyclic id (habove id hmem)
  induction depth generalizing id n above with
  | zero =>
      -- the node and all above it are different places of the table: too many
      have hsub : id :: above ⊆ List.range s.nodes.size := by
        intro x hx
        rcases List.mem_cons.1 hx with rfl | hx
        · exact List.mem_range.2 (lt_size_of_node? hn)
        · exact List.mem_range.2 (h.lt_size_of_transGen (habove x hx))
      have hlen := (List.nodup_cons.2 ⟨hid, hnodup⟩).length_le_of_subset hsub
      rw [List.length_range, List.length_cons] at hlen
      omega
  | succ depth ih =>
      have hslot : ∀ (side) {c : Option NodeId}, s.slot? side id = c →
          s.Holds (some id) (c.elim .nil (s.viewTo depth)) ∧
            (c.elim .nil (s.viewTo depth)).id? = c := by
        rintro side (- | c) hc
        · exact ⟨trivial, rfl⟩
        have hhangs := h.hangs_of_slot hc
        obtain ⟨m, hm, hparent⟩ := exists_node?_of_hangs hhangs
        have habove' : ∀ a ∈ id :: above, Relation.TransGen s.Hangs c a := by
          intro a ha
          rcases List.mem_cons.1 ha with rfl | ha
          · exact .single hhangs
          · exact .head hhangs (habove a ha)
        have hc' := ih hm habove' (List.nodup_cons.2 ⟨hid, hnodup⟩)
          (by rw [List.length_cons]; omega) fun hmem => h.acyclic c (habove' c hmem)
        rwa [hparent] at hc'
      obtain ⟨a, c, p⟩ := n
      cases c with
      | leaf l =>
          rw [viewTo_leaf hn]
          exact ⟨hn, rfl⟩
      | group g l r =>
          obtain ⟨hl, hlid⟩ := hslot .left (c := l) (slot?_of_node? hn _)
          obtain ⟨hr, hrid⟩ := hslot .right (c := r) (slot?_of_node? hn _)
          rw [viewTo_group hn]
          refine ⟨⟨hn.trans ?_, hl, hr⟩, rfl⟩
          rw [hlid, hrid]

theorem holds_view (h : s.WellFormed) {id : NodeId} {n : Node} (hn : s.node? id = some n) :
    s.Holds n.parent (s.view id) :=
  (h.holds_viewTo hn (by simp) .nil (by simp)).1

theorem id?_view (h : s.WellFormed) {id : NodeId} {n : Node} (hn : s.node? id = some n) :
    (s.view id).id? = some id :=
  (h.holds_viewTo hn (by simp) .nil (by simp)).2

/-- Nodes in different slots of a group have nothing below them in common. -/
theorem disjoint_slots (h : s.WellFormed) {id c d x : NodeId}
    (hc : s.slot? .left id = some c) (hd : s.slot? .right id = some d)
    (hxc : Relation.ReflTransGen s.Hangs x c) (hxd : Relation.ReflTransGen s.Hangs x d) :
    False := by
  have hne : c ≠ d := by
    rintro rfl
    exact h.left_ne_right hc hd
  -- of two nodes above `x` one is above the other, and both hang directly on `id`
  have hcircle : ∀ {c d}, s.Hangs c id → s.Hangs d id → c ≠ d →
      ¬ Relation.ReflTransGen s.Hangs c d := by
    intro c d hc hd hne hcd
    rcases hcd.cases_head with heq | ⟨e, he, hed⟩
    · exact hne heq
    · obtain rfl := hangs_unique hc he
      exact h.acyclic id (Relation.TransGen.tail' hed hd)
  have hunique : Relator.RightUnique s.Hangs := fun _ _ _ => hangs_unique
  rcases Relation.ReflTransGen.total_of_right_unique hunique hxc hxd with hcd | hdc
  · exact hcircle (h.hangs_of_slot hc) (h.hangs_of_slot hd) hne hcd
  · exact hcircle (h.hangs_of_slot hd) (h.hangs_of_slot hc) hne.symm hdc

/-- No number occurs twice in a tree that a well-formed store holds. -/
theorem nodup_ids_of_holds (h : s.WellFormed) {parent : Option NodeId} {t : Tree}
    (ht : s.Holds parent t) : t.ids.Nodup := by
  induction t generalizing parent with
  | nil => exact .nil
  | leaf => simp [Tree.ids]
  | group id a g l r ihl ihr =>
      obtain ⟨hn, hl, hr⟩ := ht
      have hlid : s.slot? .left id = l.id? := slot?_of_node? hn _
      have hrid : s.slot? .right id = r.id? := slot?_of_node? hn _
      rw [Tree.ids, List.nodup_cons, List.nodup_append, List.mem_append]
      refine ⟨?_, ihl hl, ihr hr, ?_⟩
      · rintro (hid | hid)
        · obtain ⟨c, hc⟩ := exists_id?_of_mem_ids hid
          exact h.acyclic id (.tail' (hl.reflTransGen_top hc hid) (hl.parent?_top hc))
        · obtain ⟨c, hc⟩ := exists_id?_of_mem_ids hid
          exact h.acyclic id (.tail' (hr.reflTransGen_top hc hid) (hr.parent?_top hc))
      · rintro x hx y hy rfl
        obtain ⟨c, hc⟩ := exists_id?_of_mem_ids hx
        obtain ⟨d, hd⟩ := exists_id?_of_mem_ids hy
        exact h.disjoint_slots (hlid.trans hc) (hrid.trans hd) (hl.reflTransGen_top hc hx)
          (hr.reflTransGen_top hd hy)

/-- A node is in the view below another one exactly if the way up from it leads there. -/
theorem mem_ids_view_iff (h : s.WellFormed) {id x : NodeId} {n : Node}
    (hn : s.node? id = some n) :
    x ∈ (s.view id).ids ↔ Relation.ReflTransGen s.Hangs x id := by
  have hholds := h.holds_view hn
  refine ⟨hholds.reflTransGen_top (h.id?_view hn), fun hx => ?_⟩
  induction hx using Relation.ReflTransGen.head_induction_on with
  | refl => exact mem_ids_of_id? (h.id?_view hn)
  | head hxy _ ih =>
      obtain ⟨side, hside⟩ := h.slot_of_hangs hxy
      exact (hholds.of_slot ih hside).1

theorem view_group (h : s.WellFormed) {id : NodeId} {a : Attributes} {g : Group}
    {l r p : Option NodeId} (hn : s.node? id = some ⟨a, .group g l r, p⟩) :
    s.view id = .group id a g (l.elim .nil s.view) (r.elim .nil s.view) := by
  have hslot : ∀ {t : Tree}, s.Holds (some id) t → t = t.id?.elim .nil s.view := by
    intro t ht
    cases hid : t.id? with
    | none =>
        cases t with
        | nil => rfl
        | leaf => simp [Tree.id?] at hid
        | group => simp [Tree.id?] at hid
    | some c => exact (ht.view_eq (h.nodup_ids_of_holds ht) hid).symm
  have hholds := h.holds_view hn
  obtain ⟨depth, hsize⟩ := Nat.exists_eq_add_of_le' (Nat.one_le_of_lt (lt_size_of_node? hn))
  rw [view, hsize, viewTo_group hn] at hholds ⊢
  obtain ⟨hn', hl, hr⟩ := hholds
  have heq := hn.symm.trans hn'
  simp only [Option.some.injEq, Node.mk.injEq, Content.group.injEq, true_and, and_true] at heq
  rw [hslot hl, hslot hr, ← heq.1, ← heq.2]

theorem exists_tree_eq_group (h : s.WellFormed) (hroot : s.isGroup s.root) :
    ∃ a g l r, s.tree = .group s.root a g l r ∧ s.Holds none s.tree := by
  obtain ⟨a, g, l, r, p, hn⟩ := exists_node?_of_isGroup hroot
  obtain rfl : p = none := (parent?_of_node? hn).symm.trans h.root_free
  exact ⟨_, _, _, _, h.view_group hn, h.holds_view hn⟩

end WellFormed

theorem exists_node?_of_lt {id : Nat} (h : id < s.next) : ∃ n, s.node? id = some n :=
  ⟨_, Array.getElem?_eq_getElem h⟩

theorem root_lt_next_of_isGroup (h : s.isGroup s.root) : s.root < s.next := by
  obtain ⟨_, _, _, _, _, hn⟩ := exists_node?_of_isGroup h
  exact lt_size_of_node? hn

theorem WellFormed.id?_tree (h : s.WellFormed) (hroot : s.root < s.next) :
    s.tree.id? = some s.root := by
  obtain ⟨n, hn⟩ := exists_node?_of_lt hroot
  exact h.id?_view hn

theorem WellFormed.nodup_ids_tree (h : s.WellFormed) (hroot : s.root < s.next) :
    s.tree.ids.Nodup ∧ ∀ x ∈ s.tree.ids, x < s.next := by
  obtain ⟨n, hn⟩ := exists_node?_of_lt hroot
  exact ⟨h.nodup_ids_of_holds (h.holds_view hn), fun x hx => (h.holds_view hn).lt_size hx⟩

/-- What a store shows depends on its nodes and its root only. -/
theorem view_of_nodes_eq {s' : Store} (h : s'.nodes = s.nodes) (id : NodeId) :
    s'.view id = s.view id := by
  have hviewTo : ∀ depth, s'.viewTo depth = s.viewTo depth := by
    intro depth
    induction depth with
    | zero => rfl
    | succ depth ih =>
        funext id
        rw [viewTo, viewTo, ih, node?, node?, h]
  rw [view, view, hviewTo, h]

theorem tree_of_nodes_eq {s' : Store} (hnodes : s'.nodes = s.nodes) (hroot : s'.root = s.root) :
    s'.tree = s.tree := by
  rw [tree, tree, view_of_nodes_eq hnodes, hroot]

theorem WellFormed.of_nodes_eq {s' : Store} (h : s.WellFormed) (hnodes : s'.nodes = s.nodes)
    (hroot : s'.root = s.root) : s'.WellFormed := by
  obtain ⟨nodes, root, notes⟩ := s
  obtain ⟨nodes', root', notes'⟩ := s'
  obtain rfl : nodes' = nodes := hnodes
  obtain rfl : root' = root := hroot
  exact ⟨h.hangs_of_slot, h.slot_of_hangs, h.left_ne_right, h.acyclic, h.root_free⟩

end Store

end SearchQuery
