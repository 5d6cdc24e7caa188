import SearchQuery.Proofs.Store.WellFormed

/-!
# Stores made of a tree

A store whose nodes are those of one tree, and blank ones that hang nowhere, is well formed if no
number occurs twice in the tree, `wellFormed_of_holds`. `ofTree` makes such a store, and it shows the
tree that it was made of.
-/

namespace SearchQuery

namespace Store

variable {s : Store} {t : Tree}

def Bare (s : Store) (id : NodeId) : Prop :=
  (∀ side, s.slot? side id = none) ∧ s.parent? id = none

theorem bare_of_node?_eq_none {id : NodeId} (h : s.node? id = none) : s.Bare id := by
  simp [Bare, slot?, parent?, h]

theorem bare_of_node?_eq_blank {id : NodeId} (h : s.node? id = some .blank) : s.Bare id := by
  refine ⟨fun side => ?_, ?_⟩
  · rw [slot?_of_node? h]
    cases side <;> rfl
  · rw [parent?_of_node? h]
    rfl

/-- Where the way up ends it does not run in a circle. -/
theorem not_transGen_self_of_acc {x : NodeId} (h : Acc (Function.swap s.Hangs) x) :
    ¬ Relation.TransGen s.Hangs x x := by
  induction h with
  | intro x _ ih =>
      intro hx
      obtain ⟨y, hxy, hyx⟩ := Relation.TransGen.head'_iff.1 hx
      exact ih y hxy (.tail' hyx hxy)

theorem wellFormed_of_holds (ht : s.Holds none t) (hroot : t.id? = some s.root)
    (hnodup : t.ids.Nodup) (hbare : ∀ x ∉ t.ids, s.Bare x) : s.WellFormed where
  hangs_of_slot := by
    intro p side c hc
    by_cases hp : p ∈ t.ids
    · exact (ht.of_slot hp hc).2
    · exact absurd (hc.symm.trans ((hbare p hp).1 side)) (Option.some_ne_none c)
  slot_of_hangs := by
    intro c p hc
    by_cases hct : c ∈ t.ids
    · rcases ht.of_mem hct with ⟨-, hnone⟩ | ⟨y, -, hcy, hside⟩
      · exact absurd (hc.symm.trans hnone) (Option.some_ne_none p)
      · exact hangs_unique hcy hc ▸ hside
    · exact absurd (hc.symm.trans (hbare c hct).2) (Option.some_ne_none p)
  left_ne_right := by
    intro p c hl
    by_cases hp : p ∈ t.ids
    · exact ht.left_ne_right hnodup hp hl
    · exact absurd (hl.symm.trans ((hbare p hp).1 .left)) (Option.some_ne_none c)
  acyclic := by
    intro x hx
    by_cases hxt : x ∈ t.ids
    · exact not_transGen_self_of_acc (ht.acc (by simp) hxt) hx
    · obtain ⟨p, hp, -⟩ := Relation.TransGen.head'_iff.1 hx
      exact absurd (hp.symm.trans (hbare x hxt).2) (Option.some_ne_none p)
  root_free := ht.parent?_top hroot

theorem node?_grow (s : Store) (size x : Nat) :
    (s.grow size).node? x =
      if x < s.nodes.size then s.node? x
      else if x < size then some .blank else none := by
  rw [grow, node?, Array.getElem?_append, Array.getElem?_replicate]
  by_cases hx : x < s.nodes.size
  · rw [if_pos hx, if_pos hx, node?]
  · rw [if_neg hx, if_neg hx]
    congr 1
    simp only [eq_iff_iff]
    omega

theorem size_grow (s : Store) (size : Nat) :
    (s.grow size).nodes.size = max s.nodes.size size := by
  simp only [grow, Array.size_append, Array.size_replicate]
  omega

end Store

namespace Tree

theorem lt_idBound {t : Tree} {x : Nat} (hx : x ∈ t.ids) : x < t.idBound := by
  induction t with
  | nil => simp [ids] at hx
  | leaf id a l =>
      rw [ids, List.mem_singleton] at hx
      subst hx
      exact Nat.lt_succ_self x
  | group id a g l r ihl ihr =>
      rw [ids, List.mem_cons, List.mem_append] at hx
      rw [idBound]
      rcases hx with rfl | hx | hx
      · omega
      · have := ihl hx
        omega
      · have := ihr hx
        omega

end Tree

namespace Store

variable {t : Tree} {id : NodeId}

theorem annotations_write (s : Store) (parent : Option NodeId) (t : Tree) :
    (s.write parent t).annotations = s.annotations := by
  induction t generalizing s parent with
  | nil => rfl
  | leaf => rfl
  | group id a g l r ihl ihr => exact (ihr _ _).trans (ihl _ _)

theorem annotations_ofTree (t : Tree) : (ofTree t).annotations = .empty :=
  annotations_write _ none t

theorem root_ofTree (hid : t.id? = some id) : (ofTree t).root = id := by
  simp [ofTree, hid]

theorem holds_ofTree (hnodup : t.ids.Nodup) : (ofTree t).Holds none t := by
  have hwrite : ((empty.grow t.idBound).write none t).Holds none t := by
    refine holds_write hnodup fun x hx => ?_
    rw [size_grow]
    exact Nat.lt_of_lt_of_le (Tree.lt_idBound hx) (Nat.le_max_right _ _)
  exact hwrite.congr fun x _ => rfl

theorem bare_ofTree {x : NodeId} (hx : x ∉ t.ids) : (ofTree t).Bare x := by
  have hnode : (ofTree t).node? x = (empty.grow t.idBound).node? x :=
    node?_write_of_notMem hx _ _
  rw [node?_grow] at hnode
  split at hnode
  · next hlt =>
      obtain rfl : x = 0 := Nat.lt_one_iff.1 hlt
      exact bare_of_node?_eq_blank hnode
  · split at hnode
    · exact bare_of_node?_eq_blank hnode
    · exact bare_of_node?_eq_none hnode

theorem wellFormed_ofTree (hid : t.id? = some id) (hnodup : t.ids.Nodup) :
    (ofTree t).WellFormed := by
  refine wellFormed_of_holds (holds_ofTree hnodup) ?_ hnodup fun x => bare_ofTree
  rw [root_ofTree hid, hid]

theorem tree_ofTree (hid : t.id? = some id) (hnodup : t.ids.Nodup) : (ofTree t).tree = t := by
  rw [tree, root_ofTree hid]
  exact (holds_ofTree hnodup).view_eq hnodup hid

theorem isGroup_ofTree {a : Attributes} {g : Group} {l r : Tree}
    (hnodup : (Tree.group id a g l r).ids.Nodup) :
    (ofTree (.group id a g l r)).isGroup (ofTree (.group id a g l r)).root := by
  rw [root_ofTree (t := .group id a g l r) rfl, isGroup, (holds_ofTree hnodup).1]
  rfl

theorem wellFormed_empty : empty.WellFormed := by
  refine wellFormed_of_holds (t := .group 0 .plain .plain .nil .nil) ⟨rfl, trivial, trivial⟩ rfl
    (by decide) fun x hx => ?_
  obtain ⟨x, rfl⟩ := Nat.exists_eq_succ_of_ne_zero fun heq => hx (List.mem_singleton.2 heq)
  exact bare_of_node?_eq_none rfl

end Store

end SearchQuery
