import SearchQuery.Proofs.Query.Numbers
import SearchQuery.Proofs.Store.OfTree

/-!
# Adding nodes

What is added to a store is a tree of new nodes that hangs nowhere. A store that has its old nodes
as they were, and such a tree under the numbers from the old size on, is well formed if it was before,
`WellFormed.extend`. One node that is added is a tree of one node, and a copy is a tree numbered
anew.
-/

namespace SearchQuery

def Content.isChildless : Content → Bool
  | leaf _ => true
  | group _ l r => l.isNone && r.isNone

namespace Store

variable {s s' : Store} {t : Tree}

/-- The new nodes of `s'` are a tree of their own beside the old ones. -/
structure Extends (s s' : Store) (t : Tree) : Prop where
  node?_eq : ∀ x : Nat, x < s.next → s'.node? x = s.node? x
  holds : s'.Holds none t
  nodup : t.ids.Nodup
  mem_iff : ∀ x : Nat, x ∈ t.ids ↔ s.next ≤ x ∧ x < s'.next
  root_eq : s'.root = s.root

namespace Extends

theorem parent?_eq (h : Extends s s' t) {x : Nat} (hx : x < s.next) :
    s'.parent? x = s.parent? x := by
  rw [parent?, h.node?_eq x hx, parent?]

theorem slot?_eq (h : Extends s s' t) (side : Tree.Side) {x : Nat} (hx : x < s.next) :
    s'.slot? side x = s.slot? side x := by
  rw [slot?, h.node?_eq x hx, slot?]

/-- A node in the table is an old one or one of the new tree. -/
theorem lt_or_mem (h : Extends s s' t) {x : Nat} {n : Node} (hn : s'.node? x = some n) :
    x < s.next ∨ x ∈ t.ids :=
  (Nat.lt_or_ge x s.next).imp_right fun hx => (h.mem_iff x).2 ⟨hx, lt_size_of_node? hn⟩

theorem le_next (h : Extends s s' t) : s.next ≤ s'.next := by
  refine Nat.le_of_not_lt fun hlt => ?_
  have hnode := h.node?_eq s'.nodes.size hlt
  rw [node?, Array.getElem?_eq_none (Nat.le_refl _)] at hnode
  exact absurd hlt (Nat.not_lt.2 (Array.getElem?_eq_none_iff.1 hnode.symm))

end Extends

theorem WellFormed.extend (h : s.WellFormed) (hroot : s.root < s.next) (hext : Extends s s' t) :
    s'.WellFormed where
  hangs_of_slot := by
    intro p side c hc
    obtain ⟨n, hn, -⟩ := Option.bind_eq_some_iff.1 hc
    rcases hext.lt_or_mem hn with hp | hp
    · rw [hext.slot?_eq side hp] at hc
      have hhangs := h.hangs_of_slot hc
      obtain ⟨m, hm, -⟩ := exists_node?_of_hangs hhangs
      exact (hext.parent?_eq (lt_size_of_node? hm)).trans hhangs
    · exact (hext.holds.of_slot hp hc).2
  slot_of_hangs := by
    intro c p hc
    obtain ⟨n, hn, -⟩ := exists_node?_of_hangs hc
    rcases hext.lt_or_mem hn with hlt | hmem
    · have hold : s.Hangs c p := (hext.parent?_eq hlt).symm.trans hc
      obtain ⟨side, hside⟩ := h.slot_of_hangs hold
      exact ⟨side, (hext.slot?_eq side (h.lt_size_of_hangs hold)).trans hside⟩
    · rcases hext.holds.of_mem hmem with ⟨-, hnone⟩ | ⟨y, -, hy, hside⟩
      · exact absurd (hc.symm.trans hnone) (Option.some_ne_none p)
      · exact hangs_unique hy hc ▸ hside
  left_ne_right := by
    intro p c hl
    obtain ⟨n, hn, -⟩ := Option.bind_eq_some_iff.1 hl
    rcases hext.lt_or_mem hn with hp | hp
    · rw [hext.slot?_eq .left hp] at hl
      rw [hext.slot?_eq .right hp]
      exact h.left_ne_right hl
    · exact hext.holds.left_ne_right hext.nodup hp hl
  acyclic := by
    intro x hx
    obtain ⟨p, hp, -⟩ := Relation.TransGen.head'_iff.1 hx
    obtain ⟨n, hn, -⟩ := exists_node?_of_hangs hp
    rcases hext.lt_or_mem hn with hlt | hmem
    · -- from an old node the way up leads over old nodes
      have hold : ∀ {y}, Relation.TransGen s'.Hangs x y →
          y < s.nodes.size ∧ Relation.TransGen s.Hangs x y := by
        intro y hy
        induction hy with
        | single hxy =>
            have hxy' : s.Hangs x _ := (hext.parent?_eq hlt).symm.trans hxy
            exact ⟨h.lt_size_of_hangs hxy', .single hxy'⟩
        | tail _ hyz ih =>
            have hyz' : s.Hangs _ _ := (hext.parent?_eq ih.1).symm.trans hyz
            exact ⟨h.lt_size_of_hangs hyz', ih.2.tail hyz'⟩
      exact h.acyclic x (hold hx).2
    · exact not_transGen_self_of_acc (hext.holds.acc (by simp) hmem) hx
  root_free := by
    rw [hext.root_eq, hext.parent?_eq hroot]
    exact h.root_free

/-! ## One node -/

theorem node?_add (s : Store) (a : Attributes) (c : Content) (x : NodeId) :
    (s.add a c).node? x = if x = s.next then some ⟨a, c, none⟩ else s.node? x := by
  rw [node?, add, Array.getElem?_push]
  rfl

/-- A node that holds no other is added as a tree of one node. -/
theorem exists_extends_add (s : Store) (a : Attributes) {c : Content} (h : c.isChildless) :
    ∃ t, Extends s (s.add a c) t := by
  have hnew : (s.add a c).node? s.next = some ⟨a, c, none⟩ := (node?_add ..).trans (if_pos rfl)
  obtain ⟨t, hids, hholds⟩ : ∃ t : Tree, t.ids = [s.next] ∧ (s.add a c).Holds none t := by
    cases c with
    | leaf l => exact ⟨.leaf s.next a l, rfl, hnew⟩
    | group g l r =>
        obtain ⟨hl, hr⟩ := Bool.and_eq_true_iff.1 h
        obtain rfl := Option.isNone_iff_eq_none.1 hl
        obtain rfl := Option.isNone_iff_eq_none.1 hr
        exact ⟨.group s.next a g .nil .nil, rfl, hnew, trivial, trivial⟩
  refine ⟨t, fun x hx => ?_, hholds, ?_, fun x => ?_, rfl⟩
  · exact (node?_add ..).trans (if_neg (Nat.ne_of_lt hx))
  · rw [hids]
    exact List.nodup_singleton _
  · have hsize : (s.add a c).next = s.next + 1 := Array.size_push ..
    rw [hids, List.mem_singleton, hsize]
    exact ⟨fun heq => heq ▸ ⟨Nat.le_refl _, Nat.lt_succ_self _⟩,
      fun hx => Nat.le_antisymm (Nat.le_of_lt_succ hx.2) hx.1⟩

/-! ## A copy -/

theorem root_write (s : Store) (parent : Option NodeId) (t : Tree) :
    (s.write parent t).root = s.root := by
  induction t generalizing s parent with
  | nil => rfl
  | leaf => rfl
  | group id a g l r ihl ihr => exact (ihr _ _).trans (ihl _ _)

theorem extends_copy (s : Store) (t : Tree) :
    Extends s (s.copy t) (t.renumber s.next).1 := by
  have hnew := Tree.extends_renumber t s.next
  have hcopy : s.copy t = (s.grow (t.renumber s.next).2).write none (t.renumber s.next).1 := rfl
  rw [hcopy]
  generalize t.renumber s.next = copied at hnew
  obtain ⟨copied, after⟩ := copied
  dsimp only at hnew ⊢
  have hmem : ∀ x : Nat, x ∈ copied.ids ↔ s.next ≤ x ∧ x < after := by
    intro x
    rw [hnew.mem_iff]
    simp
  have hsize : ((s.grow after).write none copied).next = after := by
    rw [next, size_write, size_grow]
    exact Nat.max_eq_right hnew.le
  have hnodup := hnew.nodup .nil (by simp)
  refine ⟨fun x hx => ?_, ?_, hnodup, fun x => ?_, root_write ..⟩
  · rw [node?_write_of_notMem fun hx' => Nat.not_le.2 hx ((hmem x).1 hx').1, node?_grow]
    exact if_pos hx
  · refine holds_write hnodup fun x hx => ?_
    rw [size_grow]
    exact Nat.lt_of_lt_of_le ((hmem x).1 hx).2 (Nat.le_max_right _ _)
  · rw [hsize]
    exact hmem x

end Store

end SearchQuery
