import Mathlib.Logic.Relation
import SearchQuery.Store.View

/-!
# Trees in a store

`s.Holds parent t` says that the table of `s` has every node of `t` at its number, with the slots
and parent links that `t` shows, its top linked to `parent`. What a store holds is what its view
shows, and what `write` writes down it holds.

`Hangs` is the step from a node to its parent and `slot?` the step from a group into a slot; inside
a tree that a store holds neither leads out of the tree, but for the parent of the top.
-/

namespace SearchQuery

namespace Store

variable {s : Store}

def slot? (s : Store) (side : Tree.Side) (id : NodeId) : Option NodeId :=
  (s.node? id).bind (·.slot side)

def Hangs (s : Store) (child parent : NodeId) : Prop :=
  s.parent? child = some parent

def Holds (s : Store) : Option NodeId → Tree → Prop
  | _, .nil => True
  | parent, .leaf id a l => s.node? id = some ⟨a, .leaf l, parent⟩
  | parent, .group id a g l r =>
      s.node? id = some ⟨a, .group g l.id? r.id?, parent⟩ ∧ s.Holds (some id) l ∧
        s.Holds (some id) r

theorem lt_size_of_node? {id : Nat} {n : Node} (h : s.node? id = some n) :
    id < s.nodes.size :=
  (Array.getElem?_eq_some_iff.1 h).1

theorem hangs_unique {child p q : NodeId} (hp : s.Hangs child p) (hq : s.Hangs child q) : p = q :=
  Option.some.inj (hp.symm.trans hq)

theorem slot?_of_node? {id : NodeId} {n : Node} (h : s.node? id = some n) (side : Tree.Side) :
    s.slot? side id = n.slot side := by
  simp [slot?, h]

theorem parent?_of_node? {id : NodeId} {n : Node} (h : s.node? id = some n) :
    s.parent? id = n.parent := by
  simp [parent?, h]

theorem attrs_of_node? {id : NodeId} {n : Node} (h : s.node? id = some n) : s.attrs id = n.attrs := by
  simp [attrs, h]

theorem isGroup_of_node? {id : NodeId} {n : Node} (h : s.node? id = some n) :
    s.isGroup id = n.isGroup := by
  simp [isGroup, h]

theorem exists_node?_of_isGroup {id : NodeId} (h : s.isGroup id) :
    ∃ a g l r p, s.node? id = some ⟨a, .group g l r, p⟩ := by
  obtain ⟨⟨a, content, p⟩, hn, hgroup⟩ := (Option.any_eq_true _ _).1 h
  cases content with
  | leaf => cases hgroup
  | group g l r => exact ⟨a, g, l, r, p, hn⟩

theorem viewTo_leaf {id : NodeId} {a : Attributes} {l : Leaf} {p : Option NodeId}
    (h : s.node? id = some ⟨a, .leaf l, p⟩) (depth : Nat) :
    s.viewTo (depth + 1) id = .leaf id a l := by
  simp only [viewTo, h]

theorem viewTo_group {id : NodeId} {a : Attributes} {g : Group} {l r p : Option NodeId}
    (h : s.node? id = some ⟨a, .group g l r, p⟩) (depth : Nat) :
    s.viewTo (depth + 1) id =
      .group id a g (l.elim .nil (s.viewTo depth)) (r.elim .nil (s.viewTo depth)) := by
  simp only [viewTo, h]

theorem mem_ids_of_id? {t : Tree} {id : NodeId} (h : t.id? = some id) : id ∈ t.ids := by
  cases t with
  | nil => simp [Tree.id?] at h
  | leaf => simp_all [Tree.id?, Tree.ids]
  | group => simp_all [Tree.id?, Tree.ids]

theorem exists_id?_of_mem_ids {t : Tree} {x : NodeId} (h : x ∈ t.ids) :
    ∃ id, t.id? = some id := by
  cases t with
  | nil => simp [Tree.ids] at h
  | leaf id => exact ⟨id, rfl⟩
  | group id => exact ⟨id, rfl⟩

namespace Holds

variable {parent : Option NodeId} {t : Tree}

theorem parent?_top (h : s.Holds parent t) {id : NodeId} (hid : t.id? = some id) :
    s.parent? id = parent := by
  cases t with
  | nil => simp [Tree.id?] at hid
  | leaf i a l =>
      obtain rfl : i = id := Option.some.inj hid
      exact parent?_of_node? h
  | group i a g l r =>
      obtain rfl : i = id := Option.some.inj hid
      exact parent?_of_node? h.1

/-- Only the entries of the nodes of the tree matter. -/
theorem congr {s' : Store} (h : s.Holds parent t)
    (heq : ∀ x ∈ t.ids, s'.node? x = s.node? x) : s'.Holds parent t := by
  induction t generalizing parent with
  | nil => trivial
  | leaf id a l => exact (heq id (by simp [Tree.ids])).trans h
  | group id a g l r ihl ihr =>
      obtain ⟨hn, hl, hr⟩ := h
      refine ⟨(heq id (by simp [Tree.ids])).trans hn, ihl hl fun x hx => ?_,
        ihr hr fun x hx => ?_⟩
      · exact heq x (by simp [Tree.ids, hx])
      · exact heq x (by simp [Tree.ids, hx])

/-- Two stores that hold the tree in the same place have the same entries for its nodes. -/
theorem node?_eq {s' : Store} (h : s.Holds parent t) (h' : s'.Holds parent t) {x : NodeId}
    (hx : x ∈ t.ids) : s.node? x = s'.node? x := by
  induction t generalizing parent with
  | nil => simp [Tree.ids] at hx
  | leaf id a l =>
      rw [Tree.ids, List.mem_singleton] at hx
      exact hx ▸ h.trans h'.symm
  | group id a g l r ihl ihr =>
      rw [Tree.ids, List.mem_cons, List.mem_append] at hx
      rcases hx with rfl | hx | hx
      · exact h.1.trans h'.1.symm
      · exact ihl h.2.1 h'.2.1 hx
      · exact ihr h.2.2 h'.2.2 hx

theorem lt_size (h : s.Holds parent t) {x : Nat} (hx : x ∈ t.ids) : x < s.nodes.size := by
  induction t generalizing parent with
  | nil => simp [Tree.ids] at hx
  | leaf id a l =>
      rw [Tree.ids, List.mem_singleton] at hx
      exact hx ▸ lt_size_of_node? h
  | group id a g l r ihl ihr =>
      obtain ⟨hn, hl, hr⟩ := h
      rw [Tree.ids, List.mem_cons, List.mem_append] at hx
      rcases hx with rfl | hx | hx
      · exact lt_size_of_node? hn
      · exact ihl hl hx
      · exact ihr hr hx

/-- A view that is deep enough shows the tree. -/
theorem viewTo_eq (h : s.Holds parent t) {depth : Nat} (hdepth : t.ids.length ≤ depth)
    {id : NodeId} (hid : t.id? = some id) : s.viewTo depth id = t := by
  induction t generalizing parent depth id with
  | nil => simp [Tree.id?] at hid
  | leaf i a l =>
      obtain rfl : i = id := Option.some.inj hid
      rw [Tree.ids, List.length_singleton] at hdepth
      obtain ⟨d, rfl⟩ := Nat.exists_eq_add_of_le' hdepth
      exact viewTo_leaf h d
  | group i a g l r ihl ihr =>
      obtain rfl : i = id := Option.some.inj hid
      obtain ⟨hn, hl, hr⟩ := h
      rw [Tree.ids, List.length_cons, List.length_append] at hdepth
      obtain ⟨d, rfl⟩ := Nat.exists_eq_add_of_le' (Nat.le_of_add_left_le hdepth)
      have hslot : ∀ t : Tree, (∀ id, t.id? = some id → s.viewTo d id = t) →
          t.id?.elim .nil (s.viewTo d) = t := by
        intro t ht
        cases t with
        | nil => rfl
        | leaf id => exact ht id rfl
        | group id => exact ht id rfl
      rw [viewTo_group hn, hslot l fun id => ihl hl (by omega),
        hslot r fun id => ihr hr (by omega)]

theorem view_eq (h : s.Holds parent t) (hnodup : t.ids.Nodup) {id : NodeId}
    (hid : t.id? = some id) : s.view id = t := by
  refine h.viewTo_eq ?_ hid
  have hsub : t.ids ⊆ List.range s.nodes.size :=
    fun x hx => List.mem_range.2 (h.lt_size hx)
  simpa using hnodup.length_le_of_subset hsub

theorem of_slot (h : s.Holds parent t) {x c : NodeId} (hx : x ∈ t.ids) {side : Tree.Side}
    (hc : s.slot? side x = some c) : c ∈ t.ids ∧ s.Hangs c x := by
  induction t generalizing parent with
  | nil => simp [Tree.ids] at hx
  | leaf id a l =>
      rw [Tree.ids, List.mem_singleton] at hx
      subst hx
      rw [slot?_of_node? h] at hc
      cases side <;> simp [Node.slot, Node.left, Node.right] at hc
  | group id a g l r ihl ihr =>
      obtain ⟨hn, hl, hr⟩ := h
      rw [Tree.ids, List.mem_cons, List.mem_append] at hx
      simp only [Tree.ids, List.mem_cons, List.mem_append]
      rcases hx with rfl | hx | hx
      · rw [slot?_of_node? hn] at hc
        cases side with
        | left => exact ⟨.inr (.inl (mem_ids_of_id? hc)), hl.parent?_top hc⟩
        | right => exact ⟨.inr (.inr (mem_ids_of_id? hc)), hr.parent?_top hc⟩
      · exact ⟨.inr (.inl (ihl hl hx).1), (ihl hl hx).2⟩
      · exact ⟨.inr (.inr (ihr hr hx).1), (ihr hr hx).2⟩

/-- A node of the tree is its top, linked to `parent`, or in a slot of a node of the tree. -/
theorem of_mem (h : s.Holds parent t) {x : NodeId} (hx : x ∈ t.ids) :
    (t.id? = some x ∧ s.parent? x = parent) ∨
      ∃ y ∈ t.ids, s.Hangs x y ∧ ∃ side, s.slot? side y = some x := by
  induction t generalizing parent with
  | nil => simp [Tree.ids] at hx
  | leaf id a l =>
      rw [Tree.ids, List.mem_singleton] at hx
      subst hx
      exact .inl ⟨rfl, parent?_of_node? h⟩
  | group id a g l r ihl ihr =>
      obtain ⟨hn, hl, hr⟩ := h
      rw [Tree.ids, List.mem_cons, List.mem_append] at hx
      rcases hx with rfl | hx | hx
      · exact .inl ⟨rfl, parent?_of_node? hn⟩
      · refine .inr ?_
        rcases ihl hl hx with ⟨htop, hparent⟩ | ⟨y, hy, hxy⟩
        · exact ⟨id, by simp [Tree.ids], hparent, .left, by rw [slot?_of_node? hn]; exact htop⟩
        · exact ⟨y, by simp [Tree.ids, hy], hxy⟩
      · refine .inr ?_
        rcases ihr hr hx with ⟨htop, hparent⟩ | ⟨y, hy, hxy⟩
        · exact ⟨id, by simp [Tree.ids], hparent, .right, by rw [slot?_of_node? hn]; exact htop⟩
        · exact ⟨y, by simp [Tree.ids, hy], hxy⟩

/-- From every node of the tree the way up leads to its top. -/
theorem reflTransGen_top (h : s.Holds parent t) {id x : NodeId} (hid : t.id? = some id)
    (hx : x ∈ t.ids) : Relation.ReflTransGen s.Hangs x id := by
  induction t generalizing parent id with
  | nil => simp [Tree.ids] at hx
  | leaf i a l =>
      obtain rfl : i = id := Option.some.inj hid
      rw [Tree.ids, List.mem_singleton] at hx
      exact hx ▸ .refl
  | group i a g l r ihl ihr =>
      obtain rfl : i = id := Option.some.inj hid
      obtain ⟨hn, hl, hr⟩ := h
      rw [Tree.ids, List.mem_cons, List.mem_append] at hx
      rcases hx with rfl | hx | hx
      · exact .refl
      · obtain ⟨c, hc⟩ := exists_id?_of_mem_ids hx
        exact (ihl hl hc hx).tail (hl.parent?_top hc)
      · obtain ⟨c, hc⟩ := exists_id?_of_mem_ids hx
        exact (ihr hr hc hx).tail (hr.parent?_top hc)

theorem left_ne_right (h : s.Holds parent t) (hnodup : t.ids.Nodup) {x c : NodeId}
    (hx : x ∈ t.ids) (hl : s.slot? .left x = some c) : s.slot? .right x ≠ some c := by
  induction t generalizing parent with
  | nil => simp [Tree.ids] at hx
  | leaf id a l =>
      rw [Tree.ids, List.mem_singleton] at hx
      subst hx
      rw [slot?_of_node? h]
      simp [Node.slot, Node.right]
  | group id a g l r ihl ihr =>
      obtain ⟨hn, hhl, hhr⟩ := h
      rw [Tree.ids, List.nodup_cons, List.nodup_append] at hnodup
      obtain ⟨-, hndl, hndr, hdisjoint⟩ := hnodup
      rw [Tree.ids, List.mem_cons, List.mem_append] at hx
      rcases hx with rfl | hx | hx
      · rw [slot?_of_node? hn] at hl ⊢
        exact fun hr => hdisjoint c (mem_ids_of_id? hl) c (mem_ids_of_id? hr) rfl
      · exact ihl hhl hndl hx
      · exact ihr hhr hndr hx

/-- From any node of the tree the way up ends, if it does from where the tree hangs. -/
theorem acc (h : s.Holds parent t) (hparent : ∀ p, parent = some p → Acc (Function.swap s.Hangs) p)
    {x : NodeId} (hx : x ∈ t.ids) : Acc (Function.swap s.Hangs) x := by
  induction t generalizing parent with
  | nil => simp [Tree.ids] at hx
  | leaf id a l =>
      rw [Tree.ids, List.mem_singleton] at hx
      subst hx
      exact ⟨_, fun p hp => hparent p ((parent?_of_node? h).symm.trans hp)⟩
  | group id a g l r ihl ihr =>
      obtain ⟨hn, hl, hr⟩ := h
      have hid : Acc (Function.swap s.Hangs) id :=
        ⟨_, fun p hp => hparent p ((parent?_of_node? hn).symm.trans hp)⟩
      have hslot : ∀ p, some id = some p → Acc (Function.swap s.Hangs) p := by
        rintro p ⟨⟩
        exact hid
      rw [Tree.ids, List.mem_cons, List.mem_append] at hx
      rcases hx with rfl | hx | hx
      · exact hid
      · exact ihl hl hslot hx
      · exact ihr hr hslot hx

end Holds

section Write

theorem node?_put (s : Store) (id x : NodeId) (n : Node) :
    (s.put id n).node? x = if id = x ∧ x < s.nodes.size then some n else s.node? x := by
  rw [put, node?, Array.getElem?_setIfInBounds]
  by_cases h : id = x
  · subst h
    by_cases hsize : id < s.nodes.size
    · simp [hsize]
    · simp [hsize, node?]
  · simp [h, node?]

theorem size_write (s : Store) (parent : Option NodeId) (t : Tree) :
    (s.write parent t).nodes.size = s.nodes.size := by
  induction t generalizing s parent with
  | nil => rfl
  | leaf => simp [write, put]
  | group id a g l r ihl ihr => rw [write, ihr, ihl]; simp [put]

theorem node?_write_of_notMem {t : Tree} {x : NodeId} (hx : x ∉ t.ids) (s : Store)
    (parent : Option NodeId) : (s.write parent t).node? x = s.node? x := by
  induction t generalizing s parent with
  | nil => rfl
  | leaf id a l =>
      rw [Tree.ids, List.mem_singleton] at hx
      rw [write, node?_put, if_neg fun h => hx h.1.symm]
  | group id a g l r ihl ihr =>
      simp only [Tree.ids, List.mem_cons, List.mem_append, not_or] at hx
      rw [write, ihr hx.2.2, ihl hx.2.1, node?_put, if_neg fun h => hx.1 h.1.symm]

theorem holds_write {s : Store} {parent : Option NodeId} {t : Tree} (hnodup : t.ids.Nodup)
    (hsize : ∀ x ∈ t.ids, x < s.nodes.size) : (s.write parent t).Holds parent t := by
  induction t generalizing s parent with
  | nil => trivial
  | leaf id a l =>
      have hid : id < s.nodes.size := hsize id (by simp [Tree.ids])
      rw [write, Holds, node?_put, if_pos ⟨rfl, hid⟩]
  | group id a g l r ihl ihr =>
      rw [Tree.ids, List.nodup_cons, List.nodup_append] at hnodup
      obtain ⟨hid, hndl, hndr, hdisjoint⟩ := hnodup
      rw [List.mem_append, not_or] at hid
      have hlt : id < s.nodes.size := hsize id (by simp [Tree.ids])
      rw [write]
      refine ⟨?_, ?_, ?_⟩
      · rw [node?_write_of_notMem hid.2, node?_write_of_notMem hid.1, node?_put,
          if_pos ⟨rfl, hlt⟩]
      · have hl : ((s.put id ⟨a, .group g l.id? r.id?, parent⟩).write (some id) l).Holds
            (some id) l :=
          ihl hndl fun x hx => by simpa [put] using hsize x (by simp [Tree.ids, hx])
        exact hl.congr fun x hx =>
          node?_write_of_notMem (fun hxr => hdisjoint x hx x hxr rfl) _ _
      · refine ihr hndr fun x hx => ?_
        rw [size_write]
        simpa [put] using hsize x (by simp [Tree.ids, hx])

end Write

end Store

end SearchQuery
