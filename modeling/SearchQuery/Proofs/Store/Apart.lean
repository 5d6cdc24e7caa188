import SearchQuery.Proofs.Store.Surgery

/-!
# Changes beyond a number

Nodes with new numbers often make up a part of the store of their own: no link leads from them to the
nodes before. `Apart` says so of all nodes from a number on. Whatever callers then do with these nodes,
they stay apart, and the nodes before them are left as they were, `Change.spares_of_run`. So what the
store shows below an old node does not change, `WellFormed.view_eq_of_node?_eq`.
-/

namespace SearchQuery

namespace Node

/-- The node has links to numbers from `bound` on only. -/
structure LinksBeyond (bound : Nat) (n : Node) : Prop where
  le_parent : ∀ {p}, n.parent = some p → bound ≤ p
  le_slot : ∀ {side c}, n.slot side = some c → bound ≤ c

namespace LinksBeyond

variable {bound : Nat} {n : Node} {link : Option NodeId}

theorem withAttrs (h : n.LinksBeyond bound) (a : Attributes) :
    ({ n with attrs := a } : Node).LinksBeyond bound where
  le_parent := h.le_parent
  le_slot {side c} hc := by
    have hslot : n.slot side = some c := by cases side <;> exact hc
    exact h.le_slot hslot

theorem withParent (h : n.LinksBeyond bound) (hlink : ∀ x, link = some x → bound ≤ x) :
    ({ n with parent := link } : Node).LinksBeyond bound where
  le_parent := hlink _
  le_slot {side c} hc := by
    have hslot : n.slot side = some c := by cases side <;> exact hc
    exact h.le_slot hslot

theorem withSlot (h : n.LinksBeyond bound) (hlink : ∀ x, link = some x → bound ≤ x)
    (side : Tree.Side) : (n.withSlot side link).LinksBeyond bound where
  le_parent hp := h.le_parent ((parent_withSlot n side link).symm.trans hp)
  le_slot {side' c} hc := by
    cases hgroup : n.isGroup with
    | true =>
        rw [slot_withSlot hgroup] at hc
        split at hc
        · exact hlink c hc
        · exact h.le_slot hc
    | false =>
        have hsame : n.withSlot side link = n := by
          obtain ⟨a, content, p⟩ := n
          cases content with
          | leaf => cases side <;> rfl
          | group => cases hgroup
        exact h.le_slot (hsame ▸ hc)

theorem exchange (h : n.LinksBeyond bound) (hlink : ∀ x, link = some x → bound ≤ x)
    (old : NodeId) : (n.exchange old link).LinksBeyond bound := by
  rcases n.exchange_cases old link with heq | ⟨side, heq⟩
  · rwa [heq]
  · rw [heq]
    exact h.withSlot hlink side

end LinksBeyond

end Node

namespace Store

variable {s s' s'' : Store} {bound : Nat}

/-- No link leads from the nodes with numbers from `bound` on to those before, and the root is one of
those before. -/
structure Apart (bound : Nat) (s : Store) : Prop where
  le_next : bound ≤ s.next
  root_lt : s.root < bound
  beyond : ∀ {x : Nat} {n}, bound ≤ x → s.node? x = some n → n.LinksBeyond bound

/-- The nodes before a number are as they were, and those from it on are apart from them. -/
structure Spares (bound : Nat) (s s' : Store) : Prop where
  apart : s'.Apart bound
  node?_eq : ∀ x : Nat, x < bound → s'.node? x = s.node? x
  root_eq : s'.root = s.root

theorem Spares.trans (h : Spares bound s s') (h' : Spares bound s' s'') : Spares bound s s'' where
  apart := h'.apart
  node?_eq x hx := (h'.node?_eq x hx).trans (h.node?_eq x hx)
  root_eq := h'.root_eq.trans h.root_eq

namespace Apart

theorem spares_self (h : s.Apart bound) : Spares bound s s :=
  ⟨h, fun _ _ => rfl, rfl⟩

theorem le_parent (h : s.Apart bound) {x p : Nat} (hx : bound ≤ x) (hp : s.parent? x = some p) :
    bound ≤ p := by
  obtain ⟨n, hn, hparent⟩ := Option.bind_eq_some_iff.1 hp
  exact (h.beyond hx hn).le_parent hparent

theorem le_slot (h : s.Apart bound) {side : Tree.Side} {x c : Nat} (hx : bound ≤ x)
    (hc : s.slot? side x = some c) : bound ≤ c := by
  obtain ⟨n, hn, hslot⟩ := Option.bind_eq_some_iff.1 hc
  exact (h.beyond hx hn).le_slot hslot

/-! ## What the operations do -/

theorem spares_modify (h : s.Apart bound) {id : Nat} (hid : bound ≤ id) {f : Node → Node}
    (hf : ∀ n : Node, n.LinksBeyond bound → (f n).LinksBeyond bound) :
    Spares bound s (s.modify id f) where
  apart := by
    refine ⟨?_, h.root_lt, fun {x n} hx hn => ?_⟩
    · rw [next, size_modify]
      exact h.le_next
    · rw [node?_modify] at hn
      split at hn
      · obtain ⟨m, hm, rfl⟩ := Option.map_eq_some_iff.1 hn
        exact hf m (h.beyond hx hm)
      · exact h.beyond hx hn
  node?_eq x hx := by
    rw [node?_modify, if_neg]
    rintro rfl
    exact Nat.not_lt.2 hid hx
  root_eq := rfl

theorem spares_setParent (h : s.Apart bound) {id : Nat} (hid : bound ≤ id) {p : Option NodeId}
    (hp : ∀ x, p = some x → bound ≤ x) : Spares bound s (s.setParent id p) :=
  h.spares_modify hid fun _ hn => hn.withParent hp

theorem spares_detach (h : s.Apart bound) {id : Nat} (hid : bound ≤ id) :
    Spares bound s (s.detach id) := by
  rw [detach]
  cases hparent : s.parent? id with
  | none => exact h.spares_self
  | some p =>
      have hfree := h.spares_setParent hid (p := none) (by simp)
      exact hfree.trans <| hfree.apart.spares_modify (h.le_parent hid hparent)
        fun _ hn => hn.exchange (by simp) id

theorem spares_setSlot (h : s.Apart bound) {id : Nat} (hid : bound ≤ id) {child : Option NodeId}
    (hchild : ∀ c, child = some c → bound ≤ c) (side : Tree.Side) :
    Spares bound s (s.setSlot side id child) := by
  rw [setSlot]
  split
  · -- the child leaves its slot, and what it displaces is beyond the number like the group
    have hout : Spares bound s (child.elim s s.detach) := by
      cases child with
      | none => exact h.spares_self
      | some c => exact h.spares_detach (hchild c rfl)
    generalize child.elim s s.detach = s₁ at hout ⊢
    have hput := hout.apart.spares_modify hid
      fun (n : Node) (hn : n.LinksBeyond bound) => hn.withSlot hchild side
    have hfree : Spares bound (s₁.modify id (·.withSlot side child))
        (((s₁.node? id).bind (·.slot side)).elim (s₁.modify id (·.withSlot side child))
          ((s₁.modify id (·.withSlot side child)).setParent · none)) := by
      cases hprevious : (s₁.node? id).bind (·.slot side) with
      | none => exact hput.apart.spares_self
      | some d => exact hput.apart.spares_setParent (hout.apart.le_slot hid hprevious) (by simp)
    refine (hout.trans hput).trans (hfree.trans ?_)
    cases child with
    | none => exact hfree.apart.spares_self
    | some c =>
        refine hfree.apart.spares_setParent (hchild c rfl) ?_
        rintro x ⟨⟩
        exact hid
  · exact h.spares_self

theorem spares_replaceSelf (h : s.Apart bound) {id r : Nat} (hid : bound ≤ id) (hr : bound ≤ r) :
    Spares bound s (s.replaceSelf id r) := by
  rw [replaceSelf]
  split
  · exact h.spares_self
  · have hout := h.spares_detach hr
    refine hout.trans ?_
    generalize s.detach r = s₁ at hout
    dsimp only
    cases hparent : s₁.parent? id with
    | none =>
        have hroot : s₁.root ≠ id := fun heq => Nat.not_lt.2 hid (heq ▸ hout.apart.root_lt)
        dsimp only
        rw [if_neg hroot]
        exact hout.apart.spares_self
    | some p =>
        have hp := hout.apart.le_parent hid hparent
        have hfree := hout.apart.spares_setParent hid (p := none) (by simp)
        have hput := hfree.apart.spares_modify hp (f := (·.exchange id (some r))) fun _ hn =>
          hn.exchange (fun x hx => Option.some.inj hx ▸ hr) id
        exact hfree.trans <| hput.trans <| hput.apart.spares_setParent hr
          fun x hx => Option.some.inj hx ▸ hp

theorem spares_removeSelf (h : s.Apart bound) {id : Nat} (hid : bound ≤ id) :
    Spares bound s (s.removeSelf id) := by
  rw [removeSelf]
  split
  · exact h.spares_self
  · exact h.spares_detach hid

theorem spares_wrap (h : s.Apart bound) {id wrapper : Nat} (hid : bound ≤ id)
    (hwrapper : bound ≤ wrapper) : Spares bound s (s.wrap id wrapper) := by
  have hplace := h.spares_replaceSelf hid hwrapper
  exact hplace.trans <| hplace.apart.spares_setSlot hwrapper
    (fun x hx => Option.some.inj hx ▸ hid) .left

theorem spares_extends (h : s.Apart bound) {t : Tree} (hext : Extends s s' t) :
    Spares bound s s' where
  apart := by
    refine ⟨Nat.le_trans h.le_next hext.le_next, hext.root_eq ▸ h.root_lt, fun {x n} hx hn => ?_⟩
    rcases hext.lt_or_mem hn with hlt | hmem
    · exact h.beyond hx ((hext.node?_eq x hlt).symm.trans hn)
    · -- a new node hangs on a new node, or on none, and holds new nodes
      have hnew : ∀ y ∈ t.ids, bound ≤ y := fun y hy =>
        Nat.le_trans h.le_next ((hext.mem_iff y).1 hy).1
      refine ⟨fun {p} hp => ?_, fun {side c} hc => ?_⟩
      · have hparent : s'.Hangs x p := (parent?_of_node? hn).trans hp
        rcases hext.holds.of_mem hmem with ⟨-, hnone⟩ | ⟨y, hy, hxy, -⟩
        · exact absurd (hparent.symm.trans hnone) (Option.some_ne_none p)
        · exact hangs_unique hxy hparent ▸ hnew y hy
      · exact hnew c (hext.holds.of_slot hmem ((slot?_of_node? hn side).trans hc)).1
  node?_eq x hx := hext.node?_eq x (Nat.lt_of_lt_of_le hx h.le_next)
  root_eq := hext.root_eq

end Apart

/-- Beyond the last number there is nothing yet. -/
theorem apart_next (hroot : s.root < s.next) : s.Apart s.next where
  le_next := Nat.le_refl _
  root_lt := hroot
  beyond hx hn := absurd (lt_size_of_node? hn) (Nat.not_lt.2 hx)

/-- What a well-formed store shows below a node stays the same as long as its nodes do. -/
theorem WellFormed.view_eq_of_node?_eq (h : s.WellFormed)
    (heq : ∀ x : Nat, x < s.next → s'.node? x = s.node? x) {id : NodeId} (hid : id < s.next) :
    s'.view id = s.view id := by
  obtain ⟨n, hn⟩ := exists_node?_of_lt hid
  have hholds := h.holds_view hn
  exact (hholds.congr fun x hx => heq x (hholds.lt_size hx)).view_eq
    (h.nodup_ids_of_holds hholds) (h.id?_view hn)

end Store

/-- What callers do to a store. -/
inductive Change
  | links (op : Surgery)
  | overwrite (id : NodeId) (f : Node → Node)
  | notes (f : Annotations → Annotations)

namespace Change

open Store

variable {s s' : Store} {bound : Nat}

def perform (s : Store) : Change → Store
  | links op => op.perform s
  | overwrite id f => s.modify id f
  | notes f => { s with annotations := f s.annotations }

/-- Only nodes with numbers from `bound` on are changed, and none of them is linked to a node
before. -/
def Beyond (bound : Nat) : Change → Prop
  | links (.add _ content) => content.isChildless
  | links op => ∀ x ∈ op.named, bound ≤ x
  | overwrite id f => bound ≤ id ∧ ∀ n : Node, n.LinksBeyond bound → (f n).LinksBeyond bound
  | notes _ => True

theorem spares_perform (h : s.Apart bound) {change : Change} (hchange : change.Beyond bound) :
    Spares bound s (change.perform s) := by
  cases change with
  | links op =>
      cases op with
      | add a content =>
          obtain ⟨t, hext⟩ := exists_extends_add s a hchange
          exact h.spares_extends hext
      | setSlot side id child =>
          obtain ⟨hid, hchild⟩ := List.forall_mem_cons.1 hchange
          exact h.spares_setSlot hid (fun c hc => hchild c (Option.mem_toList.2 hc)) side
      | replaceSelf id r =>
          obtain ⟨hid, hr⟩ := List.forall_mem_cons.1 hchange
          exact h.spares_replaceSelf hid (List.forall_mem_singleton.1 hr)
      | removeSelf id => exact h.spares_removeSelf (List.forall_mem_singleton.1 hchange)
      | wrap id w =>
          obtain ⟨hid, hw⟩ := List.forall_mem_cons.1 hchange
          exact h.spares_wrap hid (List.forall_mem_singleton.1 hw)
      | clone id => exact h.spares_extends (extends_copy s _)
      | implant source id => exact h.spares_extends (extends_copy s _)
  | overwrite id f => exact h.spares_modify hchange.1 hchange.2
  | notes f => exact ⟨⟨h.le_next, h.root_lt, h.beyond⟩, fun _ _ => rfl, rfl⟩

def Step (bound : Nat) (s s' : Store) : Prop :=
  ∃ change : Change, change.Beyond bound ∧ s' = change.perform s

/-- However often nodes from a number on are changed, those before stay as they were. -/
theorem spares_of_run (h : s.Apart bound) (hrun : Relation.ReflTransGen (Step bound) s s') :
    Spares bound s s' := by
  induction hrun with
  | refl => exact h.spares_self
  | tail _ hstep ih =>
      obtain ⟨change, hchange, rfl⟩ := hstep
      exact ih.trans (spares_perform ih.apart hchange)

end Change

end SearchQuery
