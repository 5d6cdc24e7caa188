import SearchQuery.Proofs.Store.Apart

/-!
# What a store shows after an operation

In a well-formed store the view below a node is told by the label of the node and the views below its
slots. So what an operation does to labels and slots says what it does to every view: taking a node out,
putting a free node in its place, filling an empty slot and changing what a node says each come to
`Tree.replace` at one node, and the views of all nodes that do not have that node below them stay.

A node is free when it has no parent.
-/

namespace SearchQuery

namespace Store

variable {s s' : Store} {id x y : NodeId} {a : Attributes} {g : Group}

def viewSlot (s : Store) (side : Tree.Side) (id : NodeId) : Tree :=
  (s.slot? side id).elim .nil s.view

theorem view_eq_nil (h : s.label? id = none) : s.view id = .nil := by
  rw [view]
  cases s.nodes.size with
  | zero => rfl
  | succ depth => simp only [viewTo_succ, h]

theorem exists_node?_of_label? {label : Attributes × (Leaf ⊕ Group)}
    (h : s.label? id = some label) : ∃ n, s.node? id = some n ∧ n.label = label :=
  Option.map_eq_some_iff.1 h

theorem view_eq_leaf {l : Leaf} (h : s.label? id = some (a, .inl l)) :
    s.view id = .leaf id a l := by
  obtain ⟨n, hn, -⟩ := exists_node?_of_label? h
  obtain ⟨depth, hsize⟩ := Nat.exists_eq_add_of_le' (Nat.one_le_of_lt (lt_size_of_node? hn))
  simp only [view, hsize, viewTo_succ, h]

theorem WellFormed.view_eq_group (hs : s.WellFormed) (h : s.label? id = some (a, .inr g)) :
    s.view id = .group id a g (s.viewSlot .left id) (s.viewSlot .right id) := by
  obtain ⟨⟨b, content, p⟩, hn, hlabel⟩ := exists_node?_of_label? h
  cases content with
  | leaf => cases hlabel
  | group =>
      cases hlabel
      rw [hs.view_group hn, viewSlot, viewSlot, slot?_of_node? hn, slot?_of_node? hn]
      rfl

/-- What hangs in a slot does not have the node that holds it below itself. -/
theorem WellFormed.notMem_view_of_slot (hs : s.WellFormed) {side : Tree.Side} {c : NodeId}
    (hc : s.slot? side id = some c) : id ∉ (s.view c).ids := by
  obtain ⟨n, hn, -⟩ := WellFormed.exists_node?_of_hangs (hs.hangs_of_slot hc)
  rw [hs.mem_ids_view_iff hn]
  exact hs.not_above_of_slot hc

theorem WellFormed.id?_view_of_slot (hs : s.WellFormed) {side : Tree.Side} {c : NodeId}
    (hc : s.slot? side id = some c) : (s.view c).id? = some c := by
  obtain ⟨n, hn, -⟩ := WellFormed.exists_node?_of_hangs (hs.hangs_of_slot hc)
  exact hs.id?_view hn

theorem WellFormed.size_view_lt (hs : s.WellFormed) {side : Tree.Side} {c : NodeId}
    (hc : s.slot? side id = some c) : (s.view c).size < (s.view id).size := by
  obtain ⟨n, hn, hslot⟩ := Option.bind_eq_some_iff.1 hc
  have hgroup : s.isGroup id := by
    rw [isGroup_of_node? hn]
    exact Node.isGroup_of_slot hslot
  obtain ⟨a, g, hl⟩ := isGroup_iff_label?.1 hgroup
  have hview : s.viewSlot side id = s.view c := by rw [viewSlot, hc]; rfl
  rw [hs.view_eq_group hl, Tree.size, ← hview]
  cases side <;> omega

theorem WellFormed.induction_on_slots (hs : s.WellFormed) {p : NodeId → Prop}
    (step : ∀ y, (∀ side c, s.slot? side y = some c → p c) → p y) (y : NodeId) : p y := by
  induction hsize : (s.view y).size using Nat.strongRecOn generalizing y with
  | ind size ih =>
      exact step y fun side c hc => ih _ (hsize ▸ hs.size_view_lt hc) c rfl

/-- Nodes with the same label show the same as far as their slots do. -/
theorem view_congr (hs : s.WellFormed) (hs' : s'.WellFormed) (hlabel : s'.label? y = s.label? y)
    {f : Tree → Tree} (hnil : f .nil = .nil)
    (hleaf : ∀ a l, s.label? y = some (a, .inl l) → f (.leaf y a l) = .leaf y a l)
    (hgroup : ∀ a g, s.label? y = some (a, .inr g) → ∀ l r,
      f (.group y a g l r) = .group y a g (f l) (f r))
    (hslot : ∀ side, s'.viewSlot side y = f (s.viewSlot side y)) : s'.view y = f (s.view y) := by
  cases hl : s.label? y with
  | none => rw [view_eq_nil hl, view_eq_nil (hlabel.trans hl), hnil]
  | some label =>
      obtain ⟨a, l | g⟩ := label
      · rw [view_eq_leaf hl, view_eq_leaf (hlabel.trans hl), hleaf a l hl]
      · rw [hs.view_eq_group hl, hs'.view_eq_group (hlabel.trans hl), hslot, hslot, hgroup a g hl]

/-! ## One node in the place of another -/

section Exchange

variable {old : NodeId} {new : Option NodeId} (hs : s.WellFormed) (hs' : s'.WellFormed)
  (hlabel : ∀ x, s'.label? x = s.label? x)
  (hslot : ∀ side x, s'.slot? side x = if s.slot? side x = some old then new else s.slot? side x)

include hs hs' hlabel hslot

/-- Where a node, or nothing, has come into the slot of another one, it is shown there. -/
theorem view_exchange (hne : y ≠ old) :
    s'.view y = (s.view y).replace old (new.elim .nil s'.view) := by
  revert hne
  refine hs.induction_on_slots (p := fun y => y ≠ old →
    s'.view y = (s.view y).replace old (new.elim .nil s'.view)) (fun y ih hne => ?_) y
  refine view_congr hs hs' (hlabel y) (f := (·.replace old _)) rfl
    (fun _ _ _ => if_neg hne) (fun _ _ _ _ _ => if_neg hne) fun side => ?_
  rw [viewSlot, viewSlot, hslot]
  cases hc : s.slot? side y with
  | none => rfl
  | some c =>
      by_cases hold : c = old
      · subst hold
        rw [if_pos rfl]
        exact (Tree.replace_top (hs.id?_view_of_slot hc) _).symm
      · rw [if_neg fun heq => hold (Option.some.inj heq)]
        exact ih side c hc hold

theorem view_exchange_self : s'.view old = s.view old := by
  refine view_congr hs hs' (hlabel old) (f := fun t => t) rfl (fun _ _ _ => rfl)
    (fun _ _ _ _ _ => rfl) fun side => ?_
  rw [viewSlot, viewSlot, hslot]
  cases hc : s.slot? side old with
  | none => rfl
  | some c =>
      have hne : c ≠ old := by
        rintro rfl
        exact hs.not_above_of_slot hc .refl
      rw [if_neg fun heq => hne (Option.some.inj heq)]
      refine (view_exchange hs hs' hlabel hslot hne).trans ?_
      exact Tree.replace_of_notMem (hs.notMem_view_of_slot hc) _

end Exchange

/-- Where only one node is changed, all that is changed is what is shown there. -/
theorem view_update (hs : s.WellFormed) (hs' : s'.WellFormed) (hid : id < s.next)
    (hlabel : ∀ x ≠ id, s'.label? x = s.label? x)
    (hslot : ∀ side, ∀ x ≠ id, s'.slot? side x = s.slot? side x) (y : NodeId) :
    s'.view y = (s.view y).replace id (s'.view id) := by
  refine hs.induction_on_slots (p := fun y => s'.view y = (s.view y).replace id (s'.view id))
    (fun y ih => ?_) y
  by_cases hne : y = id
  · subst hne
    obtain ⟨n, hn⟩ := exists_node?_of_lt hid
    exact (Tree.replace_top (hs.id?_view hn) _).symm
  · refine view_congr hs hs' (hlabel y hne) (f := (·.replace id _)) rfl
      (fun _ _ _ => if_neg hne) (fun _ _ _ _ _ => if_neg hne) fun side => ?_
    rw [viewSlot, viewSlot, hslot side y hne]
    cases hc : s.slot? side y with
    | none => rfl
    | some c => exact ih side c hc

end Store

end SearchQuery
