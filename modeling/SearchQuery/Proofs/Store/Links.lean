import SearchQuery.Proofs.Store.WellFormed

/-!
# What changes to one node do to the links

The links of a store are its parent links and its slots; `label?` is all that is left of a node
without them. The lemmas here say for each change to one node what it does to each of the three, up
to `detach`, which takes a node out of the slot it is in.
-/

namespace SearchQuery

namespace Node

def label (n : Node) : Attributes × (Leaf ⊕ Group) :=
  match n.content with
  | .leaf l => (n.attrs, .inl l)
  | .group g _ _ => (n.attrs, .inr g)

theorem slot_withSlot {n : Node} (h : n.isGroup) (side side' : Tree.Side) (c : Option NodeId) :
    (n.withSlot side c).slot side' = if side' = side then c else n.slot side' := by
  obtain ⟨a, content, p⟩ := n
  cases content with
  | leaf => cases h
  | group => cases side <;> cases side' <;> rfl

theorem withSlot_of_slot {n : Node} {side : Tree.Side} {child : Option NodeId}
    (h : n.slot side = child) : n.withSlot side child = n := by
  subst h
  obtain ⟨a, content, p⟩ := n
  cases content <;> cases side <;> rfl

theorem parent_withSlot (n : Node) (side : Tree.Side) (c : Option NodeId) :
    (n.withSlot side c).parent = n.parent := by
  obtain ⟨a, content, p⟩ := n
  cases content <;> cases side <;> rfl

theorem label_withSlot (n : Node) (side : Tree.Side) (c : Option NodeId) :
    (n.withSlot side c).label = n.label := by
  obtain ⟨a, content, p⟩ := n
  cases content <;> cases side <;> rfl

theorem isGroup_of_slot {n : Node} {side : Tree.Side} {c : NodeId} (h : n.slot side = some c) :
    n.isGroup := by
  obtain ⟨a, content, p⟩ := n
  cases content with
  | leaf => cases side <;> cases h
  | group => rfl

theorem slot_exchange {n : Node} {old : NodeId} (h : n.left = some old → n.right ≠ some old)
    (new : Option NodeId) (side : Tree.Side) :
    (n.exchange old new).slot side = if n.slot side = some old then new else n.slot side := by
  have hslot : ∀ side', n.slot side' = some old →
      (n.withSlot side' new).slot side = if side = side' then new else n.slot side :=
    fun side' hold => slot_withSlot (isGroup_of_slot hold) side' side new
  rw [exchange]
  by_cases hl : n.left = some old
  · rw [if_pos hl]
    refine (hslot .left hl).trans ?_
    cases side with
    | left => simp [slot, hl]
    | right => simp [slot, h hl]
  · rw [if_neg hl]
    by_cases hr : n.right = some old
    · rw [if_pos hr]
      refine (hslot .right hr).trans ?_
      cases side with
      | left => simp [slot, hl]
      | right => simp [slot, hr]
    · rw [if_neg hr]
      cases side with
      | left => simp [slot, hl]
      | right => simp [slot, hr]

theorem exchange_cases (n : Node) (old : NodeId) (new : Option NodeId) :
    n.exchange old new = n ∨ ∃ side, n.exchange old new = n.withSlot side new := by
  rw [exchange]
  split
  · exact .inr ⟨.left, rfl⟩
  · split
    · exact .inr ⟨.right, rfl⟩
    · exact .inl rfl

theorem parent_exchange (n : Node) (old : NodeId) (new : Option NodeId) :
    (n.exchange old new).parent = n.parent := by
  rcases n.exchange_cases old new with h | ⟨side, h⟩
  · rw [h]
  · rw [h, parent_withSlot]

theorem label_exchange (n : Node) (old : NodeId) (new : Option NodeId) :
    (n.exchange old new).label = n.label := by
  rcases n.exchange_cases old new with h | ⟨side, h⟩
  · rw [h]
  · rw [h, label_withSlot]

end Node

namespace Store

variable {s s' : Store}

def label? (s : Store) (id : NodeId) : Option (Attributes × (Leaf ⊕ Group)) :=
  (s.node? id).map Node.label

/-! ## One node changed -/

theorem node?_modify (s : Store) (id x : NodeId) (f : Node → Node) :
    (s.modify id f).node? x = if id = x then (s.node? x).map f else s.node? x := by
  rw [modify, node?, Array.getElem?_modify]
  rfl

theorem parent?_modify {f : Node → Node} (hf : ∀ n, (f n).parent = n.parent) (s : Store)
    (id x : NodeId) : (s.modify id f).parent? x = s.parent? x := by
  rw [parent?, node?_modify]
  split
  · rw [Option.bind_map]
    exact congrArg (s.node? x).bind (funext hf)
  · rfl

theorem label?_modify {f : Node → Node} (hf : ∀ n, (f n).label = n.label) (s : Store)
    (id x : NodeId) : (s.modify id f).label? x = s.label? x := by
  rw [label?, node?_modify]
  split
  · rw [Option.map_map]
    exact congrArg (Option.map · (s.node? x)) (funext hf)
  · rfl

theorem size_modify (s : Store) (id : NodeId) (f : Node → Node) :
    (s.modify id f).nodes.size = s.nodes.size := by
  simp [modify]

theorem slot?_setParent (s : Store) (id : NodeId) (p : Option NodeId) (side : Tree.Side)
    (x : NodeId) : (s.setParent id p).slot? side x = s.slot? side x := by
  rw [slot?, setParent, node?_modify]
  split
  · rw [Option.bind_map]
    refine congrArg (s.node? x).bind (funext fun n => ?_)
    cases side <;> rfl
  · rfl

theorem parent?_setParent {id : NodeId} {p : Option NodeId} (h : p = none ∨ id < s.next)
    (x : NodeId) : (s.setParent id p).parent? x = if x = id then p else s.parent? x := by
  rw [parent?, setParent, node?_modify]
  by_cases hx : x = id
  · subst hx
    rw [if_pos rfl, if_pos rfl, Option.bind_map]
    cases hn : s.node? x with
    | some n => rfl
    | none =>
        rcases h with rfl | hlt
        · rfl
        · exact absurd hlt (Nat.not_lt.2 (Array.getElem?_eq_none_iff.1 hn))
  · rw [if_neg fun h => hx h.symm, if_neg hx]
    rfl

theorem attrs_of_label? {id : NodeId} {a : Attributes} {kind : Leaf ⊕ Group}
    (h : s.label? id = some (a, kind)) : s.attrs id = a := by
  obtain ⟨⟨b, content, parent⟩, hn, hlabel⟩ := Option.map_eq_some_iff.1 h
  rw [attrs_of_node? hn]
  cases content with
  | leaf => exact congrArg Prod.fst hlabel
  | group => exact congrArg Prod.fst hlabel

theorem isGroup_iff_label? {id : NodeId} :
    s.isGroup id ↔ ∃ a g, s.label? id = some (a, .inr g) := by
  rw [isGroup, label?]
  cases s.node? id with
  | none => simp
  | some n =>
      obtain ⟨a, content, p⟩ := n
      cases content <;> simp [Node.isGroup, Node.label]

theorem isGroup_congr {id : NodeId} (h : s'.label? id = s.label? id) :
    s'.isGroup id = s.isGroup id := by
  rw [Bool.eq_iff_iff, isGroup_iff_label?, isGroup_iff_label?, h]

theorem slot?_of_not_isGroup {id : NodeId} (h : ¬ s.isGroup id) (side : Tree.Side) :
    s.slot? side id = none := by
  refine Option.eq_none_iff_forall_ne_some.2 fun c hc => h ?_
  obtain ⟨n, hn, hslot⟩ := Option.bind_eq_some_iff.1 hc
  rw [isGroup_of_node? hn]
  exact Node.isGroup_of_slot hslot

theorem slot?_modify_withSlot {id : NodeId} (h : s.isGroup id) (side side' : Tree.Side)
    (c : Option NodeId) (x : NodeId) :
    (s.modify id (·.withSlot side c)).slot? side' x =
      if x = id ∧ side' = side then c else s.slot? side' x := by
  rw [slot?, node?_modify]
  by_cases hx : id = x
  · subst hx
    rw [if_pos rfl, slot?]
    obtain ⟨n, hn, hgroup⟩ := (Option.any_eq_true _ _).1 h
    rw [hn, Option.map_some, Option.bind_some, Option.bind_some, Node.slot_withSlot hgroup]
    simp
  · rw [if_neg hx, if_neg fun h => hx h.1.symm]
    rfl

theorem slot?_modify_exchange {id old : NodeId}
    (h : s.slot? .left id = some old → s.slot? .right id ≠ some old) (new : Option NodeId)
    (side : Tree.Side) (x : NodeId) :
    (s.modify id (·.exchange old new)).slot? side x =
      if x = id ∧ s.slot? side x = some old then new else s.slot? side x := by
  rw [slot?, node?_modify]
  by_cases hx : id = x
  · subst hx
    rw [if_pos rfl, Option.bind_map]
    cases hn : s.node? id with
    | none => simp [slot?, hn]
    | some n =>
        simp only [slot?_of_node? hn] at h ⊢
        rw [Option.bind_some, Function.comp_apply, Node.slot_exchange h]
        simp
  · rw [if_neg hx, if_neg fun h => hx h.1.symm]
    rfl

theorem label?_setParent (s : Store) (id : NodeId) (p : Option NodeId) (x : NodeId) :
    (s.setParent id p).label? x = s.label? x :=
  label?_modify (f := fun n => { n with parent := p }) (fun _ => rfl) s id x

/-! ## Taking a node out of its slot -/

theorem parent?_detach (s : Store) (id x : NodeId) :
    (s.detach id).parent? x = if x = id then none else s.parent? x := by
  rw [detach]
  cases hp : s.parent? id with
  | none =>
      by_cases hx : x = id
      · rw [if_pos hx, hx, hp]
      · rw [if_neg hx]
  | some p =>
      refine (parent?_modify (fun n => n.parent_exchange id none) _ p x).trans ?_
      exact parent?_setParent (.inl rfl) x

theorem label?_detach (s : Store) (id x : NodeId) : (s.detach id).label? x = s.label? x := by
  rw [detach]
  split
  · rfl
  · exact (label?_modify (fun n => n.label_exchange id none) _ _ x).trans (label?_setParent ..)

theorem size_detach (s : Store) (id : NodeId) : (s.detach id).nodes.size = s.nodes.size := by
  rw [detach]
  split
  · rfl
  · rw [size_modify, setParent, size_modify]

theorem root_detach (s : Store) (id : NodeId) : (s.detach id).root = s.root := by
  rw [detach]
  split <;> rfl

theorem WellFormed.side_unique (h : s.WellFormed) {side side' : Tree.Side} {p c : NodeId}
    (hc : s.slot? side p = some c) (hc' : s.slot? side' p = some c) : side = side' := by
  cases side <;> cases side'
  · rfl
  · exact absurd hc' (h.left_ne_right hc)
  · exact absurd hc (h.left_ne_right hc')
  · rfl

theorem slot?_detach (h : s.WellFormed) (id : NodeId) (side : Tree.Side) (x : NodeId) :
    (s.detach id).slot? side x = if s.slot? side x = some id then none else s.slot? side x := by
  rw [detach]
  cases hp : s.parent? id with
  | none =>
      refine (if_neg fun hslot => ?_).symm
      exact Option.some_ne_none x ((h.hangs_of_slot hslot).symm.trans hp)
  | some p =>
      dsimp only
      have hboth : (s.setParent id none).slot? .left p = some id →
          (s.setParent id none).slot? .right p ≠ some id := by
        rw [slot?_setParent, slot?_setParent]
        exact h.left_ne_right
      rw [slot?_modify_exchange hboth, slot?_setParent]
      by_cases hslot : s.slot? side x = some id
      · obtain rfl : x = p := hangs_unique (h.hangs_of_slot hslot) hp
        rw [if_pos ⟨rfl, hslot⟩, if_pos hslot]
      · rw [if_neg fun h => hslot h.2, if_neg hslot]

end Store

end SearchQuery
