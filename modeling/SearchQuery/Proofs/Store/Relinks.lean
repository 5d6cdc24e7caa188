import SearchQuery.Proofs.Query.Replacing
import SearchQuery.Proofs.Store.Links

/-!
# Moving a node

`Relinks s s' moved target` says what one operation on the slots of a store does to the links: the
node `moved` leaves the slot it is in and comes into the slot `target`, whose occupant is left
without a parent; all other links stay. Either may be absent: taking a node out moves it nowhere,
and emptying a slot moves nothing into it.

A well-formed store stays well formed when a node other than the root is moved into a slot that is
not below it, `WellFormed.relink`. Below any node that is not above the target the store shows what
it showed before, less the node moved, `Relinks.view_eq`.
-/

namespace SearchQuery

namespace Tree

def without (id : Option NodeId) (t : Tree) : Tree :=
  id.elim t (t.replace · nil)

@[simp] theorem without_none (t : Tree) : t.without none = t := rfl

@[simp] theorem without_nil (id : Option NodeId) : nil.without id = nil := by
  cases id <;> rfl

theorem without_leaf {moved : Option NodeId} {id : NodeId} (h : moved ≠ some id) (a : Attributes)
    (l : Leaf) : (leaf id a l).without moved = leaf id a l := by
  cases moved with
  | none => rfl
  | some m => exact if_neg fun heq => h (congrArg some heq.symm)

theorem without_group {moved : Option NodeId} {id : NodeId} (h : moved ≠ some id) (a : Attributes)
    (g : Group) (l r : Tree) :
    (group id a g l r).without moved = group id a g (l.without moved) (r.without moved) := by
  cases moved with
  | none => rfl
  | some m => exact if_neg fun heq => h (congrArg some heq.symm)

theorem without_self {t : Tree} {id : NodeId} (h : ∀ i, t.id? = some i → i = id) :
    t.without (some id) = nil := by
  cases t with
  | nil => rfl
  | leaf i => exact if_pos (h i rfl)
  | group i => exact if_pos (h i rfl)

theorem without_of_notMem {t : Tree} {id : NodeId} (h : id ∉ t.ids) : t.without (some id) = t :=
  replace_of_notMem h nil

end Tree

namespace Store

variable {s s' : Store}

/-! ## Moving a node into a slot -/

def occupant? (s : Store) (target : Option (Tree.Side × NodeId)) : Option NodeId :=
  target.bind fun slot => s.slot? slot.1 slot.2

/-- The links of `s'` are those of `s` with the node `moved` taken out of its slot and put into the
slot `target`, in the place of what was there. -/
structure Relinks (s s' : Store) (moved : Option NodeId) (target : Option (Tree.Side × NodeId)) :
    Prop where
  parent?_eq : ∀ x, s'.parent? x =
    if moved = some x then target.map (·.2)
    else if s.occupant? target = some x then none
    else s.parent? x
  slot?_eq : ∀ side x, s'.slot? side x =
    if target = some (side, x) then moved
    else if s.slot? side x = moved then none
    else s.slot? side x
  label?_eq : ∀ x, s'.label? x = s.label? x
  size_eq : s'.nodes.size = s.nodes.size

namespace Relinks

variable {moved : Option NodeId}

theorem parent?_out (h : Relinks s s' moved none) (x : NodeId) :
    s'.parent? x = if moved = some x then none else s.parent? x :=
  (h.parent?_eq x).trans (if_congr Iff.rfl rfl (if_neg (Option.some_ne_none x).symm))

theorem slot?_out (h : Relinks s s' moved none) (side : Tree.Side) (x : NodeId) :
    s'.slot? side x = if s.slot? side x = moved then none else s.slot? side x :=
  (h.slot?_eq side x).trans (if_neg (Option.some_ne_none _).symm)

end Relinks

theorem relinks_detach (h : s.WellFormed) (id : NodeId) :
    Relinks s (s.detach id) (some id) none where
  parent?_eq x := by
    rw [parent?_detach]
    by_cases hx : x = id
    · rw [if_pos hx, if_pos (congrArg some hx.symm), Option.map_none]
    · rw [if_neg hx, if_neg fun h => hx (Option.some.inj h).symm]
      rfl
  slot?_eq side x := by
    rw [slot?_detach h, if_neg (Option.some_ne_none _).symm]
  label?_eq := label?_detach s id
  size_eq := size_detach s id

theorem relinks_elim_detach (h : s.WellFormed) (moved : Option NodeId) :
    Relinks s (moved.elim s s.detach) moved none := by
  cases moved with
  | none => exact ⟨by simp [occupant?], by simp +contextual, fun _ => rfl, rfl⟩
  | some id => exact relinks_detach h id

theorem parent?_elim_setParent {o p : Option NodeId} (h : p = none ∨ ∀ c, o = some c → c < s.next)
    (x : NodeId) :
    (o.elim s (s.setParent · p)).parent? x = if o = some x then p else s.parent? x := by
  cases o with
  | none => rfl
  | some c =>
      rw [Option.elim_some, parent?_setParent (h.imp_right fun hlt => hlt c rfl)]
      simp only [Option.some.injEq, eq_comm]

theorem slot?_elim_setParent (s : Store) (o p : Option NodeId) (side : Tree.Side) (x : NodeId) :
    (o.elim s (s.setParent · p)).slot? side x = s.slot? side x := by
  cases o with
  | none => rfl
  | some c => exact slot?_setParent ..

theorem label?_elim_setParent (s : Store) (o p : Option NodeId) (x : NodeId) :
    (o.elim s (s.setParent · p)).label? x = s.label? x := by
  cases o with
  | none => rfl
  | some c => exact label?_setParent ..

theorem size_elim_setParent (s : Store) (o p : Option NodeId) :
    (o.elim s (s.setParent · p)).nodes.size = s.nodes.size := by
  cases o with
  | none => rfl
  | some c => exact size_modify ..

theorem root_elim_setParent (s : Store) (o p : Option NodeId) :
    (o.elim s (s.setParent · p)).root = s.root := by
  cases o <;> rfl

theorem root_setSlot (s : Store) (side : Tree.Side) (id : NodeId) (child : Option NodeId) :
    (s.setSlot side id child).root = s.root := by
  rw [setSlot]
  split
  · dsimp only
    rw [root_elim_setParent, root_elim_setParent]
    cases child with
    | none => rfl
    | some c => exact root_detach s c
  · rfl

/-- Nothing but links and the root differs. -/
structure SameLabels (s s' : Store) : Prop where
  label?_eq : ∀ x, s'.label? x = s.label? x
  next_eq : s'.next = s.next
  annotations_eq : s'.annotations = s.annotations

namespace SameLabels

theorem refl (s : Store) : SameLabels s s :=
  ⟨fun _ => rfl, rfl, rfl⟩

theorem trans {s'' : Store} (h : SameLabels s s') (h' : SameLabels s' s'') : SameLabels s s'' :=
  ⟨fun x => (h'.label?_eq x).trans (h.label?_eq x), h'.next_eq.trans h.next_eq,
    h'.annotations_eq.trans h.annotations_eq⟩

theorem modify {f : Node → Node} (hf : ∀ n, (f n).label = n.label) (s : Store) (id : NodeId) :
    SameLabels s (s.modify id f) :=
  ⟨label?_modify hf s id, size_modify s id f, rfl⟩

theorem setParent (s : Store) (id : NodeId) (p : Option NodeId) :
    SameLabels s (s.setParent id p) :=
  .modify (f := fun n => { n with parent := p }) (fun _ => rfl) s id

theorem detach (s : Store) (id : NodeId) : SameLabels s (s.detach id) := by
  rw [Store.detach]
  split
  · exact .refl s
  · exact (setParent ..).trans (.modify (fun n => n.label_exchange id none) ..)

theorem elim {f : NodeId → Store} (hf : ∀ c, SameLabels s (f c)) (o : Option NodeId) :
    SameLabels s (o.elim s f) := by
  cases o with
  | none => exact .refl s
  | some c => exact hf c

theorem setSlot (s : Store) (side : Tree.Side) (id : NodeId) (child : Option NodeId) :
    SameLabels s (s.setSlot side id child) := by
  rw [Store.setSlot]
  split
  · have hout : SameLabels s (child.elim s s.detach) := .elim (detach s) child
    exact (hout.trans (.modify (fun n => n.label_withSlot side child) ..)).trans
      ((elim (setParent _ · none) _).trans (elim (setParent _ · (some id)) child))
  · exact .refl s

theorem replaceSelf (s : Store) (id r : NodeId) : SameLabels s (s.replaceSelf id r) := by
  rw [Store.replaceSelf]
  split
  · exact .refl s
  · refine (detach s r).trans ?_
    dsimp only
    split
    · exact ((setParent ..).trans (.modify (fun n => n.label_exchange id (some r)) ..)).trans
        (setParent ..)
    · split
      · exact ⟨fun _ => rfl, rfl, rfl⟩
      · exact .refl _

theorem removeSelf (s : Store) (id : NodeId) : SameLabels s (s.removeSelf id) := by
  rw [Store.removeSelf]
  split
  · exact .refl s
  · exact detach s id

end SameLabels

theorem relinks_setSlot (h : s.WellFormed) {id : NodeId} (hgroup : s.isGroup id)
    {child : Option NodeId} (hchild : ∀ c, child = some c → c < s.next) (side : Tree.Side) :
    Relinks s (s.setSlot side id child) child (some (side, id)) := by
  have hout := relinks_elim_detach h child
  rw [setSlot, if_pos hgroup]
  generalize child.elim s s.detach = s₁ at hout
  have hgroup₁ : s₁.isGroup id := (isGroup_congr (hout.label?_eq id)).trans hgroup
  have hmodify : ∀ x, (s₁.modify id (·.withSlot side child)).parent? x = s₁.parent? x :=
    parent?_modify (fun n => n.parent_withSlot side child) s₁ id
  dsimp only
  rw [show (s₁.node? id).bind (·.slot side) = s₁.slot? side id from rfl]
  refine ⟨fun x => ?_, fun side' x => ?_, fun x => ?_, ?_⟩
  · have hlt : ∀ c, child = some c → c < ((s₁.slot? side id).elim
        (s₁.modify id (·.withSlot side child))
        ((s₁.modify id (·.withSlot side child)).setParent · none)).next := by
      intro c hc
      rw [next, size_elim_setParent, size_modify, hout.size_eq]
      exact hchild c hc
    rw [parent?_elim_setParent (.inr hlt), parent?_elim_setParent (.inl rfl), hmodify,
      hout.parent?_out]
    by_cases hx : child = some x
    · rw [if_pos hx, if_pos hx]
      rfl
    · -- but for the child, what is in the slot is what was there before
      have hslot : s₁.slot? side id = some x ↔ s.slot? side id = some x := by
        rw [hout.slot?_out]
        split
        · next heq => simp [heq, hx]
        · rfl
      rw [if_neg hx, if_neg hx, if_neg hx]
      exact if_congr hslot rfl rfl
  · rw [slot?_elim_setParent, slot?_elim_setParent, slot?_modify_withSlot hgroup₁, hout.slot?_out]
    simp only [Option.some.injEq, Prod.mk.injEq, and_comm, eq_comm]
  · rw [label?_elim_setParent, label?_elim_setParent,
      label?_modify (fun n => n.label_withSlot side child), hout.label?_eq]
  · rw [size_elim_setParent, size_elim_setParent, size_modify, hout.size_eq]

theorem ext_node? (hnode : ∀ x : Nat, s'.node? x = s.node? x) (hroot : s'.root = s.root)
    (hnotes : s'.annotations = s.annotations) : s' = s := by
  obtain ⟨nodes, root, notes⟩ := s
  obtain ⟨nodes', root', notes'⟩ := s'
  obtain rfl : nodes' = nodes := Array.ext_getElem? hnode
  obtain rfl : root' = root := hroot
  obtain rfl : notes' = notes := hnotes
  rfl

theorem setSlot_none_of_empty {side : Tree.Side} {id : NodeId} (hempty : s.slot? side id = none) :
    s.setSlot side id none = s := by
  rw [setSlot]
  split
  · simp only [Option.elim_none, show (s.node? id).bind (·.slot side) = none from hempty]
    refine ext_node? (fun x => ?_) rfl rfl
    rw [node?_modify]
    split
    · next heq =>
        subst heq
        cases hn : s.node? id with
        | none => rfl
        | some n =>
            rw [slot?_of_node? hn] at hempty
            rw [Option.map_some, Node.withSlot_of_slot hempty]
    · rfl
  · rfl

theorem WellFormed.setSlot_none (h : s.WellFormed) {side : Tree.Side} {id c : NodeId}
    (hc : s.slot? side id = some c) : s.setSlot side id none = s.detach c := by
  obtain ⟨n, hn, hslot⟩ := Option.bind_eq_some_iff.1 hc
  have hgroup : s.isGroup id := by
    rw [isGroup_of_node? hn]
    exact Node.isGroup_of_slot hslot
  have hne : c ≠ id := by
    rintro rfl
    exact h.acyclic c (.single (h.hangs_of_slot hc))
  have hexchange : n.exchange c none = n.withSlot side none := by
    cases side with
    | left => exact if_pos hslot
    | right =>
        have hleft : n.left ≠ some c := fun hl =>
          h.left_ne_right ((slot?_of_node? hn .left).trans hl) hc
        rw [Node.exchange, if_neg hleft]
        exact if_pos hslot
  rw [setSlot, if_pos hgroup, detach, show s.parent? c = some id from h.hangs_of_slot hc]
  simp only [Option.elim_none, show (s.node? id).bind (·.slot side) = some c from hc,
    Option.elim_some]
  refine ext_node? (fun x => ?_) rfl rfl
  simp only [setParent, node?_modify]
  by_cases hx : id = x
  · subst hx
    rw [if_neg hne, if_pos rfl, if_neg hne, if_pos rfl, hn, Option.map_some, Option.map_some,
      hexchange]
  · rw [if_neg hx, if_neg hx]

theorem detach_detach (s : Store) (c : NodeId) : (s.detach c).detach c = s.detach c := by
  have hfree : (s.detach c).parent? c = none := by rw [parent?_detach, if_pos rfl]
  rw [detach, hfree]

theorem setSlot_detach {id : NodeId} (hgroup : s.isGroup id) (side : Tree.Side) (c : NodeId) :
    s.setSlot side id (some c) = (s.detach c).setSlot side id (some c) := by
  rw [setSlot, setSlot, isGroup_congr (label?_detach s c id), if_pos hgroup, if_pos hgroup]
  simp only [Option.elim_some, detach_detach]

/-- What comes into the place of a node leaves the slot it was in first. -/
theorem replaceSelf_detach {id r : NodeId} (hne : id ≠ r) :
    s.replaceSelf id r = (s.detach r).replaceSelf id r := by
  rw [replaceSelf, replaceSelf, if_neg hne, if_neg hne, detach_detach]

/-- What putting one node in the place of another does, where that one is in a slot. -/
theorem relinks_replaceSelf (h : s.WellFormed) {side : Tree.Side} {id p r : NodeId} (hne : id ≠ r)
    (hr : r < s.next) (hslot : s.slot? side p = some id) :
    Relinks s (s.replaceSelf id r) (some r) (some (side, p)) := by
  have hout := relinks_detach h r
  have hparent : (s.detach r).parent? id = some p := by
    rw [parent?_detach, if_neg hne]
    exact h.hangs_of_slot hslot
  rw [replaceSelf, if_neg hne]
  generalize s.detach r = s₁ at hout hparent
  dsimp only
  rw [hparent]
  dsimp only
  have hkept : ∀ side' x, s₁.slot? side' x = some id ↔ s.slot? side' x = some id := by
    intro side' x
    rw [hout.slot?_out]
    split
    · next heq => simp [heq, hne.symm]
    · rfl
  have hboth : (s₁.setParent id none).slot? .left p = some id →
      (s₁.setParent id none).slot? .right p ≠ some id := by
    rw [slot?_setParent, slot?_setParent, hkept, ne_eq, hkept]
    exact h.left_ne_right
  -- the slot that holds `id` is the target
  have htarget : ∀ side' x,
      x = p ∧ s.slot? side' x = some id ↔ some (side, p) = some (side', x) := by
    intro side' x
    refine ⟨?_, ?_⟩
    · rintro ⟨rfl, hx⟩
      rw [h.side_unique hslot hx]
    · rintro ⟨⟩
      exact ⟨rfl, hslot⟩
  refine ⟨fun x => ?_, fun side' x => ?_, fun x => ?_, ?_⟩
  · have hlt : r < ((s₁.setParent id none).modify p (·.exchange id (some r))).next := by
      rw [next, size_modify, setParent, size_modify, hout.size_eq]
      exact hr
    rw [parent?_setParent (.inr hlt), parent?_modify fun n => n.parent_exchange id (some r),
      parent?_setParent (.inl rfl), hout.parent?_out]
    by_cases hx : some r = some x
    · rw [if_pos (Option.some.inj hx).symm, if_pos hx, Option.map_some]
    · rw [if_neg hx, if_neg hx, if_neg fun heq => hx (congrArg some heq.symm)]
      refine if_congr ?_ rfl rfl
      rw [occupant?, Option.bind_some, hslot, Option.some.injEq, eq_comm]
  · rw [slot?_setParent, slot?_modify_exchange hboth, slot?_setParent]
    exact if_congr ((and_congr_right fun _ => hkept side' x).trans (htarget side' x)) rfl
      (hout.slot?_out side' x)
  · rw [label?_setParent, label?_modify fun n => n.label_exchange id (some r), label?_setParent,
      hout.label?_eq]
  · rw [setParent, size_modify, size_modify, setParent, size_modify, hout.size_eq]

/-! ## What a move keeps -/

namespace Relinks

variable {moved : Option NodeId} {target : Option (Tree.Side × NodeId)}

/-- A link of the new store is a link of the old one, or that of the node moved to its target. -/
theorem hangs_cases (hm : Relinks s s' moved target) {x y : NodeId} (hxy : s'.Hangs x y) :
    (moved = some x ∧ ∃ side, target = some (side, y)) ∨ s.Hangs x y := by
  rw [Hangs, hm.parent?_eq] at hxy
  split at hxy
  · next hx =>
      obtain ⟨⟨side, z⟩, htarget, hz⟩ := Option.map_eq_some_iff.1 hxy
      obtain rfl : z = y := hz
      exact .inl ⟨hx, side, htarget⟩
  · split at hxy
    · cases hxy
    · exact .inr hxy

/-- A way up in the new store is one in the old store, or it leads over the node moved. -/
theorem transGen_cases (hm : Relinks s s' moved target)
    (hlegal : ∀ c side id, moved = some c → target = some (side, id) →
      ¬ Relation.ReflTransGen s.Hangs id c)
    {x y : NodeId} (hxy : Relation.TransGen s'.Hangs x y) :
    Relation.TransGen s.Hangs x y ∨ ∃ c side id, moved = some c ∧ target = some (side, id) ∧
      Relation.ReflTransGen s.Hangs x c ∧ Relation.ReflTransGen s.Hangs id y := by
  induction hxy with
  | single hstep =>
      rcases hm.hangs_cases hstep with ⟨hmoved, side, htarget⟩ | hold
      · exact .inr ⟨_, side, _, hmoved, htarget, .refl, .refl⟩
      · exact .inl (.single hold)
  | tail _ hstep ih =>
      rcases hm.hangs_cases hstep with ⟨hmoved, side, htarget⟩ | hold
      · rcases ih with hup | ⟨c, side', id, hmoved', htarget', -, hid⟩
        · exact .inr ⟨_, side, _, hmoved, htarget, hup.to_reflTransGen, .refl⟩
        · obtain rfl : c = _ := Option.some.inj (hmoved'.symm.trans hmoved)
          exact absurd hid (hlegal _ _ _ hmoved' htarget')
      · rcases ih with hup | ⟨c, side', id, hmoved', htarget', hx, hid⟩
        · exact .inl (hup.tail hold)
        · exact .inr ⟨c, side', id, hmoved', htarget', hx, hid.tail hold⟩

/-- A move has no effect on the links of a node that is not moved, that is not the parent the moved
node had, and that neither is the target nor in it. -/
theorem untouched (hm : Relinks s s' moved target) (h : s.WellFormed) {x : NodeId}
    (hmoved : moved ≠ some x) (hparent : moved.bind s.parent? ≠ some x)
    (htarget : target.map (·.2) ≠ some x) (hoccupant : s.occupant? target ≠ some x) :
    s'.parent? x = s.parent? x ∧ ∀ side, s'.slot? side x = s.slot? side x := by
  refine ⟨?_, fun side => ?_⟩
  · rw [hm.parent?_eq, if_neg hmoved, if_neg hoccupant]
  · rw [hm.slot?_eq, if_neg fun heq => htarget (by rw [heq, Option.map_some])]
    split
    · next heq =>
        cases hslot : s.slot? side x with
        | none => rfl
        | some c =>
            refine absurd ?_ hparent
            rw [← heq, hslot, Option.bind_some]
            exact h.hangs_of_slot hslot
    · rfl

/-- The root keeps having no parent, unless it is moved into a slot. -/
theorem parent?_root (hm : Relinks s s' moved target) (h : s.WellFormed)
    (hfree : target = none ∨ moved ≠ some s.root) : s'.parent? s.root = none := by
  rw [hm.parent?_eq]
  split
  · next hmoved =>
      rw [hfree.resolve_right fun hne => hne hmoved]
      rfl
  · rw [h.root_free]
    split <;> rfl

end Relinks

theorem WellFormed.relink (h : s.WellFormed) {moved : Option NodeId}
    {target : Option (Tree.Side × NodeId)} (hm : Relinks s s' moved target)
    (hlegal : ∀ c side id, moved = some c → target = some (side, id) →
      ¬ Relation.ReflTransGen s.Hangs id c)
    (hroot : s'.parent? s'.root = none) : s'.WellFormed where
  hangs_of_slot := by
    intro p side c hc
    rw [hm.slot?_eq] at hc
    rw [Hangs, hm.parent?_eq]
    split at hc
    · next htarget => rw [if_pos hc, htarget, Option.map_some]
    · next htarget =>
        split at hc
        · cases hc
        · next hmoved =>
            rw [hc] at hmoved
            rw [if_neg (Ne.symm hmoved), if_neg ?_]
            · exact h.hangs_of_slot hc
            · -- the target is another slot, and the node is in one only
              intro hoccupant
              obtain ⟨⟨side', id⟩, rfl, hid⟩ := Option.bind_eq_some_iff.1 hoccupant
              obtain rfl := hangs_unique (h.hangs_of_slot hid) (h.hangs_of_slot hc)
              exact htarget (h.side_unique hid hc ▸ rfl)
  slot_of_hangs := by
    intro c p hc
    rcases hm.hangs_cases hc with ⟨hmoved, side, htarget⟩ | hold
    · exact ⟨side, by rw [hm.slot?_eq, if_pos htarget, hmoved]⟩
    · rw [Hangs, hm.parent?_eq] at hc
      obtain ⟨side, hside⟩ := h.slot_of_hangs hold
      split at hc
      · next hmoved =>
          obtain ⟨⟨side', id⟩, htarget, rfl⟩ := Option.map_eq_some_iff.1 hc
          exact ⟨side', by rw [hm.slot?_eq, if_pos htarget, hmoved]⟩
      · next hmoved =>
          split at hc
          · cases hc
          · next hoccupant =>
              refine ⟨side, ?_⟩
              rw [hm.slot?_eq, if_neg ?_, if_neg fun heq => hmoved (heq.symm.trans hside), hside]
              rintro rfl
              exact hoccupant hside
  left_ne_right := by
    intro p c hl hr
    rw [hm.slot?_eq] at hl hr
    split at hl
    · next htarget =>
        rw [htarget] at hr
        split at hr
        · next heq => simp at heq
        · split at hr
          · cases hr
          · next hmoved => exact hmoved (hr.trans hl.symm)
    · split at hl
      · cases hl
      · next hmoved =>
          split at hr
          · exact hmoved (hl.trans hr.symm)
          · split at hr
            · cases hr
            · exact h.left_ne_right hl hr
  acyclic := by
    intro x hx
    rcases hm.transGen_cases hlegal hx with hold | ⟨c, side, id, hmoved, htarget, hxc, hid⟩
    · exact h.acyclic x hold
    · exact hlegal c side id hmoved htarget (hid.trans hxc)
  root_free := hroot

/-! ## What a store shows after a move -/

theorem viewTo_succ (s : Store) (depth : Nat) (id : NodeId) :
    s.viewTo (depth + 1) id =
      match s.label? id with
      | none => .nil
      | some (a, .inl l) => .leaf id a l
      | some (a, .inr g) => .group id a g ((s.slot? .left id).elim .nil (s.viewTo depth))
          ((s.slot? .right id).elim .nil (s.viewTo depth)) := by
  cases hn : s.node? id with
  | none => simp [viewTo, label?, hn]
  | some n =>
      obtain ⟨a, content, p⟩ := n
      cases content with
      | leaf l => simp [viewTo, label?, hn, Node.label]
      | group g l r =>
          simp [viewTo, label?, hn, Node.label, slot?, Node.slot, Node.left, Node.right]

theorem eq_of_id?_viewTo {depth : Nat} {id i : NodeId} (h : (s.viewTo depth id).id? = some i) :
    i = id := by
  cases depth with
  | zero => cases h
  | succ depth =>
      rw [viewTo_succ] at h
      split at h
      · cases h
      · exact (Option.some.inj h).symm
      · exact (Option.some.inj h).symm

/-- Where a node has been taken out of all slots of some nodes that nothing else leads away from,
their views are those of before without that node. -/
theorem viewTo_eq_without (inside : NodeId → Prop) (moved : Option NodeId)
    (hclosed : ∀ x, inside x → ∀ side c, s.slot? side x = some c → inside c)
    (hlabel : ∀ x, inside x → s'.label? x = s.label? x)
    (hslot : ∀ x, inside x → ∀ side, s'.slot? side x =
      if s.slot? side x = moved then none else s.slot? side x)
    (depth : Nat) {id : NodeId} (hid : inside id) (hne : moved ≠ some id) :
    s'.viewTo depth id = (s.viewTo depth id).without moved := by
  induction depth generalizing id with
  | zero => exact (Tree.without_nil moved).symm
  | succ depth ih =>
      have hside : ∀ side, (s'.slot? side id).elim .nil (s'.viewTo depth) =
          ((s.slot? side id).elim .nil (s.viewTo depth)).without moved := by
        intro side
        rw [hslot id hid side]
        cases hc : s.slot? side id with
        | none => simp
        | some c =>
            by_cases hmoved : some c = moved
            · subst hmoved
              rw [if_pos rfl]
              exact (Tree.without_self fun i => eq_of_id?_viewTo).symm
            · rw [if_neg hmoved]
              exact ih (hclosed id hid side c hc) (Ne.symm hmoved)
      rw [viewTo_succ, viewTo_succ, hlabel id hid]
      split
      · exact (Tree.without_nil moved).symm
      · exact (Tree.without_leaf hne _ _).symm
      · rw [hside, hside, Tree.without_group hne]

namespace Relinks

variable {moved : Option NodeId} {target : Option (Tree.Side × NodeId)}

/-- Below a node that is not above the target the store shows what it showed before, less what has
been moved. -/
theorem view_eq (hm : Relinks s s' moved target) (h : s.WellFormed) {id : NodeId}
    (htarget : ∀ side p, target = some (side, p) → ¬ Relation.ReflTransGen s.Hangs p id)
    (hne : moved ≠ some id) : s'.view id = (s.view id).without moved := by
  rw [view, view, hm.size_eq]
  refine viewTo_eq_without (fun x => Relation.ReflTransGen s.Hangs x id) moved
    (fun x hx side c hc => .head (h.hangs_of_slot hc) hx) (fun x _ => hm.label?_eq x)
    (fun x hx side => ?_) _ .refl hne
  rw [hm.slot?_eq, if_neg fun heq => htarget side x heq hx]

theorem view_moved (hm : Relinks s s' moved target) (h : s.WellFormed) {id : NodeId}
    (hmoved : moved = some id)
    (htarget : ∀ side p, target = some (side, p) → ¬ Relation.ReflTransGen s.Hangs p id) :
    s'.view id = s.view id := by
  rw [view, view, hm.size_eq]
  refine viewTo_eq_without (fun x => Relation.ReflTransGen s.Hangs x id) none
    (fun x hx side c hc => .head (h.hangs_of_slot hc) hx) (fun x _ => hm.label?_eq x)
    (fun x hx side => ?_) _ .refl (Option.some_ne_none id).symm
  rw [hm.slot?_eq, if_neg fun heq => htarget side x heq hx, hmoved]
  -- the node moved is in no slot below itself
  have hcircle : s.slot? side x ≠ some id := fun hc =>
    h.acyclic id (.head' (h.hangs_of_slot hc) hx)
  rw [if_neg hcircle]
  cases s.slot? side x <;> rfl

end Relinks

end Store

end SearchQuery
