import SearchQuery.Proofs.Store.Growth
import SearchQuery.Proofs.Store.Relinks

/-!
# Operations on the nodes of a store

A `Surgery` is one of the operations that callers build and change trees with. `Permitted` is what
they keep to: no node is put below itself, and the root is put nowhere.

Any number of such operations, from the empty store on, leave a well-formed store behind, and each
of them touches the links of few nodes, `surgeries_keep_links`. What an operation takes out of its
place keeps all that is below it, but for the node that the operation puts there, if it was taken
from below.
-/

namespace SearchQuery

namespace Store

variable {s s' : Store}

/-- A node `c` that can come into a slot of `id`, or into the place of `id`. -/
structure Fits (s : Store) (id c : NodeId) : Prop where
  lt_next : c < s.next
  ne_root : c ≠ s.root
  ne_self : c ≠ id
  not_above : ¬ Relation.TransGen s.Hangs id c

theorem Fits.not_reflTransGen {id c : NodeId} (h : s.Fits id c) :
    ¬ Relation.ReflTransGen s.Hangs id c := by
  intro hid
  rcases Relation.reflTransGen_iff_eq_or_transGen.1 hid with heq | habove
  · exact h.ne_self heq
  · exact h.not_above habove

theorem WellFormed.root_ne_of_slot (h : s.WellFormed) {side : Tree.Side} {p c : NodeId}
    (hc : s.slot? side p = some c) : c ≠ s.root := by
  rintro rfl
  exact Option.some_ne_none p ((h.hangs_of_slot hc).symm.trans h.root_free)

/-- No way up leads from a group to what is in its slots. -/
theorem WellFormed.not_above_of_slot (h : s.WellFormed) {side : Tree.Side} {p c : NodeId}
    (hc : s.slot? side p = some c) : ¬ Relation.ReflTransGen s.Hangs p c :=
  fun hpc => h.acyclic p (.tail' hpc (h.hangs_of_slot hc))

section SetSlot

variable {side : Tree.Side} {id : NodeId} {child : Option NodeId}

theorem setSlot_of_not_isGroup (h : ¬ s.isGroup id) : s.setSlot side id child = s :=
  if_neg h

theorem WellFormed.setSlot (h : s.WellFormed) (hchild : ∀ c, child = some c → s.Fits id c) :
    (s.setSlot side id child).WellFormed := by
  by_cases hgroup : s.isGroup id
  · have hm := relinks_setSlot h hgroup (fun c hc => (hchild c hc).lt_next) side
    refine h.relink hm ?_ ?_
    · rintro c side' id' hc ⟨⟩
      exact (hchild c hc).not_reflTransGen
    · rw [root_setSlot]
      exact hm.parent?_root h (.inr fun hroot => (hchild _ hroot).ne_root rfl)
  · rwa [setSlot_of_not_isGroup hgroup]

theorem size_setSlot (h : s.WellFormed) (hchild : ∀ c, child = some c → c < s.next) :
    (s.setSlot side id child).nodes.size = s.nodes.size := by
  by_cases hgroup : s.isGroup id
  · exact (relinks_setSlot h hgroup hchild side).size_eq
  · rw [setSlot_of_not_isGroup hgroup]

end SetSlot

section ReplaceSelf

variable {id r : NodeId}

def StandsIn (s : Store) (id : NodeId) : Option (Tree.Side × NodeId) → Prop
  | none => s.parent? id = none
  | some (side, p) => s.slot? side p = some id

theorem WellFormed.exists_standsIn (h : s.WellFormed) (id : NodeId) :
    ∃ target, s.StandsIn id target := by
  cases hp : s.parent? id with
  | none => exact ⟨none, hp⟩
  | some p =>
      obtain ⟨side, hside⟩ := h.slot_of_hangs hp
      exact ⟨some (side, p), hside⟩

theorem StandsIn.occupant?_eq {target : Option (Tree.Side × NodeId)} (h : s.StandsIn id target)
    {x : NodeId} (hx : s.occupant? target = some x) : x = id := by
  cases target with
  | none => cases hx
  | some slot => exact Option.some.inj (hx.symm.trans h)

theorem StandsIn.eq_none_of_root {target : Option (Tree.Side × NodeId)} (hw : s.WellFormed)
    (h : s.StandsIn s.root target) : target = none := by
  cases target with
  | none => rfl
  | some slot => exact absurd rfl (hw.root_ne_of_slot h)

theorem relinks_replaceSelf_of_standsIn (h : s.WellFormed) (hne : id ≠ r) (hr : r < s.next)
    {target : Option (Tree.Side × NodeId)} (htarget : s.StandsIn id target) :
    Relinks s (s.replaceSelf id r) (some r) target := by
  cases target with
  | some slot => exact relinks_replaceSelf h hne hr htarget
  | none =>
      have hout := relinks_detach h r
      have hparent : (s.detach r).parent? id = none := by
        rw [parent?_detach, if_neg hne]
        exact htarget
      rw [replaceSelf, if_neg hne]
      dsimp only
      rw [hparent]
      dsimp only
      split
      · exact ⟨hout.parent?_eq, hout.slot?_eq, hout.label?_eq, hout.size_eq⟩
      · exact hout

theorem root_replaceSelf (h : s.WellFormed) (hne : id ≠ r) :
    (s.replaceSelf id r).root = if id = s.root then r else s.root := by
  rw [replaceSelf, if_neg hne]
  dsimp only
  split
  · next p hp =>
      rw [parent?_detach, if_neg hne] at hp
      have hroot : id ≠ s.root := by
        rintro rfl
        exact Option.some_ne_none p (hp.symm.trans h.root_free)
      rw [if_neg hroot]
      exact root_detach s r
  · rw [root_detach]
    by_cases hroot : s.root = id
    · rw [if_pos hroot, if_pos hroot.symm]
    · rw [if_neg hroot, if_neg (Ne.symm hroot)]
      exact root_detach s r

theorem WellFormed.replaceSelf (h : s.WellFormed) (hfits : s.Fits id r) :
    (s.replaceSelf id r).WellFormed := by
  have hne : id ≠ r := hfits.ne_self.symm
  obtain ⟨target, htarget⟩ := h.exists_standsIn id
  have hm := relinks_replaceSelf_of_standsIn h hne hfits.lt_next htarget
  refine h.relink hm ?_ ?_
  · rintro c side p ⟨⟩ rfl hpr
    exact hfits.not_above (.head' (h.hangs_of_slot htarget) hpr)
  · rw [root_replaceSelf h hne]
    split
    · next hroot =>
        subst hroot
        rw [hm.parent?_eq, if_pos rfl, htarget.eq_none_of_root h, Option.map_none]
    · exact hm.parent?_root h (.inr fun heq => hfits.ne_root (Option.some.inj heq))

theorem size_replaceSelf (h : s.WellFormed) (hne : id ≠ r) (hr : r < s.next) :
    (s.replaceSelf id r).nodes.size = s.nodes.size := by
  obtain ⟨target, htarget⟩ := h.exists_standsIn id
  exact (relinks_replaceSelf_of_standsIn h hne hr htarget).size_eq

theorem root_lt_next_replaceSelf (h : s.WellFormed) (hroot : s.root < s.next) (hfits : s.Fits id r) :
    (s.replaceSelf id r).root < (s.replaceSelf id r).next := by
  have hne : id ≠ r := hfits.ne_self.symm
  rw [root_replaceSelf h hne, next, size_replaceSelf h hne hfits.lt_next]
  split
  · exact hfits.lt_next
  · exact hroot

theorem parent?_replaceSelf (h : s.WellFormed) (hne : id ≠ r) (hr : r < s.next) :
    (s.replaceSelf id r).parent? id = none := by
  obtain ⟨target, htarget⟩ := h.exists_standsIn id
  rw [(relinks_replaceSelf_of_standsIn h hne hr htarget).parent?_eq,
    if_neg fun heq => hne (Option.some.inj heq).symm]
  split
  · rfl
  · next hoccupant =>
      cases target with
      | none => exact htarget
      | some slot => exact absurd htarget hoccupant

theorem Fits.replaceSelf (h : s.WellFormed) (hid : id < s.next) (hfits : s.Fits id r) :
    (s.replaceSelf id r).Fits r id := by
  have hne : id ≠ r := hfits.ne_self.symm
  obtain ⟨target, htarget⟩ := h.exists_standsIn id
  have hm := relinks_replaceSelf_of_standsIn h hne hfits.lt_next htarget
  refine ⟨?_, ?_, hne, fun habove => ?_⟩
  · rw [next, hm.size_eq]
    exact hid
  · rw [root_replaceSelf h hne]
    split
    · exact hne
    · assumption
  · -- the way up from `r` starts where `id` was, and from there it does not lead back to `id`
    obtain ⟨p, hp, hpid⟩ := Relation.TransGen.head'_iff.1 habove
    rw [Hangs, hm.parent?_eq, if_pos rfl] at hp
    obtain ⟨⟨side, p⟩, rfl, rfl⟩ := Option.map_eq_some_iff.1 hp
    have hback : ¬ Relation.ReflTransGen s.Hangs p id := h.not_above_of_slot htarget
    rcases Relation.reflTransGen_iff_eq_or_transGen.1 hpid with heq | hup
    · exact hback (heq ▸ .refl)
    · have hlegal : ∀ c side' p', some r = some c → some (side, p) = some (side', p') →
          ¬ Relation.ReflTransGen s.Hangs p' c := by
        rintro c side' p' ⟨⟩ ⟨⟩ hpr
        exact hfits.not_above (.head' (h.hangs_of_slot htarget) hpr)
      rcases hm.transGen_cases hlegal hup with hold | ⟨c, side', p', -, ⟨⟩, -, hold⟩
      · exact hback hold.to_reflTransGen
      · exact hback hold

end ReplaceSelf

theorem WellFormed.removeSelf (h : s.WellFormed) (id : NodeId) : (s.removeSelf id).WellFormed := by
  rw [Store.removeSelf]
  split
  · exact h
  · have hm := relinks_detach h id
    refine h.relink hm (fun _ _ _ _ htarget => by cases htarget) ?_
    rw [root_detach]
    exact hm.parent?_root h (.inl rfl)

theorem WellFormed.wrap {id wrapper : NodeId} (h : s.WellFormed) (hid : id < s.next)
    (hfits : s.Fits id wrapper) : (s.wrap id wrapper).WellFormed := by
  refine (h.replaceSelf hfits).setSlot ?_
  rintro c ⟨⟩
  exact hfits.replaceSelf h hid

end Store

/-- An operation on the nodes of a store. -/
inductive Surgery
  | add (attrs : Attributes) (content : Content)
  | setSlot (side : Tree.Side) (id : NodeId) (child : Option NodeId)
  | replaceSelf (id replacement : NodeId)
  | removeSelf (id : NodeId)
  | wrap (id wrapper : NodeId)
  | clone (id : NodeId)
  /-- Copies a tree of another store. -/
  | implant (source : Store) (id : NodeId)

namespace Surgery

def perform (s : Store) : Surgery → Store
  | add attrs content => s.add attrs content
  | setSlot side id child => s.setSlot side id child
  | replaceSelf id replacement => s.replaceSelf id replacement
  | removeSelf id => s.removeSelf id
  | wrap id wrapper => s.wrap id wrapper
  | clone id => s.copy (s.view id)
  | implant source id => s.copy (source.view id)

def Permitted (s : Store) : Surgery → Prop
  | add _ content => content.isChildless
  | setSlot _ id child => id < s.next ∧ ∀ c, child = some c → s.Fits id c
  | replaceSelf id replacement => id < s.next ∧ (replacement = id ∨ s.Fits id replacement)
  | removeSelf id => id < s.next
  | wrap id wrapper => id < s.next ∧ s.isGroup wrapper ∧ s.Fits id wrapper
  | clone id => id < s.next
  | implant source id => source.WellFormed ∧ id < source.next

/-- The nodes that an operation names to change their places. A copy leaves all nodes in place. -/
def named : Surgery → List NodeId
  | setSlot _ id child => id :: child.toList
  | replaceSelf id replacement => [id, replacement]
  | removeSelf id => [id]
  | wrap id wrapper => [id, wrapper]
  | add .. | clone _ | implant .. => []

def displaced (s : Store) : Surgery → List NodeId
  | setSlot side id child => (s.slot? side id).toList.filter (child ≠ some ·)
  | replaceSelf id replacement => if id = replacement then [] else [id]
  | removeSelf id => [id]
  | wrap id wrapper => id :: (s.slot? .left wrapper).toList
  | add .. | clone _ | implant .. => []

def placed : Surgery → Option NodeId
  | setSlot _ _ child => child
  | replaceSelf _ replacement => some replacement
  | wrap _ wrapper => some wrapper
  | add .. | removeSelf _ | clone _ | implant .. => none

/-- The nodes whose links an operation may change: those it names, the parents they had, and those
it displaces. -/
def touched (s : Store) (op : Surgery) : List NodeId :=
  op.named ++ op.named.filterMap s.parent? ++ op.displaced s

/-- What an operation leaves as it was. -/
structure Confined (op : Surgery) (s s' : Store) : Prop where
  untouched : ∀ x : Nat, x < s.next → x ∉ op.touched s →
    s'.parent? x = s.parent? x ∧ ∀ side, s'.slot? side x = s.slot? side x
  /-- Nothing but links is changed. -/
  label?_eq : ∀ x : Nat, x < s.next → s'.label? x = s.label? x
  view_displaced : ∀ d ∈ op.displaced s, s'.view d = (s.view d).without op.placed

variable {s : Store} {op : Surgery}

theorem wellFormed_perform (h : s.WellFormed) (hroot : s.root < s.next) (hop : op.Permitted s) :
    (op.perform s).WellFormed := by
  cases op with
  | add a c =>
      obtain ⟨t, hext⟩ := Store.exists_extends_add s a hop
      exact h.extend hroot hext
  | setSlot side id child => exact h.setSlot hop.2
  | replaceSelf id r =>
      rcases hop.2 with rfl | hfits
      · rwa [perform, Store.replaceSelf, if_pos rfl]
      · exact h.replaceSelf hfits
  | removeSelf id => exact h.removeSelf id
  | wrap id w => exact h.wrap hop.1 hop.2.2
  | clone id => exact h.extend hroot (Store.extends_copy s _)
  | implant source id => exact h.extend hroot (Store.extends_copy s _)

theorem confined_of_extends {t : Tree} {s' : Store} (hext : Store.Extends s s' t)
    (hdisplaced : op.displaced s = []) : op.Confined s s' where
  untouched x hx _ := ⟨hext.parent?_eq hx, fun side => hext.slot?_eq side hx⟩
  label?_eq x hx := by rw [Store.label?, hext.node?_eq x hx, Store.label?]
  view_displaced d hd := by simp [hdisplaced] at hd

theorem confined_of_eq {s' : Store} (heq : s' = s)
    (hplaced : op.displaced s = [] ∨ op.placed = none) :
    op.Confined s s' := by
  subst heq
  refine ⟨fun _ _ _ => ⟨rfl, fun _ => rfl⟩, fun _ _ => rfl, fun d hd => ?_⟩
  rcases hplaced with hnil | hnone
  · simp [hnil] at hd
  · rw [hnone, Tree.without_none]

theorem not_mem_touched {x : NodeId} (h : x ∉ op.touched s) :
    x ∉ op.named ∧ (∀ y ∈ op.named, s.parent? y ≠ some x) ∧ x ∉ op.displaced s := by
  simpa [touched, not_or, and_assoc] using h

theorem confined_setSlot (h : s.WellFormed) {side : Tree.Side} {id : NodeId}
    {child : Option NodeId} (hop : (setSlot side id child).Permitted s) :
    (setSlot side id child).Confined s (s.setSlot side id child) := by
  by_cases hgroup : s.isGroup id
  · have hm := Store.relinks_setSlot h hgroup (fun c hc => (hop.2 c hc).lt_next) side
    refine ⟨fun x _ hx => ?_, fun x _ => hm.label?_eq x, fun d hd => ?_⟩
    · obtain ⟨hnamed, hparents, hdisplaced⟩ := not_mem_touched hx
      simp only [named, List.mem_cons, Option.mem_toList, not_or] at hnamed hparents
      refine hm.untouched h hnamed.2 (fun hparent => ?_) (fun heq => ?_) (fun heq => ?_)
      · obtain ⟨c, hc, hcx⟩ := Option.bind_eq_some_iff.1 hparent
        exact hparents c (.inr hc) hcx
      · exact hnamed.1 (Option.some.inj heq).symm
      · refine hdisplaced ?_
        simpa [displaced, show s.slot? side id = some x from heq] using hnamed.2
    · simp only [displaced, List.mem_filter, Option.mem_toList, decide_eq_true_eq] at hd
      refine hm.view_eq h ?_ hd.2
      rintro side' p ⟨⟩
      exact h.not_above_of_slot hd.1
  · rw [Store.setSlot_of_not_isGroup hgroup]
    refine confined_of_eq rfl (.inl ?_)
    rw [displaced, Store.slot?_of_not_isGroup hgroup]
    rfl

theorem confined_replaceSelf (h : s.WellFormed) {id r : NodeId}
    (hop : (replaceSelf id r).Permitted s) :
    (replaceSelf id r).Confined s (s.replaceSelf id r) := by
  by_cases hne : id = r
  · refine confined_of_eq ?_ (.inl (if_pos hne))
    rw [Store.replaceSelf, if_pos hne]
  · have hfits : s.Fits id r := hop.2.resolve_left (Ne.symm hne)
    obtain ⟨target, htarget⟩ := h.exists_standsIn id
    have hm := Store.relinks_replaceSelf_of_standsIn h hne hfits.lt_next htarget
    refine ⟨fun x _ hx => ?_, fun x _ => hm.label?_eq x, fun d hd => ?_⟩
    · obtain ⟨hnamed, hparents, -⟩ := not_mem_touched hx
      simp only [named, List.mem_cons, List.not_mem_nil, or_false, not_or] at hnamed hparents
      refine hm.untouched h (fun heq => hnamed.2 (Option.some.inj heq).symm)
        (hparents r (.inr rfl)) (fun heq => ?_) fun heq => hnamed.1 (htarget.occupant?_eq heq)
      obtain ⟨⟨side, p⟩, rfl, rfl⟩ := Option.map_eq_some_iff.1 heq
      exact hparents id (.inl rfl) (h.hangs_of_slot htarget)
    · rw [displaced, if_neg hne, List.mem_singleton] at hd
      subst hd
      refine hm.view_eq h ?_ fun heq => hne (Option.some.inj heq).symm
      rintro side p rfl
      exact h.not_above_of_slot htarget

theorem confined_removeSelf (h : s.WellFormed) (id : NodeId) :
    (removeSelf id).Confined s (s.removeSelf id) := by
  rw [Store.removeSelf]
  split
  · exact confined_of_eq rfl (.inr rfl)
  · have hm := Store.relinks_detach h id
    refine ⟨fun x _ hx => ?_, fun x _ => hm.label?_eq x, fun d hd => ?_⟩
    · obtain ⟨hnamed, hparents, -⟩ := not_mem_touched hx
      simp only [named, List.mem_singleton] at hnamed hparents
      exact hm.untouched h (fun heq => hnamed (Option.some.inj heq).symm) (hparents id rfl)
        (Option.some_ne_none x).symm (Option.some_ne_none x).symm
    · rw [displaced, List.mem_singleton] at hd
      subst hd
      exact hm.view_moved h rfl fun _ _ htarget => by cases htarget

theorem view_of_wrapper_slot (h : s.WellFormed) {s₁ s₂ : Store} {id w d : NodeId}
    {target : Option (Tree.Side × NodeId)} (hfits : s.Fits id w) (htarget : s.StandsIn id target)
    (hm : Store.Relinks s s₁ (some w) target) (h₁ : s₁.WellFormed)
    (hfree₁ : s₁.parent? id = none) (hm₁ : Store.Relinks s₁ s₂ (some id) (some (.left, w)))
    (hd : s.slot? .left w = some d) (hd₁ : s₁.slot? .left w = some d) :
    s₂.view d = (s.view d).without (some w) := by
  have hne : d ≠ id := by
    rintro rfl
    exact hfits.not_above (.single (h.hangs_of_slot hd))
  have hfirst : s₁.view d = (s.view d).without (some w) := by
    refine hm.view_eq h ?_ ?_
    · rintro side p rfl hpd
      exact hfits.not_above (.head (h.hangs_of_slot htarget) (.tail' hpd (h.hangs_of_slot hd)))
    · rintro ⟨⟩
      exact h.not_above_of_slot hd .refl
  have hsecond : s₂.view d = (s₁.view d).without (some id) := by
    refine hm₁.view_eq h₁ ?_ fun heq => hne (Option.some.inj heq).symm
    rintro side p ⟨⟩
    exact h₁.not_above_of_slot hd₁
  -- the node wrapped is detached, so it is not below another one
  obtain ⟨n, hn, -⟩ := Store.WellFormed.exists_node?_of_hangs (h₁.hangs_of_slot hd₁)
  have hid : id ∉ (s₁.view d).ids := by
    rw [h₁.mem_ids_view_iff hn]
    intro hup
    rcases hup.cases_head with heq | ⟨p, hp, -⟩
    · exact hne heq.symm
    · exact Option.some_ne_none p (hp.symm.trans hfree₁)
  rw [hsecond, Tree.without_of_notMem hid, hfirst]

theorem confined_wrap (h : s.WellFormed) {id w : NodeId} (hop : (wrap id w).Permitted s) :
    (wrap id w).Confined s (s.wrap id w) := by
  obtain ⟨hid, hgroup, hfits⟩ := hop
  have hne : id ≠ w := hfits.ne_self.symm
  obtain ⟨target, htarget⟩ := h.exists_standsIn id
  have hm := Store.relinks_replaceSelf_of_standsIn h hne hfits.lt_next htarget
  have h₁ := h.replaceSelf hfits
  have hfits₁ := hfits.replaceSelf h hid
  have hfree₁ := Store.parent?_replaceSelf h hne hfits.lt_next
  have hgroup₁ : (s.replaceSelf id w).isGroup w :=
    (Store.isGroup_congr (hm.label?_eq w)).trans hgroup
  rw [Store.wrap, Store.setLeft]
  generalize s.replaceSelf id w = s₁ at hm h₁ hfits₁ hfree₁ hgroup₁
  have hchild : ∀ c, some id = some c → c < s₁.next :=
    fun c hc => Option.some.inj hc ▸ hfits₁.lt_next
  have hm₁ := Store.relinks_setSlot h₁ hgroup₁ hchild .left
  -- putting the wrapper in the place of the node does not change what the wrapper holds
  have hslot : ∀ d, s₁.slot? .left w = some d ↔ s.slot? .left w = some d := by
    intro d
    rw [hm.slot?_eq, if_neg ?_, if_neg fun hw => h.not_above_of_slot hw .refl]
    rintro rfl
    exact hfits.not_above (.single (h.hangs_of_slot htarget))
  refine ⟨fun x _ hx => ?_, fun x _ => (hm₁.label?_eq x).trans (hm.label?_eq x), fun d hd => ?_⟩
  · obtain ⟨hnamed, hparents, hdisplaced⟩ := not_mem_touched hx
    simp only [named, displaced, List.mem_cons, List.not_mem_nil, or_false, not_or,
      Option.mem_toList] at hnamed hparents hdisplaced
    have hfirst := hm.untouched h (fun heq => hnamed.2 (Option.some.inj heq).symm)
      (hparents w (.inr rfl)) (fun heq => ?_) fun heq => hnamed.1 (htarget.occupant?_eq heq)
    · have hsecond := hm₁.untouched h₁ (fun heq => hnamed.1 (Option.some.inj heq).symm)
        (fun heq => Option.some_ne_none x (heq.symm.trans hfree₁))
        (fun heq => hnamed.2 (Option.some.inj heq).symm) fun heq => hdisplaced.2 ((hslot x).1 heq)
      exact ⟨hsecond.1.trans hfirst.1, fun side => (hsecond.2 side).trans (hfirst.2 side)⟩
    · obtain ⟨⟨side, p⟩, rfl, rfl⟩ := Option.map_eq_some_iff.1 heq
      exact hparents id (.inl rfl) (h.hangs_of_slot htarget)
  · rw [displaced, List.mem_cons, Option.mem_toList] at hd
    rcases hd with rfl | hd
    · have hview : s₁.view d = (s.view d).without (some w) := by
        refine hm.view_eq h ?_ fun heq => hne (Option.some.inj heq).symm
        rintro side p rfl
        exact h.not_above_of_slot htarget
      refine (hm₁.view_moved h₁ rfl ?_).trans hview
      rintro side p ⟨⟩
      exact hfits₁.not_reflTransGen
    · exact view_of_wrapper_slot h hfits htarget hm h₁ hfree₁ hm₁ hd ((hslot d).2 hd)

theorem confined_perform (h : s.WellFormed) (hop : op.Permitted s) :
    op.Confined s (op.perform s) := by
  cases op with
  | add a c =>
      obtain ⟨t, hext⟩ := Store.exists_extends_add s a hop
      exact confined_of_extends hext rfl
  | setSlot side id child => exact confined_setSlot h hop
  | replaceSelf id r => exact confined_replaceSelf h hop
  | removeSelf id => exact confined_removeSelf h id
  | wrap id w => exact confined_wrap h hop
  | clone id => exact confined_of_extends (Store.extends_copy s _) rfl
  | implant source id => exact confined_of_extends (Store.extends_copy s _) rfl

theorem root_lt_next_perform (h : s.WellFormed) (hroot : s.root < s.next) (hop : op.Permitted s) :
    (op.perform s).root < (op.perform s).next := by
  have hextends : ∀ {s' : Store} {t : Tree}, Store.Extends s s' t → s'.root < s'.next := by
    intro s' t hext
    rw [hext.root_eq]
    exact Nat.lt_of_lt_of_le hroot hext.le_next
  cases op with
  | add a c =>
      obtain ⟨t, hext⟩ := Store.exists_extends_add s a hop
      exact hextends hext
  | setSlot side id child =>
      rw [perform, Store.root_setSlot, Store.next,
        Store.size_setSlot h fun c hc => (hop.2 c hc).lt_next]
      exact hroot
  | replaceSelf id r =>
      rcases hop.2 with rfl | hfits
      · rwa [perform, Store.replaceSelf, if_pos rfl]
      · exact Store.root_lt_next_replaceSelf h hroot hfits
  | removeSelf id =>
      rw [perform, Store.removeSelf]
      split
      · exact hroot
      · rw [Store.root_detach, Store.next, Store.size_detach]
        exact hroot
  | wrap id w =>
      obtain ⟨hid, -, hfits⟩ := hop
      have hlt := (hfits.replaceSelf h hid).lt_next
      rw [perform, Store.wrap, Store.setLeft, Store.root_setSlot, Store.next,
        Store.size_setSlot (h.replaceSelf hfits) fun c hc => Option.some.inj hc ▸ hlt]
      exact Store.root_lt_next_replaceSelf h hroot hfits
  | clone id => exact hextends (Store.extends_copy s _)
  | implant source id => exact hextends (Store.extends_copy s _)

def Step (s s' : Store) : Prop :=
  ∃ op : Surgery, op.Permitted s ∧ s' = op.perform s

theorem steps_keep_links {s : Store} (h : Relation.ReflTransGen Step .empty s) :
    s.WellFormed ∧ s.root < s.next := by
  induction h with
  | refl => exact ⟨Store.wellFormed_empty, Nat.zero_lt_one⟩
  | tail _ hstep ih =>
      obtain ⟨op, hop, rfl⟩ := hstep
      exact ⟨wellFormed_perform ih.1 ih.2 hop, root_lt_next_perform ih.1 ih.2 hop⟩

/-- However many operations have been performed from the empty store on, slots and parent links
agree and make up trees, and the root is a node without a parent. The next operation then changes
the links of no node but those it names, the parents these have, and those it takes out of their
places, which keep what is below them less the node that comes into their place. -/
theorem surgeries_keep_links {s : Store} (h : Relation.ReflTransGen Step .empty s) :
    s.WellFormed ∧ s.root < s.next ∧
      ∀ op : Surgery, op.Permitted s → op.Confined s (op.perform s) := by
  obtain ⟨hwell, hroot⟩ := steps_keep_links h
  exact ⟨hwell, hroot, fun op hop => confined_perform hwell hop⟩

/-- In the query `(a)` the clause `a` comes into the place of the group around it. -/
theorem surgeries_keep_links_of_inner_clause :
    let s := ([.add .plain (.leaf (.term ⟨"a", .bare⟩)),
      .add .plain (.group ⟨.default, true⟩ none none),
      .setSlot .left 2 (some 1), .setSlot .left 0 (some 2)] : List Surgery).foldl perform .empty
    s.WellFormed ∧ s.root < s.next ∧ (replaceSelf 2 1).Confined s (s.replaceSelf 2 1) := by
  intro s
  have hfree : ∀ {s : Store} {id c : NodeId}, s.parent? id = none →
      ¬ Relation.TransGen s.Hangs id c := by
    intro s id c hnone habove
    obtain ⟨p, hp, -⟩ := Relation.TransGen.head'_iff.1 habove
    exact Option.some_ne_none p (hp.symm.trans hnone)
  have hruns : Relation.ReflTransGen Step .empty s := by
    refine .tail (.tail (.tail (.tail .refl ⟨.add .plain (.leaf (.term ⟨"a", .bare⟩)), rfl, rfl⟩)
      ⟨.add .plain (.group ⟨.default, true⟩ none none), rfl, rfl⟩)
      ⟨.setSlot .left 2 (some 1), ⟨by decide, ?_⟩, rfl⟩)
      ⟨.setSlot .left 0 (some 2), ⟨by decide, ?_⟩, rfl⟩
    · rintro c ⟨⟩
      exact ⟨by decide, by decide, by decide, hfree (by decide)⟩
    · rintro c ⟨⟩
      exact ⟨by decide, by decide, by decide, hfree (by decide)⟩
  obtain ⟨hwell, hroot, hconfined⟩ := surgeries_keep_links hruns
  refine ⟨hwell, hroot, hconfined (replaceSelf 2 1) ⟨by decide, .inr ⟨by decide, by decide,
    by decide, fun habove => ?_⟩⟩⟩
  obtain ⟨p, hp, hup⟩ := Relation.TransGen.head'_iff.1 habove
  obtain rfl : 0 = p := Option.some.inj ((show s.parent? 2 = some 0 by decide).symm.trans hp)
  rcases hup.cases_head with heq | ⟨q, hq, -⟩
  · cases heq
  · exact Option.some_ne_none q (hq.symm.trans (by decide))

end Surgery

end SearchQuery
