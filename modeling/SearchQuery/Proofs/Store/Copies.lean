import SearchQuery.Proofs.Store.Apart
import SearchQuery.Proofs.Store.Walks

/-!
# Copies

A copy can be made node by node: a node is added without its links, the copies of what is in its slots
are made in turn, and each is put into its slot. The table grows while it is read, but no old node is
touched, so this comes to what `copy` writes down in one go, `copies_iff`.

The copy is the tree that is copied under new numbers, `copies_are_faithful`, and nothing that is done to
it later shows below an old node.
-/

namespace SearchQuery

namespace Tree

def withSide : Side → Tree → Tree → Tree
  | .left, group id a g _ r, t => group id a g t r
  | .right, group id a g l _, t => group id a g l t
  | _, u, _ => u

end Tree

namespace Store

variable {s s₁ s₂ s' : Store} {origin : Option Store} {id top : NodeId} {t l r : Tree}
  {a : Attributes} {g : Group} {side : Tree.Side}

/-! ## Copying node by node -/

def fill (s : Store) (side : Tree.Side) (id : NodeId) (child : Option NodeId) : Store :=
  child.elim s fun c => s.setSlot side id (some c)

/-- A node, if there is one, is copied with all below it. Nodes are read in `origin`, or in the store
that grows if none is given. -/
inductive Copies (origin : Option Store) : Store → Option NodeId → Store → Prop
  | none {s : Store} : Copies origin s none s
  | leaf {s : Store} {id : NodeId} {a : Attributes} {l : Leaf} {p : Option NodeId}
      (h : (origin.getD s).node? id = some ⟨a, .leaf l, p⟩) :
      Copies origin s (some id) (s.add a (.leaf l))
  | group {s s₁ s₂ s₃ : Store} {id : NodeId} {a : Attributes} {g : Group} {l r p : Option NodeId}
      (h : (origin.getD s).node? id = some ⟨a, .group g l r, p⟩)
      (hleft : Copies origin (s.add a (.group g none none)) l s₁)
      (hfill : s₂ = s₁.fill .left s.next (l.map fun _ => s.next + 1))
      (hright : Copies origin s₂ r s₃) :
      Copies origin s (some id) (s₃.fill .right s.next (r.map fun _ => s₂.next))

theorem Copies.unique {o : Option NodeId} (h : Copies origin s o s₁) (h' : Copies origin s o s₂) :
    s₂ = s₁ := by
  induction h generalizing s₂ with
  | none => cases h'; rfl
  | leaf hn =>
      cases h' with
      | leaf hn' =>
          cases hn.symm.trans hn'
          rfl
      | group hn' => cases hn.symm.trans hn'
  | group hn _ hfill _ ihl ihr =>
      cases h' with
      | leaf hn' => cases hn.symm.trans hn'
      | group hn' hl' hfill' hr' =>
          cases hn.symm.trans hn'
          rw [ihl hl', ← hfill] at hfill'
          subst hfill'
          rw [ihr hr']

/-! ## What a slot is filled with -/

/-- A tree that has been hung on another node. -/
theorem Holds.relink {parent parent' : Option NodeId} (h : s.Holds parent t) (hnodup : t.ids.Nodup)
    (htop : ∀ x n, t.id? = some x → s.node? x = some n →
      s'.node? x = some { n with parent := parent' })
    (hrest : ∀ x ∈ t.ids, t.id? ≠ some x → s'.node? x = s.node? x) : s'.Holds parent' t := by
  cases t with
  | nil => trivial
  | leaf id a l => exact htop id _ rfl h
  | group id a g l r =>
      rw [Tree.ids, List.nodup_cons, List.mem_append, not_or] at hnodup
      have hbelow : ∀ x, x ∈ l.ids ∨ x ∈ r.ids → s'.node? x = s.node? x := by
        intro x hx
        refine hrest x (List.mem_cons_of_mem _ (List.mem_append.2 hx)) ?_
        rintro ⟨⟩
        exact hx.elim hnodup.1.1 hnodup.1.2
      exact ⟨htop id _ rfl h.1, h.2.1.congr fun x hx => hbelow x (.inl hx),
        h.2.2.congr fun x hx => hbelow x (.inr hx)⟩

theorem setSlot_of_free {c : NodeId} (hgroup : s.isGroup top) (hempty : s.slot? side top = none)
    (hfree : s.parent? c = none) : s.setSlot side top (some c) =
      (s.modify top (·.withSlot side (some c))).setParent c (some top) := by
  have hout : s.detach c = s := by
    rw [detach, hfree]
  rw [setSlot, if_pos hgroup]
  simp only [Option.elim_some, hout, show (s.node? top).bind (·.slot side) = none from hempty,
    Option.elim_none]

theorem annotations_detach (s : Store) (id : NodeId) :
    (s.detach id).annotations = s.annotations := by
  rw [detach]
  split <;> rfl

theorem annotations_setSlot (s : Store) (side : Tree.Side) (id : NodeId) (child : Option NodeId) :
    (s.setSlot side id child).annotations = s.annotations := by
  have hlink : ∀ (s : Store) (o p : Option NodeId),
      (o.elim s (s.setParent · p)).annotations = s.annotations := fun s o p => by
    cases o <;> rfl
  rw [setSlot]
  split
  · dsimp only
    rw [hlink, hlink]
    cases child with
    | none => rfl
    | some c => exact annotations_detach s c
  · rfl

theorem annotations_fill (s : Store) (side : Tree.Side) (id : NodeId) (child : Option NodeId) :
    (s.fill side id child).annotations = s.annotations := by
  cases child with
  | none => rfl
  | some c => exact annotations_setSlot ..

theorem root_fill (s : Store) (side : Tree.Side) (id : NodeId) (child : Option NodeId) :
    (s.fill side id child).root = s.root := by
  cases child with
  | none => rfl
  | some c => exact root_setSlot ..

theorem next_fill (s : Store) (side : Tree.Side) (id : NodeId) (child : Option NodeId) :
    (s.fill side id child).next = s.next := by
  cases child with
  | none => rfl
  | some c =>
      rw [fill, Option.elim_some, next, setSlot]
      split
      · dsimp only
        rw [size_elim_setParent (o := some c), size_elim_setParent, size_modify]
        exact size_detach s c
      · rfl

section Fill

variable {child : Option NodeId} (hgroup : s.isGroup top) (hempty : s.slot? side top = none)
  (hchild : ∀ c, child = some c → c ≠ top ∧ s.parent? c = none)

include hgroup hempty hchild

theorem node?_fill (x : NodeId) : (s.fill side top child).node? x =
    if x = top then (s.node? x).map (·.withSlot side child)
    else if child = some x then (s.node? x).map fun n => { n with parent := some top }
    else s.node? x := by
  cases child with
  | none =>
      rw [if_neg (Option.some_ne_none x).symm]
      split
      · next heq =>
          subst heq
          obtain ⟨_, _, _, _, _, hn⟩ := exists_node?_of_isGroup hgroup
          rw [slot?_of_node? hn] at hempty
          rw [fill, Option.elim_none, hn, Option.map_some, Node.withSlot_of_slot hempty]
      · rfl
  | some c =>
      obtain ⟨hne, hfree⟩ := hchild c rfl
      rw [fill, Option.elim_some, setSlot_of_free hgroup hempty hfree, setParent, node?_modify,
        node?_modify]
      by_cases hx : x = top
      · subst hx
        rw [if_neg hne, if_pos rfl, if_pos rfl]
      · rw [if_neg hx, if_neg (Ne.symm hx)]
        simp only [Option.some.injEq]

end Fill

end Store

theorem Tree.ids_withSide_perm {top : NodeId} {a : Attributes} {g : Group} {l r : Tree} {side : Side}
    (h : follow [side] (group top a g l r) = nil) (t : Tree) :
    ((group top a g l r).withSide side t).ids.Perm ((group top a g l r).ids ++ t.ids) := by
  cases side with
  | left =>
      obtain rfl : l = nil := h
      show (top :: (t.ids ++ r.ids)).Perm (top :: (r.ids ++ t.ids))
      exact List.perm_append_comm.cons top
  | right =>
      obtain rfl : r = nil := h
      show (top :: (l.ids ++ t.ids)).Perm (top :: (l.ids ++ [] ++ t.ids))
      rw [List.append_nil]

namespace Store

variable {s s₁ s₂ s' : Store} {origin : Option Store} {id top : NodeId} {t l r : Tree}
  {a : Attributes} {g : Group} {side : Tree.Side}

/-- The new nodes of a store and a tree that has been added later make up one tree when it is put
into an empty slot of their top. -/
theorem Extends.fill (h : Extends s s₁ (.group top a g l r)) (h' : Extends s₁ s₂ t)
    (side : Tree.Side) (hempty : Tree.follow [side] (.group top a g l r) = .nil) :
    Extends s (s₂.fill side top t.id?) ((Tree.group top a g l r).withSide side t) := by
  have hwhole : s₂.Holds none (.group top a g l r) := h.holds.congr fun x hx =>
    h'.node?_eq x ((h.mem_iff x).1 hx).2
  have hdisjoint : ∀ x ∈ (Tree.group top a g l r).ids, x ∉ t.ids := fun x hx hxt =>
    Nat.not_lt.2 ((h'.mem_iff x).1 hxt).1 ((h.mem_iff x).1 hx).2
  have hgroup : s₂.isGroup top := by
    rw [isGroup_of_node? hwhole.1]
    rfl
  have hslot : s₂.slot? side top = none := by
    rw [slot?_of_node? hwhole.1]
    cases side <;> exact congrArg Tree.id? hempty
  have hchild : ∀ c, t.id? = some c → c ≠ top ∧ s₂.parent? c = none := by
    intro c hc
    refine ⟨?_, h'.holds.parent?_top hc⟩
    rintro rfl
    exact hdisjoint _ List.mem_cons_self (mem_ids_of_id? hc)
  have hnode := node?_fill hgroup hslot hchild
  have hperm := Tree.ids_withSide_perm hempty t
  -- neither the top nor the tree put into its slot
  have hother : ∀ x, x ≠ top → x ∉ t.ids →
      (s₂.fill side top t.id?).node? x = s₂.node? x := fun x hne hx => by
    rw [hnode, if_neg hne, if_neg fun hid => hx (mem_ids_of_id? hid)]
  refine ⟨fun x hx => ?_, ?_, ?_, fun x => ?_, ?_⟩
  · rw [hother, h'.node?_eq x (Nat.lt_of_lt_of_le hx h.le_next), h.node?_eq x hx]
    · rintro rfl
      exact Nat.not_lt.2 ((h.mem_iff _).1 List.mem_cons_self).1 hx
    · exact fun hxt => Nat.not_lt.2 (Nat.le_trans h.le_next ((h'.mem_iff x).1 hxt).1) hx
  · have hnodup := List.nodup_cons.1 h.nodup
    have hrest : ∀ x ∈ l.ids ++ r.ids, (s₂.fill side top t.id?).node? x = s₂.node? x := fun x hx =>
      hother x (ne_of_mem_of_not_mem hx hnodup.1) (hdisjoint x (List.mem_cons_of_mem _ hx))
    have hl := hwhole.2.1.congr fun x hx => hrest x (List.mem_append_left _ hx)
    have hr := hwhole.2.2.congr fun x hx => hrest x (List.mem_append_right _ hx)
    have ht : (s₂.fill side top t.id?).Holds (some top) t := by
      refine h'.holds.relink h'.nodup (fun x n hx hn => ?_) fun x hx hne => ?_
      · rw [hnode, if_neg (hchild x hx).1, if_pos hx, hn, Option.map_some]
      · rw [hnode, if_neg (ne_of_mem_of_not_mem hx (hdisjoint top List.mem_cons_self)), if_neg hne]
    have htop := hnode top
    rw [if_pos rfl, hwhole.1, Option.map_some] at htop
    cases side with
    | left => exact ⟨htop, ht, hr⟩
    | right => exact ⟨htop, hl, ht⟩
  · rw [hperm.nodup_iff, List.nodup_append]
    refine ⟨h.nodup, h'.nodup, ?_⟩
    rintro x hx y hy rfl
    exact hdisjoint x hx hy
  · rw [hperm.mem_iff, List.mem_append, h.mem_iff, h'.mem_iff, next_fill]
    constructor
    · rintro (⟨hle, hlt⟩ | ⟨hle, hlt⟩)
      · exact ⟨hle, Nat.lt_of_lt_of_le hlt h'.le_next⟩
      · exact ⟨Nat.le_trans h.le_next hle, hlt⟩
    · rintro ⟨hle, hlt⟩
      exact (Nat.lt_or_ge x s₁.next).imp (⟨hle, ·⟩) (⟨·, hlt⟩)
  · rw [root_fill, h'.root_eq, h.root_eq]

/-! ## The copy -/

/-- Stores with the same new tree beside the same old nodes are the same. -/
theorem Extends.eq_of (h₁ : Extends s s₁ t) (h₂ : Extends s s₂ t)
    (hnotes : s₁.annotations = s₂.annotations) : s₁ = s₂ := by
  have hnode : ∀ x : Nat, s₁.node? x = s₂.node? x := by
    intro x
    by_cases hlt : x < s.next
    · rw [h₁.node?_eq x hlt, h₂.node?_eq x hlt]
    · by_cases hmem : x ∈ t.ids
      · exact h₁.holds.node?_eq h₂.holds hmem
      · have hnone : ∀ {s' : Store}, Extends s s' t → s'.node? x = none := fun h =>
          Option.eq_none_iff_forall_ne_some.2 fun n hn => (h.lt_or_mem hn).elim hlt hmem
        rw [hnone h₁, hnone h₂]
  exact ext_node? hnode (h₁.root_eq.trans h₂.root_eq.symm) hnotes

theorem annotations_copy (s : Store) (t : Tree) : (s.copy t).annotations = s.annotations :=
  annotations_write ..

theorem next_copy (s : Store) (t : Tree) : (s.copy t).next = (t.renumber s.next).2 := by
  have hsize := size_write (s.grow (t.renumber s.next).2) none (t.renumber s.next).1
  exact hsize.trans ((size_grow ..).trans (Nat.max_eq_right (Tree.extends_renumber t s.next).le))

theorem copy_nil (s : Store) : s.copy .nil = s := by
  refine (extends_copy s .nil).eq_of ⟨fun _ _ => rfl, trivial, .nil, fun x => ?_, rfl⟩ rfl
  exact iff_of_false List.not_mem_nil fun hx => Nat.not_lt.2 hx.1 hx.2

/-- A node that holds no other is copied by adding it. -/
theorem add_eq_put (s : Store) (a : Attributes) (content : Content) :
    s.add a content = (s.grow (s.next + 1)).put s.next ⟨a, content, none⟩ := by
  have hlast : ∀ n : Node, s.nodes.push n = (s.nodes.push .blank).setIfInBounds s.nodes.size n := by
    grind
  simp [add, grow, put, next, ← hlast]

theorem copy_leaf (s : Store) (id : NodeId) (a : Attributes) (l : Leaf) :
    s.copy (.leaf id a l) = s.add a (.leaf l) :=
  (add_eq_put s a (.leaf l)).symm

theorem extends_add_group (s : Store) (a : Attributes) (g : Group) :
    Extends s (s.add a (.group g none none)) (.group s.next a g .nil .nil) := by
  rw [add_eq_put]
  exact extends_copy s (.group 0 a g .nil .nil)

def copyLeft (s : Store) (a : Attributes) (g : Group) (l : Tree) : Store :=
  ((s.add a (.group g none none)).copy l).fill .left s.next (l.id?.map fun _ => s.next + 1)

theorem next_add (s : Store) (a : Attributes) (content : Content) :
    (s.add a content).next = s.next + 1 :=
  Array.size_push ..

theorem extends_copyLeft (s : Store) (a : Attributes) (g : Group) (l : Tree) :
    Extends s (s.copyLeft a g l) (.group s.next a g (l.renumber (s.next + 1)).1 .nil) := by
  have hfill := (extends_add_group s a g).fill (extends_copy _ l) .left rfl
  rw [next_add, Tree.map_id?_renumber] at hfill
  exact hfill

theorem next_copyLeft (s : Store) (a : Attributes) (g : Group) (l : Tree) :
    (s.copyLeft a g l).next = (l.renumber (s.next + 1)).2 := by
  rw [copyLeft, next_fill, next_copy, next_add]

/-- A group is copied by adding it, copying what is in its slots, and putting the copies there. -/
theorem copy_group (s : Store) (id : NodeId) (a : Attributes) (g : Group) (l r : Tree) :
    s.copy (.group id a g l r) = ((s.copyLeft a g l).copy r).fill .right s.next
      (r.id?.map fun _ => (s.copyLeft a g l).next) := by
  have hfill := (extends_copyLeft s a g l).fill (extends_copy _ r) .right rfl
  rw [Tree.map_id?_renumber] at hfill
  refine (extends_copy s _).eq_of ?_ ?_
  · rw [next_copyLeft] at hfill ⊢
    exact hfill
  · rw [annotations_copy, annotations_fill, annotations_copy, copyLeft, annotations_fill,
      annotations_copy]
    rfl

/-- The nodes read for a copy are still there when others have been added. -/
theorem holds_origin_of_extends {parent : Option NodeId} (h : (origin.getD s).Holds parent t)
    {u : Tree} (hext : Extends s s' u) : (origin.getD s').Holds parent t := by
  cases origin with
  | none => exact h.congr fun x hx => hext.node?_eq x (h.lt_size hx)
  | some source => exact h

theorem copies_copy {parent : Option NodeId} (h : (origin.getD s).Holds parent t) :
    Copies origin s t.id? (s.copy t) := by
  induction t generalizing s parent with
  | nil =>
      rw [copy_nil]
      exact .none
  | leaf id a l =>
      rw [copy_leaf]
      exact .leaf h
  | group id a g l r ihl ihr =>
      -- the right side is read when the copy of the left one is there
      obtain ⟨hn, hl, hr⟩ := h
      rw [copy_group]
      exact .group hn (ihl (holds_origin_of_extends hl (extends_add_group s a g))) rfl
        (ihr (holds_origin_of_extends hr (extends_copyLeft s a g l)))

/-- Copying a node of a well-formed store node by node ends, with what `copy` writes down. -/
theorem copies_iff (h : (origin.getD s).WellFormed) (hid : id < (origin.getD s).next) :
    Copies origin s (some id) s' ↔ s' = s.copy ((origin.getD s).view id) := by
  obtain ⟨n, hn⟩ := exists_node?_of_lt hid
  have hcopies := copies_copy (h.holds_view hn)
  rw [h.id?_view hn] at hcopies
  refine ⟨hcopies.unique, ?_⟩
  rintro rfl
  exact hcopies

/-! ## What a copy is like -/

/-- At the next number a copy shows the tree that has been copied, under new numbers. -/
theorem view_copy (s : Store) (hid : t.id? = some id) :
    (s.copy t).view s.next = (t.renumber s.next).1 := by
  have hext := extends_copy s t
  refine hext.holds.view_eq hext.nodup ?_
  rw [Tree.map_id?_renumber, hid, Option.map_some]

theorem note?_eq_none_of_le {notes : Annotations} {bound x : Nat}
    (h : ∀ note ∈ notes.filed, note.node < bound) (hx : bound ≤ x) (name : String) :
    notes.note? name x = none := by
  rw [Annotations.note?, List.find?_eq_none.2, Option.map_none]
  intro note hnote hfound
  obtain ⟨-, rfl⟩ := of_decide_eq_true hfound
  exact Nat.not_lt.2 hx (h note hnote)

/-- A node of a well-formed store, reachable or not, is copied into a store, be it the same or another
one. The copy is a new node without a parent, below which the store shows what is below the node
copied, but for the numbers, so it is written the same way. What was in the store before is left as it
is; the copy has no node in common with it and bears no note. Whatever is then done to nodes with new
numbers, the old nodes stay as they are, and what is below them is written as before. -/
theorem copies_are_faithful (h : s.WellFormed) (hroot : s.root < s.next)
    (hnotes : ∀ note ∈ s.annotations.filed, note.node < s.next)
    (horigin : ∀ o ∈ origin, o.WellFormed) (hid : id < (origin.getD s).next) :
    let source := origin.getD s
    let s' := s.copy (source.view id)
    (∀ out, Copies origin s (some id) out ↔ out = s') ∧
      (s'.WellFormed ∧ (s'.view s.next).id? = some s.next ∧ s'.parent? s.next = none) ∧
      ((s'.view s.next).unnumbered = (source.view id).unnumbered ∧
        s'.print s.next = source.print id) ∧
      ((∀ x < s.next, s'.node? x = s.node? x) ∧ s'.root = s.root ∧
        s'.annotations = s.annotations) ∧
      (∀ x ∈ s'.descendants s.next, s.node? x = none ∧
        ∀ name, s'.annotations.note? name x = none) ∧
      ∀ s'', Relation.ReflTransGen (Change.Step s.next) s' s'' →
        ∀ x < s.next, s''.node? x = s.node? x ∧ s''.print x = s.print x := by
  intro source s'
  have hsource : source.WellFormed := by
    cases origin with
    | none => exact h
    | some o => exact horigin o rfl
  obtain ⟨n, hn⟩ := exists_node?_of_lt hid
  have htop : (source.view id).id? = some id := hsource.id?_view hn
  have hext : Extends s s' _ := extends_copy s (source.view id)
  have hview : s'.view s.next = _ := view_copy s htop
  have hid' : (s'.view s.next).id? = some s.next := by
    rw [hview, Tree.map_id?_renumber, htop, Option.map_some]
  have hnumbers : (s'.view s.next).unnumbered = (source.view id).unnumbered := by
    rw [hview, Tree.unnumbered_renumber]
  have hspares := (apart_next hroot).spares_extends hext
  refine ⟨fun out => copies_iff hsource hid,
    ⟨h.extend hroot hext, hid', hext.holds.parent?_top (hview ▸ hid')⟩, ⟨hnumbers, ?_⟩,
    ⟨hspares.node?_eq, hext.root_eq, annotations_copy ..⟩, fun x hx => ?_, fun s'' hrun x hx => ?_⟩
  · rw [print, print, Tree.render, Tree.render, ← Tree.chars_unnumbered, hnumbers,
      Tree.chars_unnumbered]
  · rw [descendants_eq_ids, hview] at hx
    have hle := ((hext.mem_iff x).1 hx).1
    refine ⟨Array.getElem?_eq_none hle, fun name => ?_⟩
    rw [annotations_copy]
    exact note?_eq_none_of_le hnotes hle name
  · have hlater := hspares.trans (Change.spares_of_run hspares.apart hrun)
    refine ⟨hlater.node?_eq x hx, ?_⟩
    rw [print, print, h.view_eq_of_node?_eq hlater.node?_eq hx]

/-- A clause is taken out of the copy of `status:(open closed)` and another one gets a field, and the
group copied is written as before. -/
theorem copies_are_faithful_of_status_group :
    let term (id : NodeId) (text : String) : Tree := .leaf id .plain (.term ⟨text, .bare⟩)
    let query : Tree := .group 0 .plain .plain
      (.group 1 { Attributes.plain with field := some "status" } ⟨.default, true⟩
        (term 2 "open") (term 3 "closed")) .nil
    let notes := Annotations.empty.set .operationType 1 "keep"
    let s := { ofTree query with annotations := notes }
    let s' := s.copy (s.view 1)
    let s'' := Change.perform (Change.perform s' (.links (.removeSelf 5)))
      (.overwrite 6 fun n => { n with attrs := { n.attrs with field := some "owner" } })
    (s.WellFormed ∧ s.root < s.next ∧ (∀ note ∈ s.annotations.filed, note.node < s.next) ∧
        1 < s.next) ∧
      Copies none s (some 1) s' ∧ s'.print 4 = s.print 1 ∧ s''.print 1 = s.print 1 := by
  intro term query notes s s' s''
  have hnote : ∀ {s : Store}, s.WellFormed → { s with annotations := notes }.WellFormed :=
    fun h => h.of_nodes_eq rfl rfl
  have hwell : s.WellFormed := hnote (wellFormed_ofTree rfl (by decide))
  have hnext : s.next = 4 := by decide
  have hroot : s.root < s.next := by decide
  have hid : 1 < s.next := by decide
  have hnotes : ∀ note ∈ s.annotations.filed, note.node < s.next := by
    intro note hnote
    obtain rfl := List.mem_singleton.1 hnote
    exact hid
  have horigin : ∀ o ∈ (none : Option Store), o.WellFormed := nofun
  clear_value s
  obtain ⟨hcopies, -, ⟨-, hprint⟩, -, -, hlater⟩ :=
    copies_are_faithful hwell hroot hnotes horigin hid
  have hrun : Relation.ReflTransGen (Change.Step s.next) s' s'' := by
    rw [hnext]
    refine .tail (.single ⟨.links (.removeSelf 5), ?_, rfl⟩) ⟨.overwrite 6 _, ?_, rfl⟩
    · exact List.forall_mem_singleton.2 (by decide)
    · exact ⟨by decide, fun n hn => hn.withAttrs _⟩
  rw [hnext] at hprint
  exact ⟨⟨hwell, hroot, hnotes, hid⟩, (hcopies s').2 rfl, hprint, (hlater s'' hrun 1 hid).2⟩

end Store

end SearchQuery
