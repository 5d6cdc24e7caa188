import SearchQuery.Proofs.Store.Forest

/-!
# A tree in the place of a node

`Puts s s' id new` says of two stores that the query of `s'` is that of `s` with the tree `new` in the
place of the node `id`. So whatever walks do to a query can be told node by node: what is done inside
the tree that has been put there is done inside the whole, `Puts.inside`, and what is done to the two
sides of a group is done to the group, `Puts.left` and `Puts.right`.

Each operation puts a tree of its own in the place of the node it is about. The lemmas here say which.
-/

namespace SearchQuery

namespace Store

variable {s s' s'' : Store} {id x c : NodeId} {a : Attributes} {g : Group}
  {l l' r r' u v : Tree}
  {new newer : Tree} {side : Tree.Side}

/-- A well-formed store whose root is in the table. -/
structure Rooted (s : Store) : Prop where
  wellFormed : s.WellFormed
  root_lt_next : s.root < s.next

namespace Rooted

theorem shows (h : s.Rooted) : s.Shows s.root s.tree :=
  shows_of_view h.wellFormed h.root_lt_next h.wellFormed.root_free rfl

theorem nodup (h : s.Rooted) : s.tree.ids.Nodup :=
  h.shows.nodup h.wellFormed

theorem view_eq_find (h : s.Rooted) (hid : id ∈ s.tree.ids) : s.view id = s.tree.find id :=
  h.shows.view_find h.wellFormed hid

theorem id?_view (h : s.Rooted) (hid : id ∈ s.tree.ids) : (s.view id).id? = some id := by
  rw [h.view_eq_find hid, Tree.id?_find hid]

theorem view_ne_nil (h : s.Rooted) (hid : id ∈ s.tree.ids) : s.view id ≠ .nil := by
  intro hview
  have htop := h.id?_view hid
  rw [hview] at htop
  cases htop

theorem length_ids_view_pos (h : s.Rooted) (hid : id ∈ s.tree.ids) : 0 < (s.view id).ids.length :=
  List.length_pos_of_mem (mem_ids_of_id? (h.id?_view hid))

/-- Below no node are more nodes than there are in the table. -/
theorem length_ids_view_le (h : s.Rooted) (hid : id ∈ s.tree.ids) :
    (s.view id).ids.length ≤ s.next := by
  have hsub : s.tree.ids ⊆ List.range s.next := fun x hx =>
    List.mem_range.2 (h.shows.lt_next hx)
  have hle := h.nodup.length_le_of_subset hsub
  rw [List.length_range] at hle
  rw [h.view_eq_find hid]
  exact Nat.le_trans (Tree.ids_find_sublist id _).length_le hle

end Rooted

/-- A tree of its own that is not the query. -/
structure Spare (s : Store) (c : NodeId) (u : Tree) : Prop where
  shows : s.Shows c u
  ne_root : c ≠ s.root

/-- The query of `s'` is that of `s` with a tree in the place of a node of it. -/
structure Puts (s s' : Store) (id : NodeId) (new : Tree) : Prop where
  before : s.Rooted
  mem : id ∈ s.tree.ids
  after : s'.Rooted
  tree_eq : s'.tree = s.tree.replace id new

namespace Puts

theorem of_shows (hs : s.Rooted) (hid : id ∈ s.tree.ids) (hs' : s'.WellFormed)
    (h : s'.Shows s'.root (s.tree.replace id new)) : Puts s s' id new :=
  ⟨hs, hid, ⟨hs', h.lt_next h.mem⟩, h.view_eq hs'⟩

theorem of_nodes_eq (h : Puts s s' id new) (hnodes : s''.nodes = s'.nodes)
    (hroot : s''.root = s'.root) : Puts s s'' id new := by
  refine ⟨h.before, h.mem, ⟨h.after.wellFormed.of_nodes_eq hnodes hroot, ?_⟩,
    (tree_of_nodes_eq hnodes hroot).trans h.tree_eq⟩
  rw [hroot, next, hnodes]
  exact h.after.root_lt_next

theorem refl (hs : s.Rooted) (hid : id ∈ s.tree.ids) : Puts s s id (s.view id) := by
  refine ⟨hs, hid, hs, ?_⟩
  rw [hs.view_eq_find hid, Tree.replace_find hs.nodup hid]

section

variable (h : Puts s s' id new)

include h

theorem nodup : (s.tree.replace id new).ids.Nodup :=
  h.tree_eq ▸ h.after.nodup

theorem mem_ids (hx : x ∈ new.ids) : x ∈ s'.tree.ids := by
  rw [h.tree_eq]
  exact Tree.mem_ids_replace h.mem hx

theorem view_of_mem (hx : x ∈ new.ids) : s'.view x = new.find x := by
  rw [h.after.view_eq_find (h.mem_ids hx), h.tree_eq]
  exact Tree.find_replace_of_mem h.before.nodup h.mem h.nodup hx

theorem view_top (hx : new.id? = some x) : s'.view x = new := by
  rw [h.view_of_mem (mem_ids_of_id? hx), Tree.find_top hx]

theorem nodup_new : new.ids.Nodup := by
  cases hx : new.id? with
  | none =>
      cases new with
      | nil => exact .nil
      | _ => cases hx
  | some x =>
      obtain ⟨n, hn⟩ := exists_node?_of_lt (h.after.shows.lt_next (h.mem_ids (mem_ids_of_id? hx)))
      rw [← h.view_top hx]
      exact h.after.wellFormed.nodup_ids_of_holds (h.after.wellFormed.holds_view hn)

/-- What is put in the place of a node inside the tree is put inside the whole. -/
theorem inside (hx : x ∈ new.ids) (h' : Puts s' s'' x newer) :
    Puts s s'' id (new.replace x newer) := by
  refine ⟨h.before, h.mem, h'.after, ?_⟩
  rw [h'.tree_eq, h.tree_eq]
  exact Tree.replace_replace_of_mem h.before.nodup h.mem h.nodup hx newer

theorem trans (hx : new.id? = some x) (h' : Puts s' s'' x newer) : Puts s s'' id newer := by
  have hinside := h.inside (mem_ids_of_id? hx) h'
  rwa [Tree.replace_top hx] at hinside

end

theorem left (h : Puts s s' id (.group x a g l r)) (hc : l.id? = some c)
    (h' : Puts s' s'' c l') : Puts s s'' id (.group x a g l' r) := by
  have hnodup := h.nodup_new
  rw [Tree.ids, List.nodup_cons, List.mem_append, not_or, List.nodup_append] at hnodup
  have hmem := mem_ids_of_id? hc
  have hinside := h.inside (.tail _ (List.mem_append_left _ hmem)) h'
  rwa [Tree.replace, if_neg (ne_of_mem_of_not_mem hmem hnodup.1.1).symm, Tree.replace_top hc,
    Tree.replace_of_notMem fun hr => hnodup.2.2.2 c hmem c hr rfl] at hinside

theorem right (h : Puts s s' id (.group x a g l r)) (hc : r.id? = some c)
    (h' : Puts s' s'' c r') : Puts s s'' id (.group x a g l r') := by
  have hnodup := h.nodup_new
  rw [Tree.ids, List.nodup_cons, List.mem_append, not_or, List.nodup_append] at hnodup
  have hmem := mem_ids_of_id? hc
  have hinside := h.inside (.tail _ (List.mem_append_right _ hmem)) h'
  rwa [Tree.replace, if_neg (ne_of_mem_of_not_mem hmem hnodup.1.2).symm, Tree.replace_top hc,
    Tree.replace_of_notMem fun hl => hnodup.2.2.2 c hl c hmem rfl] at hinside

end Puts

/-! ## What a view says of its top -/

namespace Rooted

variable (hs : s.Rooted) (hid : id ∈ s.tree.ids)

include hs hid

theorem node?_of_group (hview : s.view id = .group x a g l r) :
    s.node? id = some ⟨a, .group g l.id? r.id?, s.parent? id⟩ := by
  obtain ⟨n, hn⟩ := exists_node?_of_lt (hs.shows.lt_next hid)
  have htop := hs.id?_view hid
  have hholds := hs.wellFormed.holds_view hn
  rw [hview] at htop hholds
  obtain rfl : x = id := Option.some.inj htop
  rw [← parent?_of_node? hn] at hholds
  exact hholds.1

theorem node?_of_leaf {f : Leaf} (hview : s.view id = .leaf x a f) :
    s.node? id = some ⟨a, .leaf f, s.parent? id⟩ := by
  obtain ⟨n, hn⟩ := exists_node?_of_lt (hs.shows.lt_next hid)
  have htop := hs.id?_view hid
  have hholds := hs.wellFormed.holds_view hn
  rw [hview] at htop hholds
  obtain rfl : x = id := Option.some.inj htop
  rw [← parent?_of_node? hn] at hholds
  exact hholds

theorem attrs_view : (s.view id).attrs = s.attrs id := by
  cases hview : s.view id with
  | nil =>
      have htop := hs.id?_view hid
      rw [hview] at htop
      cases htop
  | leaf => exact (attrs_of_node? (hs.node?_of_leaf hid hview)).symm
  | group => exact (attrs_of_node? (hs.node?_of_group hid hview)).symm

theorem isGroup_view : (s.view id).isGroup = s.isGroup id := by
  cases hview : s.view id with
  | nil =>
      have htop := hs.id?_view hid
      rw [hview] at htop
      cases htop
  | leaf => exact (isGroup_of_node? (hs.node?_of_leaf hid hview)).symm
  | group => exact (isGroup_of_node? (hs.node?_of_group hid hview)).symm

/-- Every node of the query but the root hangs on another one. -/
theorem exists_parent (hne : id ≠ s.root) : ∃ p, s.parent? id = some p := by
  have hup := (hs.shows.mem_iff hs.wellFormed).1 hid
  rcases hup.cases_head with heq | ⟨p, hp, -⟩
  · exact absurd heq hne
  · exact ⟨p, hp⟩

end Rooted

/-! ## What the operations put -/

namespace Rooted

section Relabel

variable (hs : s.Rooted) (hid : id ∈ s.tree.ids)

include hs hid

theorem relabel (h : Relabels s s' id) : Puts s s' id (s'.view id) := by
  refine .of_shows hs hid (h.wellFormed hs.wellFormed) ?_
  rw [h.root_eq]
  exact h.shows hs.wellFormed hs.shows hid

theorem modifyAttrs (f : Attributes → Attributes) :
    Puts s (s.modifyAttrs id f) id ((s.view id).withAttrs (f (s.attrs id))) := by
  rw [← hs.wellFormed.view_modifyAttrs (hs.shows.lt_next hid)]
  exact hs.relabel hid (Relabels.modifyAttrs s id f)

theorem modifyForm (f : Group → Group) :
    Puts s (s.modifyForm id f) id ((s.view id).mapForm f) := by
  rw [← hs.wellFormed.view_modifyForm (hs.shows.lt_next hid)]
  exact hs.relabel hid (Relabels.modifyForm s id f)

end Relabel

section Detach

variable (hs : s.Rooted) (hid : id ∈ s.tree.ids)

include hs hid

theorem detach_self : (s.detach id).Shows id (s.view id) := by
  rw [hs.view_eq_find hid]
  exact hs.shows.detach_self hs.wellFormed hid

theorem detach (hne : id ≠ s.root) : Puts s (s.detach id) id .nil := by
  refine .of_shows hs hid (hs.wellFormed.detach id) ?_
  rw [root_detach]
  exact hs.shows.detach hs.wellFormed hne

theorem removeSelf (hne : id ≠ s.root) : Puts s (s.removeSelf id) id .nil := by
  rw [Store.removeSelf, isRoot, decide_eq_false (Ne.symm hne)]
  exact hs.detach hid hne

end Detach

section Slots

variable (hs : s.Rooted) (hid : id ∈ s.tree.ids)

include hs hid

theorem slot?_left (hview : s.view id = .group x a g l r) : s.slot? .left id = l.id? :=
  slot?_of_node? (hs.node?_of_group hid hview) .left

theorem slot?_right (hview : s.view id = .group x a g l r) : s.slot? .right id = r.id? :=
  slot?_of_node? (hs.node?_of_group hid hview) .right

theorem clear_left (hview : s.view id = .group x a g l r) :
    Puts s (s.setLeft id none) id (.group x a g .nil r) := by
  have hself := Puts.refl hs hid
  rw [hview] at hself
  have hslot := hs.slot?_left hid hview
  rw [setLeft]
  cases hl : l.id? with
  | none =>
      obtain rfl := Tree.id?_eq_none_iff.1 hl
      rwa [setSlot_none_of_empty hslot]
  | some c =>
      rw [hs.wellFormed.setSlot_none (hslot.trans hl)]
      refine hself.left hl (hs.detach (hself.mem_ids ?_) ?_)
      · exact .tail _ (List.mem_append_left _ (mem_ids_of_id? hl))
      · exact hs.wellFormed.root_ne_of_slot (hslot.trans hl)

theorem clear_right (hview : s.view id = .group x a g l r) :
    Puts s (s.setRight id none) id (.group x a g l .nil) := by
  have hself := Puts.refl hs hid
  rw [hview] at hself
  have hslot := hs.slot?_right hid hview
  rw [setRight]
  cases hr : r.id? with
  | none =>
      obtain rfl := Tree.id?_eq_none_iff.1 hr
      rwa [setSlot_none_of_empty hslot]
  | some c =>
      rw [hs.wellFormed.setSlot_none (hslot.trans hr)]
      refine hself.right hr (hs.detach (hself.mem_ids ?_) ?_)
      · exact .tail _ (List.mem_append_right _ (mem_ids_of_id? hr))
      · exact hs.wellFormed.root_ne_of_slot (hslot.trans hr)

end Slots

theorem beside (hs : s.Rooted) (hu : s.Shows c u) (hne : c ≠ s.root) :
    s.Beside s.root s.tree c u :=
  ⟨hs.wellFormed, hs.shows, hu, hne, hne⟩

section Join

variable (hs : s.Rooted) (hid : id ∈ s.tree.ids) (hu : s.Shows c u) (hne : c ≠ s.root)

include hs hid hu hne

theorem fill (hgroup : s.isGroup id) (hempty : s.slot? side id = none) :
    Puts s (s.setSlot side id (some c)) id ((s.view id).withSide side u) := by
  have hbeside := hs.beside hu hne
  refine .of_shows hs hid (hbeside.wellFormed_fill hid) ?_
  rw [root_setSlot, hs.view_eq_find hid]
  exact hbeside.fill hid hgroup hempty

/-- A tree of its own comes into the place of a node. -/
theorem replaceSelf : Puts s (s.replaceSelf id c) id u := by
  have hbeside := hs.beside hu hne
  refine .of_shows hs hid (hbeside.wellFormed_replaceSelf hid) ?_
  rw [hbeside.root_replaceSelf hid]
  split
  · next heq =>
      subst heq
      rw [Tree.replace_top hs.shows.id?_eq]
      exact hbeside.replaceSelf_top
  · next hroot => exact hbeside.replaceSelf hid hroot

end Join

theorem take (hs : s.Rooted) (hid : id ∈ s.tree.ids) (hgroup : s.isGroup id)
    (hempty : s.slot? side id = none) {top : NodeId} (hv : s.Shows top v) (htop : top ≠ s.root)
    (hc : c ∈ v.ids) (hne : c ≠ top) :
    Puts s (s.setSlot side id (some c)) id ((s.view id).withSide side (v.find c)) ∧
      (s.setSlot side id (some c)).Shows top (v.replace c .nil) := by
  have hbeside := hs.beside hv htop
  have hnot : c ∉ s.tree.ids := fun hmem => hbeside.notMem hmem hc
  have hm := relinks_detach hs.wellFormed c
  have htree := hs.shows.detach_of_notMem hs.wellFormed hnot
  have hroot : c ≠ (s.detach c).root := by
    rw [root_detach]
    exact fun heq => hnot (heq ▸ hs.shows.mem)
  have hs' : (s.detach c).Rooted :=
    ⟨hs.wellFormed.detach c, by rw [root_detach]; exact htree.lt_next htree.mem⟩
  have htree' : (s.detach c).tree = s.tree := by
    rw [tree, root_detach]
    exact htree.view_eq hs'.wellFormed
  have hgroup' : (s.detach c).isGroup id := (isGroup_congr (hm.label?_eq id)).trans hgroup
  have hempty' : (s.detach c).slot? side id = none := by
    rw [hm.slot?_out, hempty]
    rfl
  rw [setSlot_detach hgroup]
  have hself := hv.detach_self hs.wellFormed hc
  have hid' : id ∈ (s.detach c).tree.ids := htree'.symm ▸ hid
  have hfill := hs'.fill hid' hself hroot hgroup' hempty'
  refine ⟨⟨hs, hid, hfill.after, ?_⟩, ?_⟩
  · rw [hfill.tree_eq, htree', hs'.view_eq_find hid', htree', hs.view_eq_find hid]
  · refine (hs'.beside hself hroot).fill_of_ne hid' hgroup' (hv.detach hs.wellFormed hne) ?_
      (Ne.symm hne)
    rwa [root_detach]

/-- New nodes leave the query as it is. -/
theorem extend (hs : s.Rooted) (hext : Extends s s' u) :
    s'.Rooted ∧ s'.root = s.root ∧ s'.tree = s.tree := by
  have hwell := hs.wellFormed.extend hs.root_lt_next hext
  have hshows : s'.Shows s.root s.tree := hs.shows.congr fun x hx =>
    hext.node?_eq x (hs.shows.lt_next hx)
  refine ⟨⟨hwell, ?_⟩, hext.root_eq, ?_⟩
  · rw [hext.root_eq]
    exact hshows.lt_next hshows.mem
  · rw [tree, hext.root_eq]
    exact hshows.view_eq hwell

end Rooted

/-! ## One operation after another -/

namespace Puts

theorem of_view (hs : s.Rooted) (hid : id ∈ s.tree.ids) (hview : s.view id = new) :
    Puts s s id new :=
  hview ▸ refl hs hid

section

variable (h : Puts s s' id new) (hx : new.id? = some x)

include h hx

theorem mem_top : x ∈ s'.tree.ids :=
  h.mem_ids (mem_ids_of_id? hx)

theorem attrs_top : s'.attrs x = new.attrs := by
  rw [← h.after.attrs_view (h.mem_top hx), h.view_top hx]

theorem isGroup_top : s'.isGroup x = new.isGroup := by
  rw [← h.after.isGroup_view (h.mem_top hx), h.view_top hx]

theorem modifyAttrs (f : Attributes → Attributes) :
    Puts s (s'.modifyAttrs x f) id (new.withAttrs (f new.attrs)) := by
  have hputs := h.after.modifyAttrs (h.mem_top hx) f
  rw [h.view_top hx, h.attrs_top hx] at hputs
  exact h.trans hx hputs

theorem modifyForm (f : Group → Group) : Puts s (s'.modifyForm x f) id (new.mapForm f) := by
  have hputs := h.after.modifyForm (h.mem_top hx) f
  rw [h.view_top hx] at hputs
  exact h.trans hx hputs

theorem replaceSelf (hu : s'.Shows c u) (hne : c ≠ s'.root) : Puts s (s'.replaceSelf x c) id u :=
  h.trans hx (h.after.replaceSelf (h.mem_top hx) hu hne)

end

section

variable (h : Puts s s' id (.group x a g l r))

include h

theorem mem_left (hc : l.id? = some c) : c ∈ s'.tree.ids :=
  h.mem_ids (.tail _ (List.mem_append_left _ (mem_ids_of_id? hc)))

theorem mem_right (hc : r.id? = some c) : c ∈ s'.tree.ids :=
  h.mem_ids (.tail _ (List.mem_append_right _ (mem_ids_of_id? hc)))

theorem view_left (hc : l.id? = some c) : s'.view c = l := by
  have hnode := h.after.node?_of_group (h.mem_top rfl) (h.view_top rfl)
  have hview := h.after.wellFormed.view_group hnode
  rw [h.view_top rfl, hc] at hview
  exact (Tree.group.inj hview).2.2.2.1.symm

theorem view_right (hc : r.id? = some c) : s'.view c = r := by
  have hnode := h.after.node?_of_group (h.mem_top rfl) (h.view_top rfl)
  have hview := h.after.wellFormed.view_group hnode
  rw [h.view_top rfl, hc] at hview
  exact (Tree.group.inj hview).2.2.2.2.symm

theorem ne_root_left (hc : l.id? = some c) : c ≠ s'.root :=
  h.after.wellFormed.root_ne_of_slot
    ((h.after.slot?_left (h.mem_top rfl) (h.view_top rfl)).trans hc)

theorem ne_root_right (hc : r.id? = some c) : c ≠ s'.root :=
  h.after.wellFormed.root_ne_of_slot
    ((h.after.slot?_right (h.mem_top rfl) (h.view_top rfl)).trans hc)

theorem node?_top : s'.node? x = some ⟨a, .group g l.id? r.id?, s'.parent? x⟩ :=
  h.after.node?_of_group (h.mem_top rfl) (h.view_top rfl)

theorem clear_left : Puts s (s'.setLeft x none) id (.group x a g .nil r) :=
  h.trans rfl (h.after.clear_left (h.mem_top rfl) (h.view_top rfl))

theorem clear_right : Puts s (s'.setRight x none) id (.group x a g l .nil) :=
  h.trans rfl (h.after.clear_right (h.mem_top rfl) (h.view_top rfl))

end

theorem fill_left (h : Puts s s' id (.group x a g .nil r)) (hu : s'.Shows c u)
    (hne : c ≠ s'.root) : Puts s (s'.setLeft x (some c)) id (.group x a g u r) := by
  have hempty := h.after.slot?_left (h.mem_top rfl) (h.view_top rfl)
  have hputs := h.after.fill (h.mem_top rfl) hu hne (h.isGroup_top rfl) hempty
  rw [h.view_top rfl] at hputs
  exact h.trans rfl hputs

theorem fill_right (h : Puts s s' id (.group x a g l .nil)) (hu : s'.Shows c u)
    (hne : c ≠ s'.root) : Puts s (s'.setRight x (some c)) id (.group x a g l u) := by
  have hempty := h.after.slot?_right (h.mem_top rfl) (h.view_top rfl)
  have hputs := h.after.fill (h.mem_top rfl) hu hne (h.isGroup_top rfl) hempty
  rw [h.view_top rfl] at hputs
  exact h.trans rfl hputs

theorem modifyAttrs_left (h : Puts s s' id (.group x a g l r)) (hc : l.id? = some c)
    (f : Attributes → Attributes) :
    Puts s (s'.modifyAttrs c f) id (.group x a g (l.withAttrs (f l.attrs)) r) := by
  have hputs := h.after.modifyAttrs (h.mem_left hc) f
  rw [← h.after.attrs_view (h.mem_left hc), h.view_left hc] at hputs
  exact h.left hc hputs

theorem detach_left (h : Puts s s' id (.group x a g l r)) (hc : l.id? = some c) :
    Puts s (s'.detach c) id (.group x a g .nil r) ∧ (s'.detach c).Spare c l := by
  have hne := h.ne_root_left hc
  have hself := h.after.detach_self (h.mem_left hc)
  rw [h.view_left hc] at hself
  exact ⟨h.left hc (h.after.detach (h.mem_left hc) hne), hself, by rwa [root_detach]⟩

theorem detach_right (h : Puts s s' id (.group x a g l r)) (hc : r.id? = some c) :
    Puts s (s'.detach c) id (.group x a g l .nil) ∧ (s'.detach c).Spare c r := by
  have hne := h.ne_root_right hc
  have hself := h.after.detach_self (h.mem_right hc)
  rw [h.view_right hc] at hself
  exact ⟨h.right hc (h.after.detach (h.mem_right hc) hne), hself, by rwa [root_detach]⟩

/-- What is alone in a group, on the right, moves to the left. -/
theorem shift (h : Puts s s' id (.group x a g .nil u)) (hc : u.id? = some c) :
    Puts s (s'.setLeft x (some c)) id (.group x a g u .nil) := by
  obtain ⟨hout, hspare⟩ := h.detach_right hc
  rw [setLeft, setSlot_detach (h.isGroup_top rfl)]
  exact hout.fill_left hspare.shows hspare.ne_root

theorem lift (h : Puts s s' id (.group x a g u .nil)) (hc : u.id? = some c) :
    Puts s (s'.replaceSelf x c) id u := by
  obtain ⟨hout, hspare⟩ := h.detach_left hc
  have hnodup := h.nodup_new
  rw [Tree.ids, List.nodup_cons, List.mem_append, not_or] at hnodup
  rw [replaceSelf_detach (ne_of_mem_of_not_mem (mem_ids_of_id? hc) hnodup.1.1).symm]
  exact hout.replaceSelf rfl hspare.shows hspare.ne_root

section Take

variable {top : NodeId} (hv : s'.Shows top v) (htop : top ≠ s'.root) (hc : c ∈ v.ids)
  (hne : c ≠ top)

include hv htop hc hne

theorem take_left (h : Puts s s' id (.group x a g .nil u)) :
    Puts s (s'.setLeft x (some c)) id (.group x a g (v.find c) u) ∧
      (s'.setLeft x (some c)).Shows top (v.replace c .nil) := by
  have hempty := h.after.slot?_left (h.mem_top rfl) (h.view_top rfl)
  obtain ⟨hputs, hrest⟩ :=
    h.after.take (h.mem_top rfl) (h.isGroup_top rfl) hempty hv htop hc hne
  rw [h.view_top rfl] at hputs
  exact ⟨h.trans rfl hputs, hrest⟩

theorem take_right (h : Puts s s' id (.group x a g u .nil)) :
    Puts s (s'.setRight x (some c)) id (.group x a g u (v.find c)) ∧
      (s'.setRight x (some c)).Shows top (v.replace c .nil) := by
  have hempty := h.after.slot?_right (h.mem_top rfl) (h.view_top rfl)
  obtain ⟨hputs, hrest⟩ :=
    h.after.take (h.mem_top rfl) (h.isGroup_top rfl) hempty hv htop hc hne
  rw [h.view_top rfl] at hputs
  exact ⟨h.trans rfl hputs, hrest⟩

end Take

/-- What a group holds that is alone in another one comes into the slots of that one. -/
theorem unwrap {y : NodeId} {b : Attributes} {f : Group}
    (h : Puts s s' id (.group x a g (.group y b f l r) .nil)) :
    Puts s (((s'.setLeft x none).setLeft x l.id?).setRight x r.id?) id (.group x a g l r) := by
  have hy := h.ne_root_left rfl
  have hslot := h.after.slot?_left (h.mem_top rfl) (h.view_top rfl)
  have hnodup := h.nodup_new
  simp only [Tree.ids, List.append_nil, List.nodup_cons, List.nodup_append] at hnodup
  obtain ⟨-, hinner, -, -, hdisjoint⟩ := hnodup
  rw [List.mem_append, not_or] at hinner
  -- the inner group is a tree of its own, whose sides are taken one after the other
  have h₁ := h.clear_left
  have hv₁ : (s'.setLeft x none).Shows y (.group y b f l r) := by
    rw [setLeft, h.after.wellFormed.setSlot_none hslot]
    exact h.view_left rfl ▸ h.after.detach_self (h.mem_left rfl)
  have hy₁ : y ≠ (s'.setLeft x none).root := by rwa [setLeft, root_setSlot]
  generalize s'.setLeft x none = s₁ at h₁ hv₁ hy₁
  obtain ⟨h₂, hv₂⟩ : Puts s (s₁.setLeft x l.id?) id (.group x a g l .nil) ∧
      (s₁.setLeft x l.id?).Shows y (.group y b f .nil r) := by
    cases hl : l.id? with
    | none =>
        obtain rfl := Tree.id?_eq_none_iff.1 hl
        have hempty := h₁.after.slot?_left (h₁.mem_top rfl) (h₁.view_top rfl)
        rw [setLeft, setSlot_none_of_empty hempty]
        exact ⟨h₁, hv₁⟩
    | some c =>
        have hc := mem_ids_of_id? hl
        have hne : c ≠ y := ne_of_mem_of_not_mem hc hinner.1
        obtain ⟨hputs, hrest⟩ := h₁.take_left hv₁ hy₁ (.tail _ (List.mem_append_left _ hc)) hne
        rw [Tree.find_group_left hne hc, Tree.find_top hl] at hputs
        rw [Tree.replace, if_neg hne.symm, Tree.replace_top hl,
          Tree.replace_of_notMem fun hr => hdisjoint c hc c hr rfl] at hrest
        exact ⟨hputs, hrest⟩
  have hy₂ : y ≠ (s₁.setLeft x l.id?).root := by rwa [setLeft, root_setSlot]
  cases hr : r.id? with
  | none =>
      obtain rfl := Tree.id?_eq_none_iff.1 hr
      have hempty := h₂.after.slot?_right (h₂.mem_top rfl) (h₂.view_top rfl)
      rwa [setRight, setSlot_none_of_empty hempty]
  | some c =>
      have hc := mem_ids_of_id? hr
      have hne : c ≠ y := ne_of_mem_of_not_mem hc hinner.2
      obtain ⟨hputs, -⟩ := h₂.take_right hv₂ hy₂ (.tail _ (List.mem_append_right _ hc)) hne
      rwa [Tree.find_group_right hne List.not_mem_nil, Tree.find_top hr] at hputs

end Puts

theorem Extends.shows (hext : Extends s s' u) (hc : u.id? = some c) : s'.Shows c u :=
  ⟨hext.holds, hc⟩

theorem Shows.extend {top : NodeId} (h : s.Shows top new) (hext : Extends s s' u) :
    s'.Shows top new :=
  h.congr fun x hx => hext.node?_eq x (h.lt_next hx)

end Store

end SearchQuery
