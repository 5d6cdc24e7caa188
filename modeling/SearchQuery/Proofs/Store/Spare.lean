import SearchQuery.Proofs.Store.Rewriting

/-!
# Trees beside the query

A walk that puts something in the place of a node makes it first, as a tree that hangs nowhere, and it
may move parts of the query there. `Store.Spare` says that there is such a tree. The lemmas here say how
it comes about, what can be done to it while the query stays, and how it comes into the query.
-/

namespace SearchQuery

namespace Store

variable {s s' s'' : Store} {id x c top other w : NodeId} {a b : Attributes} {f g : Group}
  {l r new u v : Tree} {side : Tree.Side}

theorem Spare.beside (hu : s.Spare c u) (hs : s.Rooted) : s.Beside s.root s.tree c u :=
  hs.beside hu.shows hu.ne_root

theorem Spare.notMem (hu : s.Spare c u) (hs : s.Rooted) (hx : x ∈ s.tree.ids) : x ∉ u.ids :=
  (hu.beside hs).notMem hx

/-! ## New trees -/

theorem Puts.extend (h : Puts s s' id new) (hext : Extends s' s'' u) : Puts s s'' id new := by
  obtain ⟨hafter, -, htree⟩ := h.after.extend hext
  exact ⟨h.before, h.mem, hafter, htree.trans h.tree_eq⟩

theorem Extends.spare (hext : Extends s s' u) (hs : s.Rooted) (hc : u.id? = some c) :
    s'.Spare c u := by
  refine ⟨hext.shows hc, ?_⟩
  rintro rfl
  have hle := ((hext.mem_iff _).1 (mem_ids_of_id? hc)).1
  rw [hext.root_eq] at hle
  exact Nat.not_lt.2 hle hs.root_lt_next

theorem Spare.extend (hv : s.Spare top v) (hext : Extends s s' u) : s'.Spare top v :=
  ⟨hv.shows.extend hext, hext.root_eq ▸ hv.ne_root⟩

/-- A new tree is not an old one. -/
theorem Extends.ne_of_lt (hext : Extends s s' u) (hc : u.id? = some c) (hx : x < s.next) : x ≠ c := by
  rintro rfl
  exact Nat.not_lt.2 ((hext.mem_iff _).1 (mem_ids_of_id? hc)).1 hx

/-! ## Saying something else of a node -/

theorem Shows.attrs_eq (h : s.Shows top v) : s.attrs top = v.attrs := by
  obtain ⟨hholds, htop⟩ := h
  cases v with
  | nil => cases htop
  | leaf => exact Option.some.inj htop ▸ attrs_of_node? hholds
  | group => exact Option.some.inj htop ▸ attrs_of_node? hholds.1

theorem Shows.isGroup_eq (h : s.Shows top v) : s.isGroup top = v.isGroup := by
  obtain ⟨hholds, htop⟩ := h
  cases v with
  | nil => cases htop
  | leaf => exact Option.some.inj htop ▸ isGroup_of_node? hholds
  | group => exact Option.some.inj htop ▸ isGroup_of_node? hholds.1

theorem Shows.slot?_eq (h : s.Shows top (.group x a g l r)) (side : Tree.Side) :
    s.slot? side top = (match side with | .left => l | .right => r).id? := by
  obtain rfl := Option.some.inj h.id?_eq
  rw [slot?_of_node? h.holds.1]
  cases side <;> rfl

theorem Spare.modifyAttrs (hv : s.Spare top v) (hs : s.Rooted) (f : Attributes → Attributes) :
    (s.modifyAttrs top f).Spare top (v.withAttrs (f v.attrs)) := by
  have hlt := hv.shows.lt_next hv.shows.mem
  have hshows := (Relabels.modifyAttrs s top f).shows hs.wellFormed hv.shows hv.shows.mem
  rw [hs.wellFormed.view_modifyAttrs hlt, hv.shows.view_eq hs.wellFormed,
    hv.shows.attrs_eq, Tree.replace_top hv.shows.id?_eq] at hshows
  exact ⟨hshows, hv.ne_root⟩

theorem Spare.modifyForm (hv : s.Spare top v) (hs : s.Rooted) (f : Group → Group) :
    (s.modifyForm top f).Spare top (v.mapForm f) := by
  have hlt := hv.shows.lt_next hv.shows.mem
  have hshows := (Relabels.modifyForm s top f).shows hs.wellFormed hv.shows hv.shows.mem
  rw [hs.wellFormed.view_modifyForm hlt, hv.shows.view_eq hs.wellFormed,
    Tree.replace_top hv.shows.id?_eq] at hshows
  exact ⟨hshows, hv.ne_root⟩

/-! ## A copy beside the query -/

/-- A new tree stands beside the query, and everything else stays. -/
structure Implants (s s' : Store) (u : Tree) : Prop where
  rooted : s'.Rooted
  tree_eq : s'.tree = s.tree
  root_eq : s'.root = s.root
  spare : ∀ c, u.id? = some c → s'.Spare c u
  spare_of_old : ∀ top v, s.Spare top v → s'.Spare top v
  le_of_mem : ∀ x ∈ u.ids, s.next ≤ x

theorem implants_implant (hs : s.Rooted) (t : Tree) :
    Implants s (s.implant t).2 (t.renumber s.next).1 := by
  have hext : Extends s (s.implant t).2 (t.renumber s.next).1 := extends_copy s t
  obtain ⟨hrooted, hroot, htree⟩ := hs.extend hext
  exact ⟨hrooted, htree, hroot, fun c hc => hext.spare hs hc, fun top v hv => hv.extend hext,
    fun x hx => ((hext.mem_iff x).1 hx).1⟩

namespace Implants

variable (h : Implants s s' u)

include h

theorem puts {s₀ : Store} (hputs : Puts s₀ s id new) : Puts s₀ s' id new :=
  ⟨hputs.before, hputs.mem, h.rooted, h.tree_eq.trans hputs.tree_eq⟩

/-- Something else may be said of the top of the new tree. -/
theorem relabel (hs : s.Rooted) (hc : u.id? = some c) (hlabel : Relabels s' s'' c)
    (hids : v.ids = u.ids) (hv : s''.Spare c v) : Implants s s'' v := by
  have hmem := mem_ids_of_id? hc
  have hlt := (h.spare c hc).shows.lt_next hmem
  have hnew : ∀ {x}, x < s.next → x ≠ c := fun hx heq =>
    Nat.not_lt.2 (h.le_of_mem c hmem) (heq ▸ hx)
  have hstays : ∀ {top w}, s.Shows top w → s'.Shows top w → s''.Shows top w := fun hw hw' =>
    hlabel.shows_of_notMem h.rooted.wellFormed hw' hlt fun hcw => hnew (hw.lt_next hcw) rfl
  have hwell := hlabel.wellFormed h.rooted.wellFormed
  have hroot : s''.root = s.root := hlabel.root_eq.trans h.root_eq
  have htree : s''.Shows s''.root s.tree := by
    rw [hroot]
    refine hstays hs.shows ?_
    rw [← h.root_eq, ← h.tree_eq]
    exact h.rooted.shows
  refine ⟨⟨hwell, htree.lt_next htree.mem⟩, htree.view_eq hwell, hroot, fun d hd => ?_,
    fun top w hw => ⟨hstays hw.shows (h.spare_of_old top w hw).shows, hroot ▸ hw.ne_root⟩,
    fun x hx => h.le_of_mem x (hids ▸ hx)⟩
  exact Option.some.inj (hv.shows.id?_eq.symm.trans hd) ▸ hv

theorem modifyAttrs (hs : s.Rooted) (hc : u.id? = some c) (f : Attributes → Attributes) :
    Implants s (s'.modifyAttrs c f) (u.withAttrs (f u.attrs)) :=
  h.relabel hs hc (Relabels.modifyAttrs s' c f) (by cases u <;> rfl)
    ((h.spare c hc).modifyAttrs h.rooted f)

theorem modifyForm (hs : s.Rooted) (hc : u.id? = some c) (f : Group → Group) :
    Implants s (s'.modifyForm c f) (u.mapForm f) :=
  h.relabel hs hc (Relabels.modifyForm s' c f) (by cases u <;> rfl)
    ((h.spare c hc).modifyForm h.rooted f)

omit h in
theorem of_nodes_eq (h : Implants s s' u) (hnodes : s''.nodes = s'.nodes)
    (hroot : s''.root = s'.root) : Implants s s'' u := by
  have hshows : ∀ {top t}, s'.Shows top t → s''.Shows top t := fun ht =>
    ht.congr fun x _ => by rw [node?, node?, hnodes]
  have hspare : ∀ {top t}, s'.Spare top t → s''.Spare top t := fun ht =>
    ⟨hshows ht.shows, hroot ▸ ht.ne_root⟩
  refine ⟨⟨h.rooted.wellFormed.of_nodes_eq hnodes hroot, ?_⟩,
    (tree_of_nodes_eq hnodes hroot).trans h.tree_eq, hroot.trans h.root_eq,
    fun c hc => hspare (h.spare c hc), fun top v hv => hspare (h.spare_of_old top v hv), h.le_of_mem⟩
  rw [hroot]
  exact (hshows h.rooted.shows).lt_next h.rooted.shows.mem

end Implants

/-! ## Out of the query -/

theorem Spare.detach (hv : s.Spare top v) (hs : s.Rooted) (hx : x ∈ s.tree.ids) :
    (s.detach x).Spare top v :=
  ⟨hv.shows.detach_of_notMem hs.wellFormed (hv.notMem hs hx), by rw [root_detach]; exact hv.ne_root⟩

/-! ## One spare tree into another -/

section Fill

variable (h : Puts s s' id new) (hv : s'.Spare top v) (hu : s'.Spare c u) (hne : c ≠ top)
  (hx : x ∈ v.ids) (hgroup : s'.isGroup x)

include h hv hu hne hx hgroup

theorem Puts.fill_spare : Puts s (s'.setSlot side x (some c)) id new := by
  have hbeside : s'.Beside top v c u :=
    ⟨h.after.wellFormed, hv.shows, hu.shows, hne, hu.ne_root⟩
  have htree : (s'.setSlot side x (some c)).Shows s'.root _ :=
    hbeside.fill_of_ne hx hgroup h.after.shows hv.ne_root.symm hu.ne_root.symm
  have hwell : (s'.setSlot side x (some c)).WellFormed := hbeside.wellFormed_fill hx
  rw [← root_setSlot s' side x (some c)] at htree
  exact ⟨h.before, h.mem, ⟨hwell, htree.lt_next htree.mem⟩, (htree.view_eq hwell).trans h.tree_eq⟩

theorem Puts.spare_fill (hempty : s'.slot? side x = none) :
    (s'.setSlot side x (some c)).Spare top (v.replace x ((v.find x).withSide side u)) := by
  have hbeside : s'.Beside top v c u :=
    ⟨h.after.wellFormed, hv.shows, hu.shows, hne, hu.ne_root⟩
  exact ⟨hbeside.fill hx hgroup hempty, by rw [root_setSlot]; exact hv.ne_root⟩

end Fill

theorem Puts.give_left (h : Puts s s' id (.group x a g l r)) (hc : l.id? = some c)
    (hv : s'.Spare w (.group w b f .nil v)) :
    Puts s (s'.setLeft w (some c)) id (.group x a g .nil r) ∧
      (s'.setLeft w (some c)).Spare w (.group w b f l v) := by
  obtain ⟨hout, hself⟩ := h.detach_left hc
  have hw := hv.detach h.after (h.mem_left hc)
  have hgroup : s'.isGroup w := hv.shows.isGroup_eq
  have hempty := hw.shows.slot?_eq .left
  have hne : c ≠ w := by
    rintro rfl
    exact hv.notMem h.after (h.mem_left hc) hv.shows.mem
  rw [setLeft, setSlot_detach hgroup]
  have hfill := hout.spare_fill hw hself hne hw.shows.mem hw.shows.isGroup_eq hempty
  rw [Tree.find_top rfl, Tree.replace_top rfl] at hfill
  exact ⟨hout.fill_spare hw hself hne hw.shows.mem hw.shows.isGroup_eq, hfill⟩

theorem Puts.give_right (h : Puts s s' id (.group x a g l r)) (hc : r.id? = some c)
    (hv : s'.Spare w (.group w b f v .nil)) :
    Puts s (s'.setRight w (some c)) id (.group x a g l .nil) ∧
      (s'.setRight w (some c)).Spare w (.group w b f v r) := by
  obtain ⟨hout, hself⟩ := h.detach_right hc
  have hw := hv.detach h.after (h.mem_right hc)
  have hgroup : s'.isGroup w := hv.shows.isGroup_eq
  have hempty := hw.shows.slot?_eq .right
  have hne : c ≠ w := by
    rintro rfl
    exact hv.notMem h.after (h.mem_right hc) hv.shows.mem
  rw [setRight, setSlot_detach hgroup]
  have hfill := hout.spare_fill hw hself hne hw.shows.mem hw.shows.isGroup_eq hempty
  rw [Tree.find_top rfl, Tree.replace_top rfl] at hfill
  exact ⟨hout.fill_spare hw hself hne hw.shows.mem hw.shows.isGroup_eq, hfill⟩

/-! ## Into the query -/

section Replace

variable (h : Puts s s' id new) (hx : new.id? = some x) (hu : s'.Spare c u)

include h hx hu

theorem Puts.spare_replaceSelf : (s'.replaceSelf x c).Spare x new := by
  have hmem := h.mem_top hx
  have hbeside := hu.beside h.after
  have hshows := hbeside.replaceSelf_self hmem
  rw [← h.after.view_eq_find hmem, h.view_top hx] at hshows
  refine ⟨hshows, ?_⟩
  rw [hbeside.root_replaceSelf hmem]
  split
  · exact (hbeside.fits hmem).ne_self.symm
  · assumption

/-- A spare tree that has nothing to do with it stays. -/
theorem Spare.replaceSelf (hv : s'.Spare other v) (hne : other ≠ c) :
    (s'.replaceSelf x c).Spare other v := by
  have hmem := h.mem_top hx
  have hbeside := hu.beside h.after
  refine ⟨hbeside.replaceSelf_of_ne hmem hv.shows hv.ne_root hne, ?_⟩
  rw [hbeside.root_replaceSelf hmem]
  split
  · exact hne
  · exact hv.ne_root

end Replace

/-- A spare tree stays when another one comes into the query. -/
theorem Spare.fill (h : Puts s s' id new) (hx : new.id? = some x) (hgroup : s'.isGroup x)
    (hu : s'.Spare c u) (hv : s'.Spare other v) (hne : other ≠ c) :
    (s'.setSlot side x (some c)).Spare other v := by
  refine ⟨(hu.beside h.after).fill_of_ne (h.mem_top hx) hgroup hv.shows hv.ne_root hne, ?_⟩
  rw [root_setSlot]
  exact hv.ne_root

theorem Puts.wrap (h : Puts s s' id new) (hx : new.id? = some x)
    (hw : s'.Spare w (.group w b f .nil .nil)) :
    Puts s (s'.wrap x w) id (.group w b f new .nil) :=
  have hself := h.spare_replaceSelf hx hw
  (h.replaceSelf hx hw.shows hw.ne_root).fill_left hself.shows hself.ne_root

end Store

end SearchQuery
