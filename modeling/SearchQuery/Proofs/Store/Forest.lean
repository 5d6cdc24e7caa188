import SearchQuery.Proofs.Store.Copies
import SearchQuery.Proofs.Store.Views

/-!
# The trees of a store

A node that is in no slot is the top of a tree of its own: the root is one, and what has been taken out
or added is another. `s.Shows top t` says that `t` is the tree below such a node. Different trees have
no node in common, so an operation changes those only whose nodes it names: `Shows.detach` cuts a
subtree off, `Shows.setSlot` hangs one tree into an empty slot of another, `Shows.replaceSelf` puts one
tree in the place of a node of another.
-/

namespace SearchQuery

/-- The tree with its top held together in another way, if that is a group. -/
def Tree.mapForm (f : Group → Group) : Tree → Tree
  | .nil => .nil
  | .leaf id a l => .leaf id a l
  | .group id a g l r => .group id a (f g) l r

namespace Store

variable {s s' : Store} {top other id x c : NodeId} {t u v : Tree}

/-- The tree below a node that is in no slot. -/
structure Shows (s : Store) (top : NodeId) (t : Tree) : Prop where
  holds : s.Holds none t
  id?_eq : t.id? = some top

theorem Holds.find {parent : Option NodeId} {t : Tree} (h : s.Holds parent t) (id : NodeId) :
    ∃ p, s.Holds p (t.find id) := by
  induction t generalizing parent with
  | nil => exact ⟨none, trivial⟩
  | leaf i a l =>
      rw [Tree.find]
      split
      · exact ⟨parent, h⟩
      · exact ⟨none, trivial⟩
  | group i a g l r ihl ihr =>
      rw [Tree.find]
      split
      · exact ⟨parent, h⟩
      · split
        · exact ihr h.2.2
        · exact ihl h.2.1

namespace Shows

theorem free (h : s.Shows top t) : s.parent? top = none :=
  h.holds.parent?_top h.id?_eq

theorem mem (h : s.Shows top t) : top ∈ t.ids :=
  mem_ids_of_id? h.id?_eq

theorem lt_next (h : s.Shows top t) (hx : x ∈ t.ids) : x < s.next :=
  h.holds.lt_size hx

theorem nodup (h : s.Shows top t) (hs : s.WellFormed) : t.ids.Nodup :=
  hs.nodup_ids_of_holds h.holds

theorem view_eq (h : s.Shows top t) (hs : s.WellFormed) : s.view top = t :=
  h.holds.view_eq (h.nodup hs) h.id?_eq

/-- What is shown below a node of the tree is what is found there. -/
theorem view_find (h : s.Shows top t) (hs : s.WellFormed) (hx : x ∈ t.ids) :
    s.view x = t.find x := by
  obtain ⟨p, hfind⟩ := h.holds.find x
  exact hfind.view_eq (hs.nodup_ids_of_holds hfind) (Tree.id?_find hx)

theorem mem_iff (h : s.Shows top t) (hs : s.WellFormed) :
    x ∈ t.ids ↔ Relation.ReflTransGen s.Hangs x top := by
  obtain ⟨n, hn⟩ := exists_node?_of_lt (h.lt_next h.mem)
  rw [← hs.mem_ids_view_iff hn, h.view_eq hs]

/-- Different trees have no node in common. -/
theorem notMem (h : s.Shows top t) (h' : s.Shows other u) (hs : s.WellFormed) (hne : top ≠ other)
    (hx : x ∈ t.ids) : x ∉ u.ids := by
  rw [h.mem_iff hs] at hx
  rw [h'.mem_iff hs]
  intro hx'
  induction hx using Relation.ReflTransGen.head_induction_on with
  | refl =>
      rcases hx'.cases_head with heq | ⟨p, hp, -⟩
      · exact hne heq
      · exact Option.some_ne_none p (hp.symm.trans h.free)
  | head hxy _ ih =>
      rcases hx'.cases_head with rfl | ⟨p, hp, hup⟩
      · exact Option.some_ne_none _ (hxy.symm.trans h'.free)
      · exact ih (hangs_unique hxy hp ▸ hup)

theorem congr (h : s.Shows top t) (heq : ∀ x ∈ t.ids, s'.node? x = s.node? x) :
    s'.Shows top t :=
  ⟨h.holds.congr heq, h.id?_eq⟩

/-- A node of another tree that is not the root can come anywhere into this one. -/
theorem fits (h : s.Shows top t) (hc : s.Shows c u) (hs : s.WellFormed) (hne : c ≠ top)
    (hroot : c ≠ s.root) (hid : id ∈ t.ids) : s.Fits id c := by
  have hnot : id ∉ u.ids := h.notMem hc hs (Ne.symm hne) hid
  refine ⟨hc.lt_next hc.mem, hroot, ?_, fun hup => ?_⟩
  · rintro rfl
    exact hnot hc.mem
  · exact hnot ((hc.mem_iff hs).2 hup.to_reflTransGen)

end Shows

theorem shows_of_view (hs : s.WellFormed) (htop : top < s.next) (hfree : s.parent? top = none)
    (hview : s.view top = t) : s.Shows top t := by
  obtain ⟨n, hn⟩ := exists_node?_of_lt htop
  have hholds := hs.holds_view hn
  rw [← parent?_of_node? hn, hfree, hview] at hholds
  exact ⟨hholds, hview ▸ hs.id?_view hn⟩

/-! ## Cutting off -/

theorem WellFormed.detach (hs : s.WellFormed) (x : NodeId) : (s.detach x).WellFormed := by
  have hm := relinks_detach hs x
  refine hs.relink hm (fun _ _ _ _ htarget => by cases htarget) ?_
  rw [root_detach]
  exact hm.parent?_root hs (.inl rfl)

section Detach

variable (hs : s.WellFormed) (h : s.Shows top t)

include hs h

/-- A node that is taken out leaves the rest of its tree. -/
theorem Shows.detach (hne : x ≠ top) :
    (s.detach x).Shows top (t.replace x .nil) := by
  have hm := relinks_detach hs x
  refine shows_of_view (hs.detach x) ?_ ?_ ?_
  · rw [next, hm.size_eq]
    exact h.lt_next h.mem
  · rw [hm.parent?_out, h.free]
    split <;> rfl
  · rw [view_exchange hs (hs.detach x) hm.label?_eq hm.slot?_out (Ne.symm hne), h.view_eq hs]
    rfl

/-- A node that is taken out is the top of a tree of its own. -/
theorem Shows.detach_self (hx : x ∈ t.ids) : (s.detach x).Shows x (t.find x) := by
  have hm := relinks_detach hs x
  refine shows_of_view (hs.detach x) ?_ ?_ ?_
  · rw [next, hm.size_eq]
    exact h.lt_next hx
  · rw [hm.parent?_out, if_pos rfl]
  · rw [view_exchange_self hs (hs.detach x) hm.label?_eq hm.slot?_out, h.view_find hs hx]

theorem Shows.detach_of_notMem (hx : x ∉ t.ids) : (s.detach x).Shows top t := by
  have hm := relinks_detach hs x
  have hne : top ≠ x := by
    rintro rfl
    exact hx h.mem
  refine shows_of_view (hs.detach x) ?_ ?_ ?_
  · rw [next, hm.size_eq]
    exact h.lt_next h.mem
  · rw [hm.parent?_out, h.free]
    split <;> rfl
  · rw [view_exchange hs (hs.detach x) hm.label?_eq hm.slot?_out hne, h.view_eq hs]
    exact Tree.replace_of_notMem hx _

end Detach

/-! ## Bringing two trees together -/

/-- Two trees of a store, the second of which is not the query. -/
structure Beside (s : Store) (top : NodeId) (t : Tree) (c : NodeId) (u : Tree) : Prop where
  wellFormed : s.WellFormed
  shows : s.Shows top t
  shows_other : s.Shows c u
  ne : c ≠ top
  ne_root : c ≠ s.root

namespace Beside

theorem notMem (h : s.Beside top t c u) (hx : x ∈ t.ids) : x ∉ u.ids :=
  h.shows.notMem h.shows_other h.wellFormed (Ne.symm h.ne) hx

theorem fits (h : s.Beside top t c u) (hid : id ∈ t.ids) : s.Fits id c :=
  h.shows.fits h.shows_other h.wellFormed h.ne h.ne_root hid

theorem slot?_ne (h : s.Beside top t c u) (side : Tree.Side) (x : NodeId) :
    s.slot? side x ≠ some c := fun hx =>
  Option.some_ne_none x ((h.wellFormed.hangs_of_slot hx).symm.trans h.shows_other.free)

end Beside

/-- Where only one node is changed, a slot of it that stays shows what it showed. -/
theorem viewSlot_update (hs : s.WellFormed) (hs' : s'.WellFormed) (hid : id < s.next)
    (hlabel : ∀ x ≠ id, s'.label? x = s.label? x)
    (hslot : ∀ side, ∀ x ≠ id, s'.slot? side x = s.slot? side x) {side : Tree.Side}
    (hside : s'.slot? side id = s.slot? side id) : s'.viewSlot side id = s.viewSlot side id := by
  rw [viewSlot, viewSlot, hside]
  cases hc : s.slot? side id with
  | none => rfl
  | some c =>
      refine (view_update hs hs' hid hlabel hslot c).trans ?_
      exact Tree.replace_of_notMem (hs.notMem_view_of_slot hc) _

theorem Shows.parent?_relinks {moved : Option NodeId} {target : Option (Tree.Side × NodeId)}
    (h : s.Shows top t) (hm : Relinks s s' moved target) (hne : moved ≠ some top) :
    s'.parent? top = none := by
  rw [hm.parent?_eq, if_neg hne, h.free]
  split <;> rfl

namespace Beside

section Fill

variable {side : Tree.Side} (h : s.Beside top t c u) (hid : id ∈ t.ids) (hgroup : s.isGroup id)
  (hempty : s.slot? side id = none)

include h

theorem wellFormed_fill (hid : id ∈ t.ids) : (s.setSlot side id (some c)).WellFormed :=
  h.wellFormed.setSlot fun _ hd => Option.some.inj hd ▸ h.fits hid

theorem relinks_fill (hgroup : s.isGroup id) :
    Relinks s (s.setSlot side id (some c)) (some c) (some (side, id)) :=
  relinks_setSlot h.wellFormed hgroup
    (fun _ hd => Option.some.inj hd ▸ h.shows_other.lt_next h.shows_other.mem) side

theorem slot?_fill (hgroup : s.isGroup id) (side' : Tree.Side) (x : NodeId) :
    (s.setSlot side id (some c)).slot? side' x =
      if x = id ∧ side' = side then some c else s.slot? side' x := by
  rw [(h.relinks_fill hgroup).slot?_eq, if_neg (h.slot?_ne side' x)]
  simp only [Option.some.injEq, Prod.mk.injEq, and_comm, eq_comm]

include hid hgroup

theorem view_fill (y : NodeId) : (s.setSlot side id (some c)).view y =
    (s.view y).replace id ((s.setSlot side id (some c)).view id) :=
  view_update h.wellFormed (h.wellFormed_fill hid) (h.shows.lt_next hid)
    (fun x _ => (h.relinks_fill hgroup).label?_eq x)
    (fun side' x hx => (h.slot?_fill hgroup side' x).trans (if_neg fun heq => hx heq.1)) y

theorem fill_of_ne (hv : s.Shows other v) (htop : other ≠ top) (hother : other ≠ c) :
    (s.setSlot side id (some c)).Shows other v := by
  have hm : Relinks s (s.setSlot side id (some c)) _ _ := h.relinks_fill hgroup
  refine shows_of_view (h.wellFormed_fill hid) ?_
    (hv.parent?_relinks hm (by simpa using Ne.symm hother)) ?_
  · rw [next, hm.size_eq]
    exact hv.lt_next hv.mem
  · rw [h.view_fill hid hgroup, hv.view_eq h.wellFormed]
    exact Tree.replace_of_notMem (h.shows.notMem hv h.wellFormed (Ne.symm htop) hid) _

/-- A tree comes into an empty slot of another one. -/
theorem fill (hempty : s.slot? side id = none) :
    (s.setSlot side id (some c)).Shows top (t.replace id ((t.find id).withSide side u)) := by
  have hm : Relinks s (s.setSlot side id (some c)) _ _ := h.relinks_fill hgroup
  have hs' : (s.setSlot side id (some c)).WellFormed := h.wellFormed_fill hid
  refine shows_of_view hs' ?_ (h.shows.parent?_relinks hm (by simpa using h.ne)) ?_
  · rw [next, hm.size_eq]
    exact h.shows.lt_next h.shows.mem
  · rw [h.view_fill hid hgroup, h.shows.view_eq h.wellFormed, ← h.shows.view_find h.wellFormed hid]
    congr 1
    -- the slot shows what came into it, and the other one what it showed
    obtain ⟨a, g, hl⟩ := isGroup_iff_label?.1 hgroup
    have hfilled : (s.setSlot side id (some c)).viewSlot side id = u := by
      rw [viewSlot, h.slot?_fill hgroup, if_pos ⟨rfl, rfl⟩, Option.elim_some,
        h.view_fill hid hgroup, h.shows_other.view_eq h.wellFormed]
      exact Tree.replace_of_notMem (h.notMem hid) _
    have hkept : ∀ side' ≠ side, (s.setSlot side id (some c)).viewSlot side' id =
        s.viewSlot side' id := fun side' hside =>
      viewSlot_update h.wellFormed hs' (h.shows.lt_next hid) (fun x _ => hm.label?_eq x)
        (fun side' x hx => (h.slot?_fill hgroup side' x).trans (if_neg fun heq => hx heq.1))
        ((h.slot?_fill hgroup side' id).trans (if_neg fun heq => hside heq.2))
    rw [hs'.view_eq_group ((hm.label?_eq id).trans hl), h.wellFormed.view_eq_group hl]
    cases side with
    | left => rw [hfilled, hkept .right (by simp), Tree.withSide]
    | right => rw [hfilled, hkept .left (by simp), Tree.withSide]

end Fill

section Replace

variable (h : s.Beside top t c u) (hid : id ∈ t.ids)

include h hid

theorem wellFormed_replaceSelf : (s.replaceSelf id c).WellFormed :=
  h.wellFormed.replaceSelf (h.fits hid)

theorem root_replaceSelf : (s.replaceSelf id c).root = if id = s.root then c else s.root :=
  Store.root_replaceSelf h.wellFormed (h.fits hid).ne_self.symm

theorem exists_relinks_replaceSelf :
    ∃ target, s.StandsIn id target ∧ Relinks s (s.replaceSelf id c) (some c) target := by
  obtain ⟨target, htarget⟩ := h.wellFormed.exists_standsIn id
  exact ⟨target, htarget, relinks_replaceSelf_of_standsIn h.wellFormed (h.fits hid).ne_self.symm
    (h.fits hid).lt_next htarget⟩

theorem slot?_replaceSelf (side : Tree.Side) (x : NodeId) :
    (s.replaceSelf id c).slot? side x =
      if s.slot? side x = some id then some c else s.slot? side x := by
  obtain ⟨target, htarget, hm⟩ := h.exists_relinks_replaceSelf hid
  rw [hm.slot?_eq, if_neg (h.slot?_ne side x)]
  refine if_congr ?_ rfl rfl
  cases target with
  | none =>
      refine iff_of_false (Option.some_ne_none _).symm fun hx => ?_
      exact Option.some_ne_none x ((h.wellFormed.hangs_of_slot hx).symm.trans htarget)
  | some slot =>
      obtain ⟨side', p⟩ := slot
      constructor
      · rintro ⟨⟩
        exact htarget
      · intro hx
        obtain rfl := hangs_unique (h.wellFormed.hangs_of_slot htarget)
          (h.wellFormed.hangs_of_slot hx)
        rw [h.wellFormed.side_unique htarget hx]

theorem replaceSelf_self : (s.replaceSelf id c).Shows id (t.find id) := by
  obtain ⟨target, htarget, hm⟩ := h.exists_relinks_replaceSelf hid
  refine shows_of_view (h.wellFormed_replaceSelf hid) ?_ ?_ ?_
  · rw [next, hm.size_eq]
    exact h.shows.lt_next hid
  · exact parent?_replaceSelf h.wellFormed (h.fits hid).ne_self.symm (h.fits hid).lt_next
  · rw [view_exchange_self h.wellFormed (h.wellFormed_replaceSelf hid) hm.label?_eq
      (h.slot?_replaceSelf hid), h.shows.view_find h.wellFormed hid]

theorem view_replaceSelf {y : NodeId} (hne : y ≠ id) :
    (s.replaceSelf id c).view y = (s.view y).replace id u := by
  obtain ⟨target, htarget, hm⟩ := h.exists_relinks_replaceSelf hid
  have hview : ∀ {y}, y ≠ id → (s.replaceSelf id c).view y =
      (s.view y).replace id ((s.replaceSelf id c).view c) := fun hne =>
    view_exchange h.wellFormed (h.wellFormed_replaceSelf hid) hm.label?_eq
      (h.slot?_replaceSelf hid) hne
  have hc : (s.replaceSelf id c).view c = u := by
    rw [hview (h.fits hid).ne_self, h.shows_other.view_eq h.wellFormed]
    exact Tree.replace_of_notMem (h.notMem hid) _
  rw [hview hne, hc]

/-- A tree comes into the place of a node below the top of another one. -/
theorem replaceSelf (hne : id ≠ top) : (s.replaceSelf id c).Shows top (t.replace id u) := by
  obtain ⟨target, htarget, hm⟩ := h.exists_relinks_replaceSelf hid
  refine shows_of_view (h.wellFormed_replaceSelf hid) ?_
    (h.shows.parent?_relinks hm (by simpa using h.ne)) ?_
  · rw [next, hm.size_eq]
    exact h.shows.lt_next h.shows.mem
  · rw [h.view_replaceSelf hid (Ne.symm hne), h.shows.view_eq h.wellFormed]

/-- A tree that has nothing to do with it stays. -/
theorem replaceSelf_of_ne (hv : s.Shows other v) (htop : other ≠ top) (hother : other ≠ c) :
    (s.replaceSelf id c).Shows other v := by
  obtain ⟨target, htarget, hm⟩ := h.exists_relinks_replaceSelf hid
  have hnot : id ∉ v.ids := h.shows.notMem hv h.wellFormed (Ne.symm htop) hid
  refine shows_of_view (h.wellFormed_replaceSelf hid) ?_
    (hv.parent?_relinks hm (by simpa using Ne.symm hother)) ?_
  · rw [next, hm.size_eq]
    exact hv.lt_next hv.mem
  · rw [h.view_replaceSelf hid, hv.view_eq h.wellFormed, Tree.replace_of_notMem hnot]
    rintro rfl
    exact hnot hv.mem

end Replace

theorem replaceSelf_top (h : s.Beside top t c u) : (s.replaceSelf top c).Shows c u := by
  have hid := h.shows.mem
  obtain ⟨target, htarget, hm⟩ := h.exists_relinks_replaceSelf hid
  obtain rfl : target = none := by
    cases target with
    | none => rfl
    | some slot =>
        have hhangs := h.wellFormed.hangs_of_slot htarget
        exact absurd (hhangs.symm.trans h.shows.free) (Option.some_ne_none _)
  refine shows_of_view (h.wellFormed_replaceSelf hid) ?_ ?_ ?_
  · rw [next, hm.size_eq]
    exact h.shows_other.lt_next h.shows_other.mem
  · rw [hm.parent?_out, if_pos rfl]
  · rw [h.view_replaceSelf hid h.ne, h.shows_other.view_eq h.wellFormed,
      Tree.replace_of_notMem (h.notMem hid)]

end Beside

/-! ## Saying something else of a node -/

theorem WellFormed.of_links (hs : s.WellFormed) (hparent : ∀ x, s'.parent? x = s.parent? x)
    (hslot : ∀ side x, s'.slot? side x = s.slot? side x) (hroot : s'.root = s.root) :
    s'.WellFormed := by
  have hhangs : s'.Hangs = s.Hangs := by
    funext x p
    rw [Hangs, Hangs, hparent]
  refine ⟨fun hc => ?_, fun hc => ?_, fun hl => ?_, ?_, ?_⟩
  · rw [hhangs]
    exact hs.hangs_of_slot ((hslot _ _).symm.trans hc)
  · rw [hhangs] at hc
    obtain ⟨side, hside⟩ := hs.slot_of_hangs hc
    exact ⟨side, (hslot side _).trans hside⟩
  · rw [hslot] at hl ⊢
    exact hs.left_ne_right hl
  · rw [hhangs]
    exact hs.acyclic
  · rw [hparent, hroot]
    exact hs.root_free

/-- The node `id` may say something else in `s'`, and that is all. -/
structure Relabels (s s' : Store) (id : NodeId) : Prop where
  parent?_eq : ∀ x, s'.parent? x = s.parent? x
  slot?_eq : ∀ side x, s'.slot? side x = s.slot? side x
  label?_eq : ∀ x ≠ id, s'.label? x = s.label? x
  next_eq : s'.next = s.next
  root_eq : s'.root = s.root

namespace Relabels

theorem modify {f : Node → Node} (hparent : ∀ n, (f n).parent = n.parent)
    (hslot : ∀ n side, (f n).slot side = n.slot side) (s : Store) (id : NodeId) :
    Relabels s (s.modify id f) id where
  parent?_eq := parent?_modify hparent s id
  slot?_eq side x := by
    rw [slot?, node?_modify]
    split
    · rw [Option.bind_map]
      exact congrArg (s.node? x).bind (funext fun n => hslot n side)
    · rfl
  label?_eq x hx := by rw [label?, node?_modify, if_neg (Ne.symm hx), label?]
  next_eq := size_modify s id f
  root_eq := rfl

theorem modifyAttrs (s : Store) (id : NodeId) (f : Attributes → Attributes) :
    Relabels s (s.modifyAttrs id f) id :=
  modify (f := fun n => { n with attrs := f n.attrs }) (fun _ => rfl)
    (fun _ side => by cases side <;> rfl) s id

theorem modifyForm (s : Store) (id : NodeId) (f : Group → Group) :
    Relabels s (s.modifyForm id f) id := by
  refine modify (fun n => ?_) (fun n side => ?_) s id
  · obtain ⟨a, content, p⟩ := n
    cases content <;> rfl
  · obtain ⟨a, content, p⟩ := n
    cases content <;> cases side <;> rfl

theorem wellFormed (h : Relabels s s' id) (hs : s.WellFormed) : s'.WellFormed :=
  hs.of_links h.parent?_eq h.slot?_eq h.root_eq

theorem viewSlot_eq (h : Relabels s s' id) (hs : s.WellFormed) (hid : id < s.next)
    (side : Tree.Side) : s'.viewSlot side id = s.viewSlot side id :=
  viewSlot_update hs (h.wellFormed hs) hid h.label?_eq (fun side x _ => h.slot?_eq side x)
    (h.slot?_eq side id)

theorem shows (h : Relabels s s' id) (hs : s.WellFormed) (ht : s.Shows top t) (hid : id ∈ t.ids) :
    s'.Shows top (t.replace id (s'.view id)) := by
  refine shows_of_view (h.wellFormed hs) ?_ ?_ ?_
  · rw [h.next_eq]
    exact ht.lt_next ht.mem
  · rw [h.parent?_eq]
    exact ht.free
  · rw [view_update hs (h.wellFormed hs) (ht.lt_next hid) h.label?_eq
      (fun side x _ => h.slot?_eq side x), ht.view_eq hs]

theorem shows_of_notMem (h : Relabels s s' id) (hs : s.WellFormed) (ht : s.Shows top t)
    (hid : id < s.next) (hnot : id ∉ t.ids) : s'.Shows top t := by
  refine shows_of_view (h.wellFormed hs) ?_ ?_ ?_
  · rw [h.next_eq]
    exact ht.lt_next ht.mem
  · rw [h.parent?_eq]
    exact ht.free
  · rw [view_update hs (h.wellFormed hs) hid h.label?_eq (fun side x _ => h.slot?_eq side x),
      ht.view_eq hs, Tree.replace_of_notMem hnot]

end Relabels

theorem label?_modifyAttrs (s : Store) (id : NodeId) (f : Attributes → Attributes) :
    (s.modifyAttrs id f).label? id = (s.label? id).map fun label => (f label.1, label.2) := by
  rw [label?, Store.modifyAttrs, node?_modify, if_pos rfl, label?, Option.map_map, Option.map_map]
  refine congrArg (Option.map · (s.node? id)) (funext fun n => ?_)
  obtain ⟨a, content, p⟩ := n
  cases content <;> rfl

theorem label?_modifyForm (s : Store) (id : NodeId) (f : Group → Group) :
    (s.modifyForm id f).label? id =
      (s.label? id).map fun label => (label.1, label.2.map (fun l => l) f) := by
  rw [label?, Store.modifyForm, node?_modify, if_pos rfl, label?, Option.map_map, Option.map_map]
  refine congrArg (Option.map · (s.node? id)) (funext fun n => ?_)
  obtain ⟨a, content, p⟩ := n
  cases content <;> rfl

/-- The node has other attributes, and shows what it showed otherwise. -/
theorem WellFormed.view_modifyAttrs (hs : s.WellFormed) (hid : id < s.next)
    (f : Attributes → Attributes) :
    (s.modifyAttrs id f).view id = (s.view id).withAttrs (f (s.attrs id)) := by
  have h := Relabels.modifyAttrs s id f
  have hlabel := label?_modifyAttrs s id f
  cases hl : s.label? id with
  | none =>
      rw [hl] at hlabel
      rw [view_eq_nil hl, view_eq_nil hlabel, Tree.withAttrs]
  | some label =>
      obtain ⟨a, l | g⟩ := label
      · rw [hl] at hlabel
        rw [view_eq_leaf hl, view_eq_leaf hlabel, Tree.withAttrs, attrs_of_label? hl]
      · rw [hl] at hlabel
        rw [hs.view_eq_group hl, (h.wellFormed hs).view_eq_group hlabel, Tree.withAttrs,
          attrs_of_label? hl, h.viewSlot_eq hs hid, h.viewSlot_eq hs hid]

/-- The group is held together in another way, and shows what it showed otherwise. -/
theorem WellFormed.view_modifyForm (hs : s.WellFormed) (hid : id < s.next) (f : Group → Group) :
    (s.modifyForm id f).view id = (s.view id).mapForm f := by
  have h := Relabels.modifyForm s id f
  have hlabel := label?_modifyForm s id f
  cases hl : s.label? id with
  | none =>
      rw [hl] at hlabel
      rw [view_eq_nil hl, view_eq_nil hlabel, Tree.mapForm]
  | some label =>
      obtain ⟨a, l | g⟩ := label
      · rw [hl] at hlabel
        rw [view_eq_leaf hl, view_eq_leaf hlabel, Tree.mapForm]
      · rw [hl] at hlabel
        rw [hs.view_eq_group hl, (h.wellFormed hs).view_eq_group hlabel, Tree.mapForm,
          h.viewSlot_eq hs hid, h.viewSlot_eq hs hid]

end Store

end SearchQuery
