import SearchQuery.Proofs.Query.Clauses
import SearchQuery.Proofs.Store.OfTree

/-!
# Walks over the table

The nodes below a node and the clauses of a group can be listed in two ways. A recursion lists what
a node comes to by listing what its slots come to; a walk, `Walks`, keeps a stack of pending nodes and
puts in the place of the one on top what is inside it. On a well-formed store the walks over all
nodes, `Visits`, and over link groups only, `Opens`, run empty, and what they have listed is what the
recursion comes to, `walks_agree_with_recursion`.

The clauses of a group share out the leaves below it: each leaf belongs to just one of them.
-/

namespace SearchQuery

namespace Tree

theorem preorder_eq_flatMap (pending : List Tree) : preorder pending = pending.flatMap ids := by
  fun_induction preorder pending with
  | case1 => rfl
  | case2 pending ih => exact ih
  | case3 id a l pending ih =>
      rw [ih]
      rfl
  | case4 id a g l r pending ih =>
      rw [ih, List.flatMap_cons, List.flatMap_cons, List.flatMap_cons, ids, List.cons_append,
        List.append_assoc]

end Tree

theorem eq_of_nodup_flatMap {α β : Type} {f : α → List β} {places : List α}
    (h : (places.flatMap f).Nodup) {a b : α} (ha : a ∈ places) (hb : b ∈ places) {x : β}
    (hxa : x ∈ f a) (hxb : x ∈ f b) : a = b := by
  induction places with
  | nil => cases ha
  | cons place places ih =>
      rw [List.flatMap_cons, List.nodup_append] at h
      obtain ⟨-, hrest, hdisjoint⟩ := h
      have hapart : ∀ {c}, c ∈ places → x ∈ f c → x ∉ f place := fun hc hxc hx =>
        hdisjoint x hx x (List.mem_flatMap.2 ⟨_, hc, hxc⟩) rfl
      rw [List.mem_cons] at ha hb
      rcases ha with rfl | ha
      · rcases hb with rfl | hb
        · rfl
        · exact absurd hxa (hapart hb hxb)
      · rcases hb with rfl | hb
        · exact absurd hxb (hapart ha hxa)
        · exact ih hrest ha hb

namespace Store

variable {s : Store} {id : NodeId}

/-! ## A stack of pending nodes -/

/-- A walk with a stack of pending nodes, and what it lists until nothing is pending. Of the node on
top it lists some nodes, and what is inside comes in its place. -/
inductive Walks (listed inside : NodeId → List NodeId) : List NodeId → List NodeId → Prop
  | done : Walks listed inside [] []
  | next {id : NodeId} {pending out : List NodeId}
      (h : Walks listed inside (inside id ++ pending) out) :
      Walks listed inside (id :: pending) (listed id ++ out)

namespace Walks

variable {listed inside : NodeId → List NodeId} {pending pending' out out' : List NodeId}

theorem unique (h : Walks listed inside pending out) (h' : Walks listed inside pending out') :
    out' = out := by
  induction h generalizing out' with
  | done => cases h'; rfl
  | next _ ih =>
      cases h' with
      | next h' => rw [ih h']

/-- What is on top of the stack is done with before what is below it is looked at. -/
theorem append (h : Walks listed inside pending out) (h' : Walks listed inside pending' out') :
    Walks listed inside (pending ++ pending') (out ++ out') := by
  induction h with
  | done => exact h'
  | next _ ih =>
      rw [List.append_assoc] at ih ⊢
      exact .next ih

theorem flatMap {f : NodeId → List NodeId} (h : ∀ id ∈ pending, Walks listed inside [id] (f id)) :
    Walks listed inside pending (pending.flatMap f) := by
  induction pending with
  | nil => exact .done
  | cons id pending ih =>
      rw [List.forall_mem_cons] at h
      exact h.1.append (ih h.2)

theorem singleton (h : Walks listed inside (inside id) out) :
    Walks listed inside [id] (listed id ++ out) := by
  refine .next ?_
  rwa [List.append_nil]

theorem forall_mem (h : Walks listed inside pending out) {p : NodeId → Prop}
    (hp : ∀ id, p id → ∀ x ∈ listed id ++ inside id, p x) (hpending : ∀ id ∈ pending, p id) :
    ∀ id ∈ out, p id := by
  induction h with
  | done => exact hpending
  | next _ ih =>
      rw [List.forall_mem_cons] at hpending
      have hid := List.forall_mem_append.1 (hp _ hpending.1)
      exact List.forall_mem_append.2 ⟨hid.1, ih (List.forall_mem_append.2 ⟨hid.2, hpending.2⟩)⟩

theorem flatMap_eq (h : Walks listed inside pending out) {α : Type} {f : NodeId → List α}
    (hf : ∀ id, f id = (listed id).flatMap f ++ (inside id).flatMap f) :
    pending.flatMap f = out.flatMap f := by
  induction h with
  | done => rfl
  | next _ ih =>
      rw [List.flatMap_cons, hf, List.append_assoc, ← List.flatMap_append, ih, List.flatMap_append]

end Walks

def Visits (s : Store) : List NodeId → List NodeId → Prop :=
  Walks (fun id => [id]) s.children

def Opens (s : Store) : List NodeId → List NodeId → Prop :=
  Walks (fun id => if s.isLink id then [] else [id]) fun id =>
    if s.isLink id then s.children id else []

theorem opens_of_isLink {out : List NodeId} (hlink : s.isLink id)
    (h : s.Opens (s.children id) out) : s.Opens [id] out := by
  have hwalk : s.Opens [id] ((if s.isLink id then [] else [id]) ++ out) :=
    Walks.singleton (by rwa [if_pos hlink])
  rwa [if_pos hlink] at hwalk

theorem opens_of_not_isLink (hlink : ¬ s.isLink id) : s.Opens [id] [id] := by
  have hwalk : s.Opens [id] ((if s.isLink id then [] else [id]) ++ []) :=
    Walks.singleton (by rw [if_neg hlink]; exact .done)
  rwa [if_neg hlink] at hwalk

/-! ## The children of a node -/

def Reaches (s : Store) : NodeId → NodeId → Prop :=
  Relation.ReflTransGen fun parent child => child ∈ s.children parent

theorem mem_children_iff {child : NodeId} :
    child ∈ s.children id ↔ ∃ side, s.slot? side id = some child := by
  rw [children, List.mem_append, Option.mem_toList, Option.mem_toList]
  constructor
  · rintro (h | h)
    · exact ⟨.left, h⟩
    · exact ⟨.right, h⟩
  · rintro ⟨side, h⟩
    cases side with
    | left => exact .inl h
    | right => exact .inr h

theorem children_of_node?_leaf {a : Attributes} {l : Leaf} {p : Option NodeId}
    (h : s.node? id = some ⟨a, .leaf l, p⟩) : s.children id = [] := by
  rw [children, left?, right?, h]
  rfl

theorem children_of_node?_group {a : Attributes} {g : Group} {l r p : Option NodeId}
    (h : s.node? id = some ⟨a, .group g l r, p⟩) : s.children id = l.toList ++ r.toList := by
  rw [children, left?, right?, h]
  rfl

theorem exists_node?_of_isLink (h : s.isLink id) :
    ∃ a g l r p, s.node? id = some ⟨a, .group g l r, p⟩ ∧ g.isLink a := by
  rw [isLink] at h
  split at h
  · next a g l r p hn => exact ⟨a, g, l, r, p, hn, (Bool.and_eq_true_iff.1 h).1⟩
  · cases h

theorem lt_next_of_isLink (h : s.isLink id) : id < s.next := by
  obtain ⟨_, _, _, _, _, hn, -⟩ := exists_node?_of_isLink h
  exact lt_size_of_node? hn

theorem isGroup_of_isLink (h : s.isLink id) : s.isGroup id := by
  obtain ⟨_, _, _, _, _, hn, -⟩ := exists_node?_of_isLink h
  exact isGroup_of_node? hn

namespace WellFormed

theorem mem_children_iff_hangs (h : s.WellFormed) {child : NodeId} :
    child ∈ s.children id ↔ s.Hangs child id :=
  mem_children_iff.trans ⟨fun ⟨_, hside⟩ => h.hangs_of_slot hside, h.slot_of_hangs⟩

theorem lt_next_of_mem_children (h : s.WellFormed) {child : NodeId} (hchild : child ∈ s.children id) :
    child < s.next := by
  obtain ⟨n, hn, -⟩ := exists_node?_of_hangs (h.mem_children_iff_hangs.1 hchild)
  exact lt_size_of_node? hn

/-- The way down leads to a node just if the way up leads back. -/
theorem reaches_iff (h : s.WellFormed) {x : NodeId} :
    s.Reaches id x ↔ Relation.ReflTransGen s.Hangs x id := by
  have hstep : (fun parent child => child ∈ s.children parent) = Function.swap s.Hangs :=
    funext fun parent => funext fun child => propext h.mem_children_iff_hangs
  rw [Reaches, hstep, Relation.reflTransGen_swap]

theorem induction_below (h : s.WellFormed) {motive : NodeId → Prop}
    (step : ∀ id < s.next, (∀ child ∈ s.children id, motive child) → motive id)
    (hid : id < s.next) : motive id := by
  obtain ⟨n, hn⟩ := exists_node?_of_lt hid
  have hholds := h.holds_view hn
  have htop := h.id?_view hn
  generalize n.parent = parent at hholds
  generalize s.view id = t at hholds htop
  clear hn
  induction t generalizing id parent with
  | nil => cases htop
  | leaf i a l =>
      cases htop
      refine step _ hid fun child hchild => ?_
      rw [children_of_node?_leaf hholds] at hchild
      cases hchild
  | group i a g l r ihl ihr =>
      cases htop
      refine step _ hid fun child hchild => ?_
      have hlt := h.lt_next_of_mem_children hchild
      rw [children_of_node?_group hholds.1, List.mem_append, Option.mem_toList,
        Option.mem_toList] at hchild
      rcases hchild with hchild | hchild
      · exact ihl hlt _ hholds.2.1 hchild
      · exact ihr hlt _ hholds.2.2 hchild

/-! ## The nodes below a node -/

theorem view_leaf {a : Attributes} {l : Leaf} {p : Option NodeId}
    (hn : s.node? id = some ⟨a, .leaf l, p⟩) : s.view id = .leaf id a l := by
  obtain ⟨depth, hsize⟩ := Nat.exists_eq_add_of_le' (Nat.one_le_of_lt (lt_size_of_node? hn))
  rw [view, hsize, viewTo_leaf hn]

end WellFormed

theorem descendants_eq_ids (s : Store) (id : NodeId) : s.descendants id = (s.view id).ids := by
  rw [descendants, Tree.preorder_eq_flatMap, List.flatMap_singleton]

namespace WellFormed

theorem mem_descendants_iff (h : s.WellFormed) (hid : id < s.next) {x : NodeId} :
    x ∈ s.descendants id ↔ s.Reaches id x := by
  obtain ⟨n, hn⟩ := exists_node?_of_lt hid
  rw [descendants_eq_ids, h.mem_ids_view_iff hn, h.reaches_iff]

theorem nodup_descendants (h : s.WellFormed) (hid : id < s.next) : (s.descendants id).Nodup := by
  obtain ⟨n, hn⟩ := exists_node?_of_lt hid
  rw [descendants_eq_ids]
  exact h.nodup_ids_of_holds (h.holds_view hn)

theorem descendants_eq (h : s.WellFormed) (hid : id < s.next) :
    s.descendants id = id :: (s.children id).flatMap s.descendants := by
  have hslot : ∀ slot : Option NodeId,
      (slot.elim .nil s.view).ids = slot.toList.flatMap s.descendants := by
    intro slot
    cases slot with
    | none => rfl
    | some c =>
        rw [Option.toList_some, List.flatMap_singleton, descendants_eq_ids]
        rfl
  obtain ⟨⟨a, content, p⟩, hn⟩ := exists_node?_of_lt hid
  rw [descendants_eq_ids]
  cases content with
  | leaf l =>
      rw [view_leaf hn, children_of_node?_leaf hn]
      rfl
  | group g l r =>
      rw [h.view_group hn, children_of_node?_group hn, Tree.ids, hslot, hslot,
        List.flatMap_append]

theorem visits_descendants (h : s.WellFormed) (hid : id < s.next) :
    s.Visits [id] (s.descendants id) := by
  refine h.induction_below (motive := fun id => s.Visits [id] (s.descendants id)) ?_ hid
  intro id hid ih
  rw [h.descendants_eq hid]
  exact Walks.singleton (Walks.flatMap ih)

/-! ## The clauses of a group -/

theorem root_notMem_view (h : s.WellFormed) {side : Tree.Side} {c : NodeId}
    (hc : s.slot? side id = some c) : s.root ∉ (s.view c).ids := by
  have hhangs := h.hangs_of_slot hc
  obtain ⟨n, hn, -⟩ := exists_node?_of_hangs hhangs
  rw [h.mem_ids_view_iff hn]
  intro hup
  rcases hup.cases_head with rfl | ⟨p, hp, -⟩
  · exact Option.some_ne_none id (hhangs.symm.trans h.root_free)
  · exact Option.some_ne_none p (hp.symm.trans h.root_free)

theorem sequence_of_node?_group (h : s.WellFormed) {a : Attributes} {g : Group}
    {l r p : Option NodeId} (hn : s.node? id = some ⟨a, .group g l r, p⟩) :
    s.sequence id = ((l.elim .nil s.view).opened ++ (r.elim .nil s.view).opened).filterMap Tree.id? := by
  have hslot : ∀ side {c : Option NodeId}, s.slot? side id = c →
      s.root ∉ (c.elim .nil s.view).ids := by
    rintro side (- | c) hc
    · exact List.not_mem_nil
    · exact h.root_notMem_view hc
  have hl : s.slot? .left id = l := slot?_of_node? hn _
  have hr : s.slot? .right id = r := slot?_of_node? hn _
  rw [sequence, h.view_group hn, Tree.clauses_eq_opened (hslot .left hl) (hslot .right hr)]

/-- A link group in a slot is opened to its own clauses, and any other node is a clause. -/
theorem filterMap_opened_view (h : s.WellFormed) {side : Tree.Side} {c : NodeId}
    (hc : s.slot? side id = some c) :
    (s.view c).opened.filterMap Tree.id? = if s.isLink c then s.sequence c else [c] := by
  have hhangs := h.hangs_of_slot hc
  obtain ⟨⟨a, content, p⟩, hn, -⟩ := exists_node?_of_hangs hhangs
  cases content with
  | leaf l =>
      have hlink : s.isLink c = false := by rw [isLink, hn]
      rw [view_leaf hn, hlink]
      rfl
  | group g l r =>
      have hroot : s.isRoot c = false := by
        refine decide_eq_false ?_
        rintro rfl
        exact Option.some_ne_none id (hhangs.symm.trans h.root_free)
      have hlink : s.isLink c = g.isLink a := by rw [isLink, hn]; simp [hroot]
      rw [h.view_group hn, hlink]
      cases hopen : g.isLink a with
      | true => rw [Tree.opened_link hopen, h.sequence_of_node?_group hn, if_pos rfl]
      | false =>
          rw [Tree.opened_of_not_link hopen]
          rfl

theorem sequence_eq (h : s.WellFormed) (hid : id < s.next) :
    s.sequence id = (s.children id).flatMap fun c => if s.isLink c then s.sequence c else [c] := by
  have hslot : ∀ side {c : Option NodeId}, s.slot? side id = c →
      (c.elim .nil s.view).opened.filterMap Tree.id? =
        c.toList.flatMap fun c => if s.isLink c then s.sequence c else [c] := by
    rintro side (- | c) hc
    · rfl
    · rw [Option.toList_some, List.flatMap_singleton]
      exact h.filterMap_opened_view hc
  obtain ⟨⟨a, content, p⟩, hn⟩ := exists_node?_of_lt hid
  cases content with
  | leaf l =>
      rw [sequence, view_leaf hn, children_of_node?_leaf hn]
      simp [Tree.clauses, Tree.left, Tree.right, Tree.clausesOf]
  | group g l r =>
      have hl : s.slot? .left id = l := slot?_of_node? hn _
      have hr : s.slot? .right id = r := slot?_of_node? hn _
      rw [h.sequence_of_node?_group hn, children_of_node?_group hn, List.filterMap_append,
        List.flatMap_append, hslot .left hl, hslot .right hr]

theorem opens_sequence (h : s.WellFormed) (hid : id < s.next) :
    s.Opens (s.children id) (s.sequence id) := by
  have hclause : ∀ c < s.next, s.Opens [c] (if s.isLink c then s.sequence c else [c]) := by
    intro c hc
    refine h.induction_below
      (motive := fun c => s.Opens [c] (if s.isLink c then s.sequence c else [c])) ?_ hc
    intro c hc ih
    split
    · next hlink =>
        rw [h.sequence_eq hc]
        exact opens_of_isLink hlink (Walks.flatMap ih)
    · next hlink => exact opens_of_not_isLink hlink
  rw [h.sequence_eq hid]
  exact Walks.flatMap fun c hc => hclause c (h.lt_next_of_mem_children hc)

theorem sequence_lt_next (h : s.WellFormed) (hid : id < s.next) {c : NodeId}
    (hc : c ∈ s.sequence id) : c < s.next := by
  refine (h.opens_sequence hid).forall_mem (p := (· < s.next)) ?_
    (fun c hc => h.lt_next_of_mem_children hc) c hc
  intro c hc x hx
  split at hx
  · exact h.lt_next_of_mem_children hx
  · exact List.mem_singleton.1 hx ▸ hc

/-! ## The leaves below a group -/

/-- The leaves at and below a node, from left to right. -/
theorem filter_descendants_of_isGroup (h : s.WellFormed) (hid : id < s.next) (hgroup : s.isGroup id) :
    (s.descendants id).filter (!s.isGroup ·) =
      (s.children id).flatMap fun c => (s.descendants c).filter (!s.isGroup ·) := by
  rw [h.descendants_eq hid, List.filter_cons_of_neg (by simp [hgroup]), List.filter_flatMap]

/-- The clauses of a group share out the leaves strictly below it. -/
theorem filter_tail_descendants (h : s.WellFormed) (hid : id < s.next) :
    (s.descendants id).tail.filter (!s.isGroup ·) =
      (s.sequence id).flatMap fun c => (s.descendants c).filter (!s.isGroup ·) := by
  rw [h.descendants_eq hid, List.tail_cons, List.filter_flatMap]
  refine (h.opens_sequence hid).flatMap_eq fun c => ?_
  split
  · next hlink =>
      exact h.filter_descendants_of_isGroup (lt_next_of_isLink hlink) (isGroup_of_isLink hlink)
  · rw [List.flatMap_singleton, List.flatMap_nil, List.append_nil]

theorem existsUnique_clause (h : s.WellFormed) (hid : id < s.next) {x : NodeId}
    (hx : s.Reaches id x) (hne : x ≠ id) (hleaf : ¬ s.isGroup x) :
    ∃! c, c ∈ s.sequence id ∧ s.Reaches c x := by
  have hleaves := h.filter_tail_descendants hid
  have hmem : ∀ {c}, x ∈ (s.descendants c).filter (!s.isGroup ·) ↔ x ∈ s.descendants c := by
    simp [hleaf]
  have hreaches : ∀ {c}, c ∈ s.sequence id →
      (x ∈ (s.descendants c).filter (!s.isGroup ·) ↔ s.Reaches c x) := fun hc =>
    hmem.trans (h.mem_descendants_iff (h.sequence_lt_next hid hc))
  have hbelow : x ∈ (s.descendants id).tail := by
    have hall := (h.mem_descendants_iff hid).2 hx
    rw [h.descendants_eq hid] at hall ⊢
    exact (List.mem_cons.1 hall).resolve_left hne
  have hshared : x ∈ (s.sequence id).flatMap fun c => (s.descendants c).filter (!s.isGroup ·) := by
    rw [← hleaves]
    exact List.mem_filter.2 ⟨hbelow, by simp [hleaf]⟩
  -- a leaf of two clauses would be listed twice
  have hnodup := ((h.nodup_descendants hid).tail).filter (!s.isGroup ·)
  rw [hleaves] at hnodup
  obtain ⟨c, hc, hxc⟩ := List.mem_flatMap.1 hshared
  refine ⟨c, ⟨hc, (hreaches hc).1 hxc⟩, ?_⟩
  rintro d ⟨hd, hxd⟩
  exact eq_of_nodup_flatMap hnodup hd hc ((hreaches hd).2 hxd) hxc

/-- The walk over the nodes below a node and the walk over its clauses end, and list what the
recursion over the slots comes to: a node before what is in its left and then in its right slot, and
link groups opened to the clauses of their own slots. Every node that can be reached is listed once,
and every leaf strictly below the node is at or below just one clause, in the same order. -/
theorem walks_agree_with_recursion (h : s.WellFormed) (hid : id < s.next) :
    ((∀ out, s.Visits [id] out ↔ out = s.descendants id) ∧
      s.descendants id = id :: (s.children id).flatMap s.descendants ∧
      (s.descendants id).Nodup ∧ ∀ x, x ∈ s.descendants id ↔ s.Reaches id x) ∧
    ((∀ out, s.Opens (s.children id) out ↔ out = s.sequence id) ∧
      s.sequence id =
        (s.children id).flatMap fun c => if s.isLink c then s.sequence c else [c]) ∧
    ((s.descendants id).tail.filter (!s.isGroup ·) =
        (s.sequence id).flatMap fun c => (s.descendants c).filter (!s.isGroup ·)) ∧
    ∀ x, s.Reaches id x → x ≠ id → ¬ s.isGroup x → ∃! c, c ∈ s.sequence id ∧ s.Reaches c x := by
  refine ⟨⟨fun out => ⟨(h.visits_descendants hid).unique, ?_⟩, h.descendants_eq hid,
      h.nodup_descendants hid, fun x => h.mem_descendants_iff hid⟩,
    ⟨fun out => ⟨(h.opens_sequence hid).unique, ?_⟩, h.sequence_eq hid⟩,
    h.filter_tail_descendants hid, fun x => h.existsUnique_clause hid⟩
  · rintro rfl
    exact h.visits_descendants hid
  · rintro rfl
    exact h.opens_sequence hid

/-- A link group in the left slot is opened as well, and one inside a clause stays closed. -/
theorem walks_agree_below_left_link :
    let term (id : NodeId) (text : String) : Tree := .leaf id .plain (.term ⟨text, .bare⟩)
    let s := ofTree (.group 0 .plain .plain
      (.group 1 .plain .plain (term 2 "a") (term 3 "b"))
      (.group 4 .plain ⟨.default, true⟩ (term 5 "c") (.group 6 .plain .plain (term 7 "d") .nil)))
    s.WellFormed ∧ 0 < s.next ∧ s.Visits [0] [0, 1, 2, 3, 4, 5, 6, 7] ∧
      s.Opens (s.children 0) [2, 3, 4] ∧ ∃! c, c ∈ s.sequence 0 ∧ s.Reaches c 7 := by
  intro term s
  have hwell : s.WellFormed := wellFormed_ofTree rfl (by decide)
  have hview : s.view 0 = _ := tree_ofTree rfl (by decide)
  have hnext : 0 < s.next := by decide
  obtain ⟨⟨hvisits, -, -, hreaches⟩, ⟨hopens, -⟩, -, hclause⟩ :=
    walks_agree_with_recursion hwell hnext
  have hdescendants : s.descendants 0 = [0, 1, 2, 3, 4, 5, 6, 7] := by
    rw [descendants_eq_ids, hview]
    rfl
  have hsequence : s.sequence 0 = [2, 3, 4] := by
    rw [sequence, hview, Tree.clauses_eq_opened (by decide) (by decide)]
    rfl
  refine ⟨hwell, hnext, (hvisits _).2 hdescendants.symm, (hopens _).2 hsequence.symm,
    hclause 7 ((hreaches 7).1 ?_) (by decide) (by decide)⟩
  rw [hdescendants]
  decide

end WellFormed

end Store

end SearchQuery
