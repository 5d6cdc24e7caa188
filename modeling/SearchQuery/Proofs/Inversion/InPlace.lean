import SearchQuery.Pass.Inversion
import SearchQuery.Proofs.Store.Walks
import SearchQuery.Proofs.Store.Spare

/-!
# Complements in a store

To negate a node is to mark it, to wrap it in a new group, or to move what is in it to a new group;
beside criteria it goes into a new group with a copy of them. From any group of a query on, inverting
comes to what `Tree.invert` makes of the tree there, with the same new numbers, `Store.makes_invert`.
-/

namespace SearchQuery

namespace Store

variable {s s' s'' : Store} {id x c : NodeId} {a : Attributes} {g : Group} {l r t : Tree} {depth : Nat}

/-- A tree with new numbers comes into the place of a node, and its top is the outcome. -/
structure Makes (s : Store) (id : NodeId) (new : Tree × NodeId) (out : NodeId × Store) : Prop where
  puts : Puts s out.2 id new.1
  next_eq : out.2.next = new.2
  top : new.1.id? = some out.1

theorem Makes.modifyAttrs (hs : s.Rooted) (hid : id ∈ s.tree.ids) (f : Attributes → Attributes) :
    s.Makes id ((s.view id).withAttrs (f (s.view id).attrs), s.next) (id, s.modifyAttrs id f) := by
  have htop := hs.id?_view hid
  refine ⟨(Puts.refl hs hid).modifyAttrs htop f, (Relabels.modifyAttrs s id f).next_eq, ?_⟩
  rw [← htop]
  cases s.view id <;> rfl

theorem spare_add (hs : s.Rooted) (a : Attributes) (g : Group) :
    (s.add a (.group g none none)).Spare s.next (.group s.next a g .nil .nil) :=
  (extends_add_group s a g).spare hs rfl

/-- A leaf is wrapped in a new group. -/
theorem makes_negate_leaf {f : Leaf} (hs : s.Rooted) (hid : id ∈ s.tree.ids)
    (hview : s.view id = .leaf id a f) :
    s.Makes id
      (.group s.next .plain ⟨.default, true⟩ (.leaf id { a with negation := .negated } f) .nil,
        s.next + 1)
      (s.next, ((s.add .plain (.group ⟨.default, true⟩ none none)).wrap id s.next).modifyAttrs id
        ({ · with negation := .negated })) := by
  have hself := Puts.of_view hs hid hview
  have hwrap := (hself.extend (extends_add_group s .plain ⟨.default, true⟩)).wrap rfl
    (spare_add hs .plain ⟨.default, true⟩)
  refine ⟨hwrap.modifyAttrs_left rfl ({ · with negation := .negated }), ?_, rfl⟩
  rw [(Relabels.modifyAttrs ..).next_eq, wrap, setLeft, (SameLabels.setSlot ..).next_eq,
    (SameLabels.replaceSelf ..).next_eq, next_add]

theorem makes_negate_pair (hs : s.Rooted) (hid : id ∈ s.tree.ids)
    (hview : s.view id = .group id a g l r) {left right : NodeId} (hl : l.id? = some left)
    (hr : r.id? = some right) :
    let inner := { Attributes.plain with negation := .negated }
    let s₁ := (s.modifyForm id ({ · with operator := .default })).add inner
      (.group ⟨g.operator, true⟩ none none)
    s.Makes id (.group id a { g with operator := .default }
        (.group s.next inner ⟨g.operator, true⟩ l r) .nil, s.next + 1)
      (id, ((s₁.setLeft s.next (some left)).setRight s.next (some right)).setLeft id
        (some s.next)) := by
  intro inner s₁
  have hform := (Puts.of_view hs hid hview).modifyForm rfl ({ · with operator := .default })
  have hnext : (s.modifyForm id ({ · with operator := .default })).next = s.next :=
    (Relabels.modifyForm ..).next_eq
  have hspare := spare_add hform.after inner ⟨g.operator, true⟩
  have h₁ := hform.extend
    (extends_add_group (s.modifyForm id ({ · with operator := .default })) inner ⟨g.operator, true⟩)
  rw [hnext] at hspare
  obtain ⟨h₂, hspare₂⟩ := h₁.give_left hl hspare
  obtain ⟨h₃, hspare₃⟩ := h₂.give_right hr hspare₂
  refine ⟨h₃.fill_left hspare₃.shows hspare₃.ne_root, ?_, rfl⟩
  rw [setLeft, (SameLabels.setSlot ..).next_eq, setRight, (SameLabels.setSlot ..).next_eq, setLeft,
    (SameLabels.setSlot ..).next_eq, next_add, hnext]

theorem makes_negateTo (hs : s.Rooted) (hid : id ∈ s.tree.ids)
    (hdepth : (s.view id).ids.length ≤ depth) :
    s.Makes id ((s.view id).negate s.next) (s.negateTo depth id) := by
  induction depth generalizing s id with
  | zero => exact absurd hdepth (Nat.not_le.2 (hs.length_ids_view_pos hid))
  | succ depth ih =>
      have htop := hs.id?_view hid
      have hattrs := hs.attrs_view hid
      have hmark := Makes.modifyAttrs hs hid
      rw [negateTo, ← hattrs]
      cases hview : s.view id with
      | nil => rw [hview] at htop; cases htop
      | leaf y a f =>
          rw [hview] at htop hmark
          obtain rfl := Option.some.inj htop
          rw [Tree.attrs, Tree.negate]
          split
          · exact hmark ({ · with negation := .notNegated })
          split
          · exact hmark ({ · with sign := none })
          rw [hs.node?_of_leaf hid hview]
          exact makes_negate_leaf hs hid hview
      | group y a g l r =>
          rw [hview] at htop hmark
          obtain rfl := Option.some.inj htop
          have hself := Puts.of_view hs hid hview
          rw [hview, Tree.ids, List.length_cons, List.length_append] at hdepth
          rw [Tree.attrs, Tree.negate.eq_def]
          dsimp only
          split
          · exact hmark ({ · with negation := .notNegated })
          split
          · exact hmark ({ · with sign := none })
          rw [hs.node?_of_group hid hview]
          dsimp only
          split
          · refine ⟨(hself.modifyForm rfl ({ · with parens := true })).modifyAttrs rfl
              ({ · with negation := .negated }), ?_, rfl⟩
            rw [(Relabels.modifyAttrs ..).next_eq, (Relabels.modifyForm ..).next_eq]
          -- a group that says nothing of its own is told by what is in it
          have hleft : ∀ {c : NodeId}, l.id? = some c →
              s.Makes c (l.negate s.next) (s.negateTo depth c) := fun hc =>
            hself.view_left hc ▸ ih hs (hself.mem_left hc) (by rw [hself.view_left hc]; omega)
          have hright : ∀ {c : NodeId}, r.id? = some c →
              s.Makes c (r.negate s.next) (s.negateTo depth c) := fun hc =>
            hself.view_right hc ▸ ih hs (hself.mem_right hc) (by rw [hself.view_right hc]; omega)
          cases hl : l.id? with
          | none =>
              obtain rfl := Tree.id?_eq_none_iff.1 hl
              cases hr : r.id? with
              | none =>
                  obtain rfl := Tree.id?_eq_none_iff.1 hr
                  exact ⟨hself, rfl, rfl⟩
              | some c =>
                  have h := hright hr
                  have hputs := hself.right hr h.puts
                  cases r with
                  | nil => cases hr
                  | leaf => exact ⟨hputs, h.next_eq, rfl⟩
                  | group => exact ⟨hputs, h.next_eq, rfl⟩
          | some c =>
              cases hr : r.id? with
              | none =>
                  obtain rfl := Tree.id?_eq_none_iff.1 hr
                  have h := hleft hl
                  exact ⟨hself.left hl h.puts, h.next_eq, rfl⟩
              | some d =>
                  have h := makes_negate_pair hs hid hview hl hr
                  cases l with
                  | nil => cases hl
                  | _ => cases r with
                    | nil => cases hr
                    | _ => exact h

theorem makes_negate (hs : s.Rooted) (hid : id ∈ s.tree.ids) :
    s.Makes id ((s.view id).negate s.next) (s.negate id) :=
  makes_negateTo hs hid (hs.length_ids_view_le hid)

theorem criteria_of_loneClause? {root clause : Tree} (h : root.loneClause? = some clause) :
    root.criteria = clause := by
  cases root with
  | nil => cases h
  | leaf => cases h
  | group id a g l r =>
      obtain ⟨hlone, hclause⟩ := Option.ite_none_right_eq_some.1 h
      exact (if_pos hlone).trans (Option.some.inj hclause)

theorem criteria_of_loneClause?_eq_none {root : Tree} (h : root.loneClause? = none) :
    root.criteria = root.mapForm ({ · with parens := true }) := by
  cases root with
  | nil => rfl
  | leaf => rfl
  | group id a g l r =>
      refine if_neg fun hlone => ?_
      rw [Tree.loneClause?, if_pos hlone] at h
      cases h

theorem renumber_mapForm (t : Tree) (f : Group → Group) (next : NodeId) :
    (t.mapForm f).renumber next = ((t.renumber next).1.mapForm f, (t.renumber next).2) := by
  cases t <;> rfl

/-- The criteria are copied beside the query, as they stand beside an inverted part. -/
theorem implants_implantCriteria (hs : s.Rooted) (root : Tree) :
    Implants s (s.implantCriteria root).2 (root.criteria.renumber s.next).1 ∧
      (s.implantCriteria root).2.next = (root.criteria.renumber s.next).2 ∧
      (s.implantCriteria root).1 = (root.criteria.renumber s.next).1.id? := by
  have himplant := implants_implant hs
  have htop (t : Tree) : (s.implant t).1 = (t.renumber s.next).1.id? :=
    (Tree.map_id?_renumber t s.next).symm
  have hnext (t : Tree) : (s.implant t).2.next = (t.renumber s.next).2 := next_copy s t
  rw [implantCriteria]
  cases hlone : root.loneClause? with
  | some clause =>
      rw [criteria_of_loneClause? hlone]
      exact ⟨himplant clause, hnext clause, htop clause⟩
  | none =>
      rw [criteria_of_loneClause?_eq_none hlone, renumber_mapForm]
      dsimp only
      rw [htop]
      cases hc : (root.renumber s.next).1.id? with
      | none =>
          rw [Tree.id?_eq_none_iff.1 hc]
          refine ⟨?_, hnext root, rfl⟩
          have h := himplant root
          rwa [Tree.id?_eq_none_iff.1 hc] at h
      | some c =>
          refine ⟨(himplant root).modifyForm hs hc _, ?_, ?_⟩
          · rw [Option.elim_some, (Relabels.modifyForm ..).next_eq, hnext]
          · rw [← hc]
            cases (root.renumber s.next).1 <;> rfl

/-- What is spare comes beside a node, into a new group in its place. -/
theorem puts_beside (h : Puts s s' id t) (htop : t.id? = some x) {u : Tree}
    (hu : ∀ c, u.id? = some c → s'.Spare c u ∧ c ≠ x) :
    let s₁ := (s'.add .plain (.group ⟨.or, true⟩ none none)).replaceSelf x s'.next
    Puts s ((s₁.setLeft s'.next u.id?).setRight s'.next (some x)) id
      (.group s'.next .plain ⟨.or, true⟩ u t) := by
  intro s₁
  have hext := extends_add_group s' .plain ⟨.or, true⟩
  have hw := spare_add h.after .plain ⟨.or, true⟩
  have hput := (h.extend hext).replaceSelf htop hw.shows hw.ne_root
  have hself := (h.extend hext).spare_replaceSelf htop hw
  obtain ⟨hfilled, hself'⟩ : Puts s (s₁.setLeft s'.next u.id?) id
      (.group s'.next .plain ⟨.or, true⟩ u .nil) ∧ (s₁.setLeft s'.next u.id?).Spare x t := by
    cases hc : u.id? with
    | none =>
        obtain rfl := Tree.id?_eq_none_iff.1 hc
        have hempty := hput.after.slot?_left (hput.mem_top rfl) (hput.view_top rfl)
        rw [setLeft, setSlot_none_of_empty hempty]
        exact ⟨hput, hself⟩
    | some c =>
        obtain ⟨hspare, hne⟩ := hu c hc
        have hne' : c ≠ s'.next := hext.ne_of_lt rfl (hspare.shows.lt_next hspare.shows.mem)
        have hcopy := Spare.replaceSelf (h.extend hext) htop hw (hspare.extend hext) hne'
        exact ⟨hput.fill_left hcopy.shows hcopy.ne_root,
          Spare.fill hput rfl (hput.isGroup_top rfl) hcopy hself (Ne.symm hne)⟩
  exact hfilled.fill_right hself'.shows hself'.ne_root

theorem makes_invertNode (hs : s.Rooted) (hid : id ∈ s.tree.ids) (alternate : Option Tree) :
    s.Makes id ((s.view id).invertNode alternate s.next) (s.invertNode alternate id) := by
  have hnegate := makes_negate hs hid
  rw [Tree.invertNode, Store.invertNode]
  generalize (s.view id).negate s.next = negated at hnegate
  obtain ⟨inverted, next⟩ := negated
  generalize s.negate id = out at hnegate
  obtain ⟨top, s₁⟩ := out
  cases alternate with
  | none => exact hnegate
  | some root =>
      obtain ⟨himplants, hnext, htop⟩ := implants_implantCriteria hnegate.puts.after root
      rw [hnegate.next_eq] at himplants hnext htop
      dsimp only at himplants hnext htop ⊢
      generalize root.criteria.renumber next = copied at himplants hnext htop ⊢
      have h := himplants.puts hnegate.puts
      have hlt := hnegate.puts.after.shows.lt_next (hnegate.puts.mem_top hnegate.top)
      have hbeside := puts_beside h hnegate.top fun c hc => ⟨himplants.spare c hc,
        fun heq => Nat.not_lt.2 (himplants.le_of_mem c (mem_ids_of_id? hc)) (heq ▸ hlt)⟩
      rw [← htop, hnext] at hbeside
      rw [hnext]
      refine ⟨hbeside, ?_, rfl⟩
      rw [setRight, (SameLabels.setSlot ..).next_eq, setLeft, (SameLabels.setSlot ..).next_eq,
        (SameLabels.replaceSelf ..).next_eq, next_add, hnext]

/-! ## Clause by clause -/

def invertClauseTo (kept : List String) (alternate : Option Tree) (depth : Nat)
    (scope : Option String) (s : Store) (clause : NodeId) : Store :=
  if s.isGroup clause then (invertTo kept alternate depth scope clause s).2
  else if Tree.isKept kept scope (s.attrs clause) then s
  else (s.invertNode alternate clause).2

theorem invertTo_succ (kept : List String) (alternate : Option Tree) (depth : Nat)
    (inherited : Option String) (id : NodeId) (s : Store) :
    invertTo kept alternate (depth + 1) inherited id s =
      match (s.view id).coverage kept inherited with
      | .kept => (id, s)
      | .invertible => s.invertNode alternate id
      | .mixed => (id, (s.sequence id).foldl
          (invertClauseTo kept alternate depth ((s.attrs id).fieldName?.or inherited)) s) :=
  rfl

end Store

namespace Tree

variable {kept : List String} {alternate : Option Tree} {inherited : Option String}

def invertGroup (kept : List String) (alternate : Option Tree) (inherited : Option String)
    (next id : NodeId) (a : Attributes) (g : Group) (l r : Tree) : Tree × NodeId :=
  match (group id a g l r).coverage kept inherited with
  | .kept => (group id a g l r, next)
  | .invertible => (group id a g l r).invertNode alternate next
  | .mixed =>
      let scope := a.fieldName?.or inherited
      let left := l.invertClauses kept alternate scope next
      let right := r.invertClauses kept alternate scope left.2
      (group id a g left.1 right.1, right.2)

variable {a : Attributes} {g : Group}

theorem invertClauses_of_not_link (h : g.isLink a = false) (next id : NodeId) (l r : Tree) :
    (group id a g l r).invertClauses kept alternate inherited next =
      invertGroup kept alternate inherited next id a g l r := by
  rw [invertClauses, invertGroup, h]
  cases (group id a g l r).coverage kept inherited <;> rfl

theorem invertClauses_link (h : g.isLink a) (next id : NodeId) (l r : Tree) :
    (group id a g l r).invertClauses kept alternate inherited next =
      let left := l.invertClauses kept alternate inherited next
      let right := r.invertClauses kept alternate inherited left.2
      (group id a g left.1 right.1, right.2) := by
  have hfield : a.fieldName? = none := by
    simp only [Group.isLink, Bool.and_eq_true, Option.isNone_iff_eq_none] at h
    rw [Attributes.fieldName?, h.1.1.2]
    rfl
  rw [invertClauses, h, hfield]
  rfl

theorem invert_eq_invertGroup (next id : NodeId) (l r : Tree) :
    (group id a g l r).invert kept alternate next =
      invertGroup kept alternate none next id a g l r := by
  rw [invert.eq_def, invertGroup, Option.or_none]
  cases (group id a g l r).coverage kept none <;> rfl

end Tree

namespace Store

variable {kept : List String} {alternate : Option Tree} {scope inherited : Option String}
  {s s' s'' : Store} {id x c : NodeId} {a : Attributes} {g : Group} {l r t : Tree} {depth : Nat}

def SideInverted (kept : List String) (alternate : Option Tree) (scope : Option String) :
    Tree → Store → Store → Prop :=
  Visited fun c t s out => Puts s out.2 c (t.invertClauses kept alternate scope s.next).1 ∧
    out.2.next = (t.invertClauses kept alternate scope s.next).2

namespace SideInverted

theorem of_makes (htop : t.id? = some c) (out : NodeId × Store)
    (h : s.Makes c (t.invertClauses kept alternate scope s.next) out) :
    SideInverted kept alternate scope t s out.2 :=
  .inr ⟨c, out.1, htop, h.puts, h.next_eq⟩

theorem next_eq (h : SideInverted kept alternate scope t s s') :
    s'.next = (t.invertClauses kept alternate scope s.next).2 := by
  rcases h with ⟨rfl, rfl⟩ | ⟨c, top, -, -, hnext⟩
  · rfl
  · exact hnext

theorem both (h : Puts s s' id (.group x a g l r))
    (hleft : SideInverted kept alternate scope l s' s'') {s₃ : Store}
    (hright : SideInverted kept alternate scope r s'' s₃) :
    let left := l.invertClauses kept alternate scope s'.next
    let right := r.invertClauses kept alternate scope left.2
    Puts s s₃ id (.group x a g left.1 right.1) ∧ s₃.next = right.2 := by
  have h₁ := Visited.left (fun s => s) hleft h (fun hnil => by rw [hnil]; rfl)
    fun c out _ hside => hside.1
  have h₂ := Visited.right (fun s => s) hright h₁ (fun hnil => by rw [hnil]; rfl)
    fun c out _ hside => hside.1
  have hnext := hright.next_eq
  rw [hleft.next_eq] at h₂ hnext
  exact ⟨h₂, hnext⟩

end SideInverted

/-- A group holds the clauses of both sides. -/
theorem Rooted.sequence_eq (hs : s.Rooted) (hid : id ∈ s.tree.ids)
    (hview : s.view id = .group id a g l r) :
    s.sequence id = l.opened.filterMap Tree.id? ++ r.opened.filterMap Tree.id? := by
  have hself := Puts.of_view hs hid hview
  have hl : l.id?.elim .nil s.view = l := by
    cases hc : l.id? with
    | none => exact (Tree.id?_eq_none_iff.1 hc).symm
    | some c => exact hself.view_left hc
  have hr : r.id?.elim .nil s.view = r := by
    cases hc : r.id? with
    | none => exact (Tree.id?_eq_none_iff.1 hc).symm
    | some c => exact hself.view_right hc
  rw [hs.wellFormed.sequence_of_node?_group hself.node?_top, hl, hr, List.filterMap_append]

section Clauses

variable (hgroup : ∀ {s : Store} {c : NodeId} {b : Attributes} {f : Group} {l r : Tree},
  s.Rooted → c ∈ s.tree.ids → s.view c = .group c b f l r → (s.view c).ids.length ≤ depth →
    s.Makes c (Tree.invertGroup kept alternate scope s.next c b f l r)
      (invertTo kept alternate depth scope c s))

include hgroup

theorem sideInverted_foldl (hs : s.Rooted)
    (hview : ∀ c, t.id? = some c → c ∈ s.tree.ids ∧ s.view c = t) (hdepth : t.ids.length ≤ depth) :
    SideInverted kept alternate scope t s
      ((t.opened.filterMap Tree.id?).foldl (invertClauseTo kept alternate depth scope) s) := by
  induction t generalizing s with
  | nil => exact .inl ⟨rfl, rfl⟩
  | leaf y a f =>
      obtain ⟨hmem, hview⟩ := hview y rfl
      have hnode := hs.node?_of_leaf hmem hview
      have hclause : invertClauseTo kept alternate depth scope s y =
          if Tree.isKept kept scope a then s else (s.invertNode alternate y).2 := by
        rw [invertClauseTo, attrs_of_node? hnode, isGroup_of_node? hnode]
        rfl
      rw [show (Tree.leaf y a f).opened.filterMap Tree.id? = [y] from rfl, List.foldl_cons,
        List.foldl_nil, hclause]
      have hself := Puts.of_view hs hmem hview
      have hmakes := makes_invertNode hs hmem alternate
      rw [hview] at hmakes
      split
      · next hkept =>
          refine .of_makes rfl (y, s) ?_
          rw [Tree.invertClauses, if_pos hkept]
          exact ⟨hself, rfl, rfl⟩
      · next hkept =>
          refine .of_makes rfl (s.invertNode alternate y) ?_
          rw [Tree.invertClauses, if_neg hkept]
          exact hmakes
  | group y a g l r ihl ihr =>
      obtain ⟨hmem, hview⟩ := hview y rfl
      have hself := Puts.of_view hs hmem hview
      cases hlink : g.isLink a with
      | true =>
          rw [Tree.opened_link hlink, List.filterMap_append, List.foldl_append]
          rw [Tree.ids, List.length_cons, List.length_append] at hdepth
          have hleft := ihl hs (fun c hc => ⟨hself.mem_left hc, hself.view_left hc⟩) (by omega)
          generalize List.foldl _ s _ = s₁ at hleft ⊢
          have h₁ := Visited.left (fun s => s) hleft hself (fun hnil => by rw [hnil]; rfl)
            fun c out _ hside => hside.1
          have hright := ihr h₁.after (fun c hc => ⟨h₁.mem_right hc, h₁.view_right hc⟩) (by omega)
          have hboth := SideInverted.both hself hleft hright
          refine .inr ⟨y, y, rfl, ?_⟩
          dsimp only
          rwa [Tree.invertClauses_link hlink]
      | false =>
          have hclause : invertClauseTo kept alternate depth scope s y =
              (invertTo kept alternate depth scope y s).2 :=
            if_pos (isGroup_of_node? hself.node?_top)
          rw [Tree.opened_of_not_link hlink,
            show [Tree.group y a g l r].filterMap Tree.id? = [y] from rfl, List.foldl_cons,
            List.foldl_nil, hclause]
          refine .of_makes rfl (invertTo kept alternate depth scope y s) ?_
          rw [Tree.invertClauses_of_not_link hlink]
          exact hgroup hs hmem hview (hview ▸ hdepth)

end Clauses

theorem makes_invertTo (hs : s.Rooted) (hid : id ∈ s.tree.ids)
    (hview : s.view id = .group id a g l r) (hdepth : (s.view id).ids.length ≤ depth) :
    s.Makes id (Tree.invertGroup kept alternate inherited s.next id a g l r)
      (invertTo kept alternate depth inherited id s) := by
  induction depth generalizing s id a g l r inherited with
  | zero => exact absurd hdepth (Nat.not_le.2 (hs.length_ids_view_pos hid))
  | succ depth ih =>
      have hself := Puts.of_view hs hid hview
      rw [invertTo_succ, Tree.invertGroup, hview]
      cases (Tree.group id a g l r).coverage kept inherited with
      | kept => exact ⟨hself, rfl, rfl⟩
      | invertible => exact hview ▸ makes_invertNode hs hid alternate
      | mixed =>
          rw [hview, Tree.ids, List.length_cons, List.length_append] at hdepth
          dsimp only
          rw [hs.sequence_eq hid hview, List.foldl_append, attrs_of_node? hself.node?_top]
          let scope := a.fieldName?.or inherited
          have hside {s : Store} {t : Tree} (hs : s.Rooted)
              (hview : ∀ c, t.id? = some c → c ∈ s.tree.ids ∧ s.view c = t)
              (hdepth : t.ids.length ≤ depth) : SideInverted kept alternate scope t s
                ((t.opened.filterMap Tree.id?).foldl (invertClauseTo kept alternate depth scope) s) :=
            sideInverted_foldl ih hs hview hdepth
          have hleft := hside hs (fun c hc => ⟨hself.mem_left hc, hself.view_left hc⟩) (by omega)
          generalize List.foldl _ s _ = s₁ at hleft ⊢
          have h₁ := Visited.left (fun s => s) hleft hself (fun hnil => by rw [hnil]; rfl)
            fun c out _ hside => hside.1
          have hright := hside h₁.after (fun c hc => ⟨h₁.mem_right hc, h₁.view_right hc⟩) (by omega)
          obtain ⟨hputs, hnext⟩ := SideInverted.both hself hleft hright
          exact ⟨hputs, hnext, rfl⟩

theorem makes_invert (hs : s.Rooted) (hid : id ∈ s.tree.ids) (hgroup : s.isGroup id)
    (kept : List String) (alternate : Option Tree) :
    s.Makes id ((s.view id).invert kept alternate s.next) (s.invert kept alternate id) := by
  obtain ⟨a, g, l, r, hview⟩ : ∃ a g l r, s.view id = .group id a g l r := by
    obtain ⟨_, _, _, _, _, hn⟩ := exists_node?_of_isGroup hgroup
    exact ⟨_, _, _, _, hs.wellFormed.view_group hn⟩
  have h : s.Makes id _ (invertTo kept alternate s.next none id s) :=
    makes_invertTo hs hid hview (hs.length_ids_view_le hid)
  rwa [← Tree.invert_eq_invertGroup, ← hview] at h

end Store

end SearchQuery
