import SearchQuery.Pass.Fragments
import SearchQuery.Proofs.Store.Spare

/-!
# Splicing in fragments in a store

A fragment is copied beside the query, gets what the term says of itself, and comes into the place of
the term. From any node of a query on expansion comes to what `Tree.expand` makes of the tree there, with
the same new numbers, notes and findings, `Session.expanded_expand`. Only where nothing comes into the
place of the root the two would differ.
-/

namespace SearchQuery

open Store

theorem Tree.expand_group (e : Expansion) (chain : List String) (id : NodeId) (a : Attributes)
    (g : Group) (l r : Tree) (s : Splicing) :
    (group id a g l r).expand e chain s =
      let left := l.expand e chain s
      let right := r.expand e chain left.2
      (group id a g left.1 right.1, right.2) := by
  rw [expand]

section Leaf

variable {e : Expansion} {chain : List String} {id : NodeId} {a : Attributes} {f : Leaf} {s : Splicing}
  {name text : String} (hname : fragmentName? a f = some name) (hskip : ¬ e.skip name)
  (hin : name ∉ chain)

include hname hskip hin

theorem Tree.expand_of_text?_eq_none (htext : e.text? name = none) :
    (leaf id a f).expand e chain s = (leaf id a f, s.record fun v =>
      { v with
        referencedIncludes := v.referencedIncludes.insert name
        unresolvedIncludes := v.unresolvedIncludes.insert name }) := by
  rw [expand, hname]
  simp only [if_neg hskip, dif_neg hin]
  split
  · rfl
  · next hsome => cases htext.symm.trans hsome

theorem Tree.expand_of_parse_eq_error {error : ParseError} (htext : e.text? name = some text)
    (hparse : e.parse text = .error error) :
    (leaf id a f).expand e chain s = (leaf id a f, s.record fun v =>
      { v with referencedIncludes := v.referencedIncludes.insert name }.addError
        ("Unable to parse include " ++ name ++ ": " ++ error.display)) := by
  rw [expand, hname]
  simp only [if_neg hskip, dif_neg hin]
  split
  · next hnone => cases htext.symm.trans hnone
  · next other hother =>
      obtain rfl := Option.some.inj (htext.symm.trans hother)
      rw [hparse]
      rfl

theorem Tree.expand_of_parse_eq_ok {fragment : Tree} (htext : e.text? name = some text)
    (hparse : e.parse text = .ok fragment) :
    (leaf id a f).expand e chain s =
      let copied := (fragment.renumber s.next).1
      (copied.asClause a).expand e (chain ++ [name])
        { next := (fragment.renumber s.next).2
          notes := copied.id?.elim s.notes (s.notes.set .includeName · name)
          validation := { s.validation with
            referencedIncludes := s.validation.referencedIncludes.insert name } } := by
  rw [expand, hname]
  simp only [if_neg hskip, dif_neg hin]
  split
  · next hnone => cases htext.symm.trans hnone
  · next other hother =>
      obtain rfl := Option.some.inj (htext.symm.trans hother)
      rw [hparse]
      rfl

end Leaf

namespace Session

variable {s s' : Session} {id c : NodeId} {t : Tree} {e : Expansion} {chain : List String}

/-- What expansion changes beside the tree. -/
def splicing (s : Session) : Splicing :=
  ⟨s.store.next, s.store.annotations, s.context.validation⟩

/-- The tree with the fragments comes into the place of the node. -/
structure Expanded (e : Expansion) (chain : List String) (id : NodeId) (t : Tree) (s : Session)
    (out : NodeId × Session) : Prop where
  puts : Puts s.store out.2.store id (t.expand e chain s.splicing).1
  splicing_eq : out.2.splicing = (t.expand e chain s.splicing).2
  context_eq : out.2.context = { s.context with validation := out.2.context.validation }
  top : ∀ c, (t.expand e chain s.splicing).1.id? = some c → out.1 = c

def SideExpanded (e : Expansion) (chain : List String) : Tree → Session → Session → Prop :=
  Visited (Expanded e chain)

namespace SideExpanded

theorem splicing_eq (h : SideExpanded e chain t s s') :
    s'.splicing = (t.expand e chain s.splicing).2 := by
  rcases h with ⟨rfl, rfl⟩ | ⟨c, top, -, hexpanded⟩
  · rw [Tree.expand]
  · exact hexpanded.splicing_eq

theorem context_eq (h : SideExpanded e chain t s s') :
    s'.context = { s.context with validation := s'.context.validation } := by
  rcases h with ⟨rfl, rfl⟩ | ⟨c, top, -, hexpanded⟩
  · rfl
  · exact hexpanded.context_eq

end SideExpanded

theorem asClause_eq (a : Attributes) (t : Tree) :
    t.asClause a = (t.withAttrs { t.attrs with
      negation := a.negation, sign := a.sign, boost := a.boost }).mapForm
        ({ · with parens := true }) := by
  cases t <;> rfl

theorem spliceFragment_spec {a : Attributes} {f : Leaf} (hs : s.store.Rooted)
    (hid : id ∈ s.store.tree.ids) (hview : s.store.view id = .leaf id a f) (name : String)
    {fragment : Tree} (hroot : id = s.store.root → fragment ≠ .nil) :
    let copied := (fragment.renumber s.store.next).1
    let out := s.spliceFragment id name fragment
    Puts s.store out.2.store id (copied.asClause a) ∧ out.1 = copied.id? ∧
      out.2.splicing = { s.splicing with
        next := (fragment.renumber s.store.next).2
        notes := copied.id?.elim s.splicing.notes (s.splicing.notes.set .includeName · name) } ∧
      out.2.context = s.context := by
  intro copied out
  have himplant := implants_implant hs fragment
  have htop : (s.store.implant fragment).1 = copied.id? := (Tree.map_id?_renumber ..).symm
  have hnext : (s.store.implant fragment).2.next = (fragment.renumber s.store.next).2 :=
    next_copy s.store fragment
  have hnotes : (s.store.implant fragment).2.annotations = s.store.annotations :=
    annotations_copy s.store fragment
  have hself := Puts.of_view hs hid hview
  have hattrs : s.store.attrs id = a := attrs_of_node? (hs.node?_of_leaf hid hview)
  simp only [out, spliceFragment, hattrs]
  generalize s.store.implant fragment = implanted at himplant htop hnext hnotes ⊢
  obtain ⟨top, store⟩ := implanted
  obtain rfl : top = copied.id? := htop
  have h := himplant.puts hself
  cases hc : copied.id? with
  | none =>
      have hnil : copied = .nil := Tree.id?_eq_none_iff.1 hc
      have hempty : fragment = .nil := by
        rw [Tree.map_id?_renumber, Option.map_eq_none_iff] at hc
        exact Tree.id?_eq_none_iff.1 hc
      have hne : id ≠ store.root := fun heq => hroot (heq.trans himplant.root_eq) hempty
      have hremove := SameLabels.removeSelf store id
      refine ⟨?_, rfl, ?_, rfl⟩
      · rw [hnil]
        exact h.trans rfl (h.after.removeSelf (h.mem_top rfl) hne)
      · rw [splicing, hremove.next_eq, hremove.annotations_eq, hnext, hnotes]
        rfl
  | some c =>
      let own (b : Attributes) : Attributes :=
        { b with negation := a.negation, sign := a.sign, boost := a.boost }
      have hc' : (copied.withAttrs (own copied.attrs)).id? = some c := by
        rw [← hc]
        cases copied <;> rfl
      have hc'' : (copied.asClause a).id? = some c := by
        rw [← hc]
        cases copied <;> rfl
      have hclause := (himplant.modifyAttrs hs hc own).modifyForm hs hc' ({ · with parens := true })
      rw [← asClause_eq] at hclause
      let noted : Store := { (store.modifyAttrs c own).modifyForm c ({ · with parens := true }) with
        annotations := store.annotations.set .includeName c name }
      have hnoted : Implants s.store noted (copied.asClause a) := hclause.of_nodes_eq rfl rfl
      have hspare := hnoted.spare c hc''
      have hreplace := SameLabels.replaceSelf noted id c
      have hnext' : (noted.replaceSelf id c).next = (fragment.renumber s.store.next).2 :=
        hreplace.next_eq.trans (((Relabels.modifyForm ..).next_eq.trans
          (Relabels.modifyAttrs ..).next_eq).trans hnext)
      have hnotes' : (noted.replaceSelf id c).annotations =
          s.splicing.notes.set .includeName c name :=
        hreplace.annotations_eq.trans (congrArg (·.set .includeName c name) hnotes)
      refine ⟨(hnoted.puts hself).replaceSelf rfl hspare.shows hspare.ne_root, rfl, ?_, rfl⟩
      exact congrFun (congrArg₂ Splicing.mk hnext' hnotes') _

section Leaf

variable {a : Attributes} {f : Leaf} (hs : s.store.Rooted) (hid : id ∈ s.store.tree.ids)
  (hview : s.store.view id = .leaf id a f)

include hs hid hview

/-- A leaf that is no term of a fragment, or has a finding, stays. -/
theorem expanded_of_stays (hstore : s'.store = s.store)
    (hcontext : s'.context = { s.context with validation := s'.context.validation })
    (hexpand : (Tree.leaf id a f).expand e chain s.splicing = (.leaf id a f, s'.splicing)) :
    Expanded e chain id (.leaf id a f) s (id, s') := by
  refine ⟨?_, ?_, hcontext, fun c hc => ?_⟩
  · rw [hexpand, hstore]
    exact Puts.of_view hs hid hview
  · rw [hexpand]
  · rw [hexpand] at hc
    exact Option.some.inj hc

variable {name text : String} {fragment : Tree} (hname : fragmentName? a f = some name)
  (hskip : ¬ e.skip name) (hin : name ∉ chain) (htext : e.text? name = some text)
  (hparse : e.parse text = .ok fragment)
  (hroot : id = s.store.root → s.store.isGroup id ∨ ∀ text, e.parse text ≠ .ok .nil)

include hname hskip hin htext hparse hroot

/-- A fragment comes into the place of its term, and is expanded in turn. -/
theorem expanded_of_splice (hinner : ∀ {top : NodeId} {s' : Session}, s'.store.Rooted →
      top ∈ s'.store.tree.ids →
      (top = s'.store.root → s'.store.isGroup top ∨ ∀ text, e.parse text ≠ .ok .nil) →
      Expanded e (chain ++ [name]) top (s'.store.view top) s'
        (s'.expandTo e (chain ++ [name]) s'.store.next top)) :
    Expanded e chain id (.leaf id a f) s
      (match (s.record fun v => { v with referencedIncludes := v.referencedIncludes.insert name })
          |>.spliceFragment id name fragment with
        | (none, s) => (id, s)
        | (some top, s) => s.expandTo e (chain ++ [name]) s.store.next top) := by
  have hparses : id = s.store.root → ∀ text, e.parse text ≠ .ok .nil := by
    intro heq
    refine (hroot heq).resolve_left ?_
    rw [isGroup_of_node? (hs.node?_of_leaf hid hview)]
    exact Bool.false_ne_true
  obtain ⟨hputs, htop, hsplicing, hcontext⟩ :=
    spliceFragment_spec (s := s.record fun v =>
      { v with referencedIncludes := v.referencedIncludes.insert name }) hs hid hview name
      fun heq (hnil : fragment = .nil) => hparses heq text (hnil ▸ hparse)
  generalize (s.record _).spliceFragment id name fragment = out at hputs htop hsplicing hcontext ⊢
  obtain ⟨top, s₁⟩ := out
  replace hputs : Puts s.store s₁.store id ((fragment.renumber s.store.next).1.asClause a) := hputs
  replace htop : top = (fragment.renumber s.store.next).1.id? := htop
  have hexpand : (Tree.leaf id a f).expand e chain s.splicing =
      ((fragment.renumber s.store.next).1.asClause a).expand e (chain ++ [name]) s₁.splicing := by
    rw [hsplicing]
    exact Tree.expand_of_parse_eq_ok hname hskip hin htext hparse
  replace hcontext : s₁.context = { s.context with validation := s₁.context.validation } := by
    rw [hcontext]
    rfl
  have hfirst : (fragment.renumber s.store.next).1.id? = fragment.id?.map fun _ => s.store.next :=
    Tree.map_id?_renumber ..
  generalize (fragment.renumber s.store.next).1 = copied at hputs htop hexpand hfirst
  have htop' : (copied.asClause a).id? = copied.id? := by cases copied <;> rfl
  cases top with
  | none =>
      obtain rfl := Tree.id?_eq_none_iff.1 htop.symm
      rw [Tree.asClause, Tree.expand] at hexpand
      refine ⟨?_, ?_, ?_, fun c hc => ?_⟩
      · rw [hexpand]
        exact hputs
      · rw [hexpand]
      · exact hcontext
      · rw [hexpand] at hc
        cases hc
  | some top =>
      have htop₁ := htop'.trans htop.symm
      have hroot₁ : top = s₁.store.root →
          s₁.store.isGroup top ∨ ∀ text, e.parse text ≠ .ok .nil := by
        intro heq
        by_cases hid' : id = s.store.root
        · exact .inr (hparses hid')
        · -- the number of a copy is new, and so not that of the root
          have hkept := hputs.root_eq hid'
          rw [← htop] at hfirst
          obtain ⟨-, -, hnew⟩ := Option.map_eq_some_iff.1 hfirst.symm
          exact absurd (heq.trans hkept) (hnew ▸ Nat.ne_of_gt hs.root_lt_next)
      have hinner := hinner hputs.after (hputs.mem_top htop₁) hroot₁
      rw [hputs.view_top htop₁] at hinner
      refine ⟨?_, ?_, ?_, fun c hc => ?_⟩
      · rw [hexpand]
        exact hputs.trans htop₁ hinner.puts
      · rw [hexpand]
        exact hinner.splicing_eq
      · rw [hinner.context_eq, hcontext]
      · rw [hexpand] at hc
        exact hinner.top c hc

omit hname hskip hin htext hparse in
theorem expanded_expandTo_leaf {depth : Nat}
    (hinner : ∀ {chain' : List String} {top : NodeId} {s' : Session},
      e.unused chain' < e.unused chain → s'.store.Rooted → top ∈ s'.store.tree.ids →
      (top = s'.store.root → s'.store.isGroup top ∨ ∀ text, e.parse text ≠ .ok .nil) →
      Expanded e chain' top (s'.store.view top) s' (s'.expandTo e chain' s'.store.next top)) :
    Expanded e chain id (.leaf id a f) s (s.expandTo e chain (depth + 1) id) := by
  rw [expandTo, hs.node?_of_leaf hid hview]
  dsimp only
  cases hname : fragmentName? a f with
  | none =>
      refine expanded_of_stays hs hid hview rfl rfl ?_
      rw [Tree.expand, hname]
  | some name =>
      dsimp only
      by_cases hskip : e.skip name
      · rw [if_pos hskip]
        refine expanded_of_stays hs hid hview rfl rfl ?_
        rw [Tree.expand, hname]
        simp only [if_pos hskip]
        rfl
      rw [if_neg hskip]
      by_cases hin : name ∈ chain
      · rw [dif_pos hin]
        refine expanded_of_stays hs hid hview rfl rfl ?_
        rw [Tree.expand, hname]
        simp only [if_neg hskip, dif_pos hin]
        rfl
      rw [dif_neg hin]
      split
      · next htext =>
          refine expanded_of_stays hs hid hview rfl rfl ?_
          rw [Tree.expand_of_text?_eq_none hname hskip hin htext]
          rfl
      next text htext =>
      split
      · next error hparse =>
          refine expanded_of_stays hs hid hview rfl rfl ?_
          rw [Tree.expand_of_parse_eq_error hname hskip hin htext hparse]
          rfl
      next fragment hparse =>
      have hlt := Expansion.unused_lt (Expansion.mem_names_of_text? htext) hin
      exact expanded_of_splice hs hid hview hname hskip hin htext hparse hroot (hinner hlt)

end Leaf

theorem expanded_expandTo {depth : Nat} (hs : s.store.Rooted) (hid : id ∈ s.store.tree.ids)
    (hdepth : (s.store.view id).ids.length ≤ depth)
    (hroot : id = s.store.root → s.store.isGroup id ∨ ∀ text, e.parse text ≠ .ok .nil) :
    Expanded e chain id (s.store.view id) s (s.expandTo e chain depth id) := by
  induction hunused : e.unused chain using Nat.strongRecOn generalizing chain depth id s with
  | ind unused outer =>
  induction depth generalizing s id with
  | zero => exact absurd hdepth (Nat.not_le.2 (hs.length_ids_view_pos hid))
  | succ depth ih =>
      have htop := hs.id?_view hid
      have hself := Puts.refl hs hid
      generalize hview : s.store.view id = t at htop hself hdepth ⊢
      cases t with
      | nil => cases htop
      | leaf y a f =>
          obtain rfl := Option.some.inj htop
          exact expanded_expandTo_leaf hs hid hview hroot fun hlt hs hid hroot =>
            outer _ (hunused ▸ hlt) hs hid (hs.length_ids_view_le hid) hroot rfl
      | group y a g l r =>
          obtain rfl := Option.some.inj htop
          rw [expandTo, hs.node?_of_group hid hview]
          rw [Tree.ids, List.length_cons, List.length_append] at hdepth
          dsimp only
          have hleft : SideExpanded e chain l s _ := visited_elim (expandTo e chain depth)
            fun c hc => hself.view_left hc ▸ ih hs (hself.mem_left hc)
              (by rw [hself.view_left hc]; omega) (fun heq => absurd heq (hself.ne_root_left hc))
          generalize l.id?.elim s _ = s₁ at hleft ⊢
          have h₁ : Puts s.store s₁.store y (.group y a g (l.expand e chain s.splicing).1 r) :=
            Visited.left Session.store hleft hself (fun hnil => by rw [hnil, Tree.expand])
              fun c out _ hside => hside.puts
          have hright : SideExpanded e chain r s₁ _ := visited_elim (expandTo e chain depth)
            fun c hc => h₁.view_right hc ▸ ih h₁.after (h₁.mem_right hc)
              (by rw [h₁.view_right hc]; omega) (fun heq => absurd heq (h₁.ne_root_right hc))
          generalize r.id?.elim s₁ _ = s₂ at hright ⊢
          have h₂ : Puts s.store s₂.store y (.group y a g (l.expand e chain s.splicing).1
              (r.expand e chain s₁.splicing).1) :=
            Visited.right Session.store hright h₁ (fun hnil => by rw [hnil, Tree.expand])
              fun c out _ hside => hside.puts
          have hsplicing := hright.splicing_eq
          rw [hleft.splicing_eq] at h₂ hsplicing
          refine ⟨?_, ?_, ?_, fun c hc => ?_⟩
          · rw [Tree.expand_group]
            exact h₂
          · rw [Tree.expand_group]
            exact hsplicing
          · rw [hright.context_eq, hleft.context_eq]
          · rw [Tree.expand_group] at hc
            exact Option.some.inj hc

theorem expanded_expand (hs : s.store.Rooted) (hid : id ∈ s.store.tree.ids)
    (hroot : id = s.store.root → s.store.isGroup id ∨ ∀ text, e.parse text ≠ .ok .nil) :
    Expanded e [] id (s.store.view id) s (s.expand e id) :=
  expanded_expandTo hs hid (hs.length_ids_view_le hid) hroot

end Session

end SearchQuery
