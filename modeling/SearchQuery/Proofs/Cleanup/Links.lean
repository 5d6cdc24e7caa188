import SearchQuery.Proofs.Cleanup.Survival
import SearchQuery.Proofs.Query.Clauses

/-!
# What is left of link groups

A link group that loses its clauses but one is to give way to that clause. Each check keeps the
number of clauses that hold a leaf, `Changes.held_eq`, so a link group that is left has two sides if
there were at least two such clauses in it, `IsTidy.right_ne_nil_iff`. If there was one, it was no
leaf, and no group that is absorbed either, `IsTidy.isFirm_left`: only a group with a field or with
modifiers can stand alone in a link group, and there it stays, `Pass.links_after_cleanup`.
-/

namespace SearchQuery

namespace Group

variable {g h : Group} {a b : Attributes}

theorem isLink_absorbedForm (hb : (b.field.isSome || b.hasModifiers) = false) :
    (Tree.absorbedForm false (a.negation.merge b.negation) g h).isLink
      { a with negation := a.negation.merge b.negation } = (g.isLink a && h.isLink b) := by
  have hexplicit : (a.negation.merge b.negation).isExplicit =
      (a.negation.isExplicit || b.negation.isExplicit) := by
    cases a.negation <;> cases b.negation <;> rfl
  rw [Bool.or_eq_false_iff] at hb
  have hfield : b.field.isNone = true := by simpa using hb.1
  have hmodifiers : Attributes.hasModifiers { a with negation := a.negation.merge b.negation } =
      a.hasModifiers := rfl
  rw [isLink, isLink, isLink, hexplicit, hmodifiers, hb.2, hfield, Tree.absorbedForm]
  cases g.parens <;> cases h.parens <;> cases a.field.isNone <;> cases a.negation.isExplicit <;>
    cases b.negation.isExplicit <;> cases a.hasModifiers <;> rfl

theorem not_isLink_of_isNegated (h : a.negation.isNegated = true) : g.isLink a = false := by
  cases hn : a.negation <;> simp_all [isLink, Negation.isNegated, Negation.isExplicit]

theorem not_isLink_merge (h : a.negation.isNegated = true) (n : Negation) :
    g.isLink { a with negation := a.negation.merge n } = false := by
  cases hn : a.negation <;> cases n <;>
    simp_all [isLink, Negation.isNegated, Negation.merge, Negation.isExplicit]

end Group

namespace Tree

variable {isRoot : Bool} {id : NodeId} {a : Attributes} {g : Group} {l r t t' out u : Tree}

theorem isGroup_of_isLink (h : t.isLink = true) : t.isGroup = true := by
  cases t with
  | group => rfl
  | nil => cases h
  | leaf => cases h

def isFirm : Tree → Bool
  | group _ a .. => a.field.isSome || a.hasModifiers
  | _ => false

theorem isFirm_iff : t.isFirm = true ↔
    t.isGroup = true ∧ (t.attrs.field.isSome = true ∨ t.attrs.hasModifiers = true) := by
  cases t with
  | nil => simp [isFirm, isGroup]
  | leaf => simp [isFirm, isGroup]
  | group => simp [isFirm, isGroup, attrs]

theorem isSome_id?_iff : t.id?.isSome = true ↔ t ≠ nil := by
  cases t <;> simp [id?]

section Checks

theorem Changes.leaves_eq (h : Changes isRoot t t') : t'.leaves = t.leaves := by
  cases h with
  | shift => simp [leaves_group, show nil.leaves = [] from rfl]
  | absorb => simp [leaves_group, show nil.leaves = [] from rfl]
  | fold => rw [leaves_group, leaves_group]; rfl
  | unwrap => rw [leaves_group, leaves_group]

theorem Changes.isLink (h : Changes false t t') (hlink : t'.isLink = true) : t.isLink = true := by
  cases h with
  | shift => exact hlink
  | absorb hinner =>
      have hboth := (Group.isLink_absorbedForm hinner).symm.trans hlink
      exact (Bool.and_eq_true_iff.1 hboth).1
  | fold _ hnegated =>
      exact Bool.noConfusion ((Group.not_isLink_merge hnegated _).symm.trans hlink)
  | unwrap _ _ hkept =>
      have hnegated := (Bool.or_false _).symm.trans hkept
      exact Bool.noConfusion ((Group.not_isLink_of_isNegated hnegated).symm.trans hlink)

theorem held_eq_of_not_link {id' : NodeId} {a' : Attributes} {g' : Group} {l' r' : Tree}
    (h : g.isLink a = false) (h' : g'.isLink a' = false)
    (hleaves : (group id' a' g' l' r').leaves = (group id a g l r).leaves) :
    (group id' a' g' l' r').held = (group id a g l r).held := by
  rw [held_of_not_link h, held_of_not_link h', hleaves]

/-- A change keeps the number of clauses that hold a leaf. -/
theorem Changes.held_eq (h : Changes false t t') : t'.held = t.held := by
  have hleaves := h.leaves_eq
  cases h with
  | @shift id a g r _ =>
      cases hlink : g.isLink a with
      | true => rw [held_link hlink, held_link hlink, Nat.add_comm]
      | false => exact held_eq_of_not_link hlink hlink hleaves
  | @absorb id a g innerId b h l r hinner =>
      have habsorbed := Group.isLink_absorbedForm (g := g) (h := h) (a := a) hinner
      cases hlink : g.isLink a with
      | false => exact held_eq_of_not_link hlink (habsorbed.trans (by rw [hlink]; rfl)) hleaves
      | true =>
          rw [held_link hlink, show nil.held = 0 from rfl, Nat.add_zero]
          rw [hlink, Bool.true_and] at habsorbed
          cases hlink' : h.isLink b with
          | true => rw [held_link hlink', held_link (habsorbed.trans hlink')]
          | false =>
              -- the group that is absorbed is the only clause, and what absorbs it comes in its place
              refine held_eq_of_not_link hlink' (habsorbed.trans hlink') (hleaves.trans ?_)
              rw [leaves_group]
              exact List.append_nil _
  | fold _ hnegated =>
      exact held_eq_of_not_link (Group.not_isLink_of_isNegated hnegated)
        (Group.not_isLink_merge hnegated _) hleaves
  | unwrap _ _ hkept =>
      have hnegated := (Bool.or_false _).symm.trans hkept
      exact held_eq_of_not_link (Group.not_isLink_of_isNegated hnegated)
        (Group.not_isLink_of_isNegated hnegated) hleaves

theorem Moves.held_eq (h : Moves false t t') : t'.held = t.held := by
  cases h with
  | @drop id a g =>
      cases hlink : g.isLink a with
      | true => rw [held_link hlink]; rfl
      | false => rw [held_of_not_link hlink, leaves_group]; rfl
  | @hoist id a g leafId b l =>
      cases hlink : g.isLink a with
      | true => rw [held_link hlink]; rfl
      | false => rw [held_of_not_link hlink, leaves_group]; rfl

end Checks

section Rounds

theorem Checked.held_eq (h : Checked false t out) : out.held = t.held := by
  induction h with
  | unchanged => rfl
  | moved h => exact (moves_of_check h).held_eq
  | changed h _ ih => exact ih.trans (changes_of_check h).held_eq

theorem Checked.isLink (h : Checked false t out) (hlink : out.isLink = true) : t.isLink = true := by
  induction h with
  | unchanged => exact hlink
  | moved h =>
      cases moves_of_check h with
      | drop => cases hlink
      | hoist => cases hlink
  | changed h _ ih => exact (changes_of_check h).isLink (ih hlink)

theorem Checked.id?_eq (h : Checked isRoot t out) (hgroup : out.isGroup = true) :
    out.id? = t.id? := by
  induction h with
  | unchanged => rfl
  | moved h =>
      cases moves_of_check h with
      | drop => cases hgroup
      | hoist => cases hgroup
  | changed h _ ih =>
      refine (ih hgroup).trans ?_
      cases changes_of_check h <;> rfl

theorem Checked.mem_sides (h : Checked isRoot t out) (hgroup : u.isGroup = true)
    (hu : u ∈ out.left.subtrees ∨ u ∈ out.right.subtrees) :
    u ∈ t.left.subtrees ∨ u ∈ t.right.subtrees := by
  induction h with
  | unchanged => exact hu
  | moved h =>
      cases moves_of_check h with
      | drop => exact hu
      | hoist => exact absurd hu (by simp [left, right, subtrees])
  | changed h _ ih =>
      have hu := ih hu
      cases changes_of_check h with
      | shift => exact .inr (hu.resolve_right (List.not_mem_nil))
      | absorb => exact .inl (hu.elim mem_subtrees_of_left mem_subtrees_of_right)
      | fold =>
          obtain rfl := List.mem_singleton.1 (hu.resolve_right List.not_mem_nil)
          cases hgroup
      | unwrap => exact hu

end Rounds

section Cleanup

/-- Tidying up keeps the number of clauses that hold a leaf. -/
theorem held_cleanup (t : Tree) : (t.cleanup false).held = t.held := by
  induction t with
  | nil => rfl
  | leaf => rfl
  | group id a g l r ihl ihr =>
      have hsides : (group id a g (l.cleanup false) (r.cleanup false)).held =
          (group id a g l r).held := by
        cases hlink : g.isLink a with
        | true => rw [held_link hlink, held_link hlink, ihl, ihr]
        | false =>
            refine held_eq_of_not_link hlink hlink ?_
            rw [leaves_group, leaves_group, leaves_cleanup, leaves_cleanup]
      exact (checked_settle false id a g _ _).held_eq.trans hsides

/-- What is a link group when it is tidied up was one before, with the same number. -/
theorem isLink_of_isLink_cleanup (h : (t.cleanup false).isLink = true) :
    t.isLink = true ∧ (t.cleanup false).id? = t.id? := by
  cases t with
  | nil => cases h
  | leaf => cases h
  | group id a g l r =>
      have hchecked := checked_settle false id a g (l.cleanup false) (r.cleanup false)
      rw [cleanup] at h ⊢
      exact ⟨hchecked.isLink h, hchecked.id?_eq (isGroup_of_isLink h)⟩

/-- A group inside what is left is a part of the tree tidied up on its own. -/
theorem exists_eq_cleanup (hu : u ∈ (t.cleanup isRoot).subtrees) (hgroup : u.isGroup = true) :
    u = t.cleanup isRoot ∨ ∃ v ∈ t.subtrees, u = v.cleanup false := by
  induction t generalizing isRoot with
  | nil => cases hu
  | leaf => exact .inl (List.mem_singleton.1 hu)
  | group id a g l r ihl ihr =>
      have hchecked := checked_settle isRoot id a g (l.cleanup false) (r.cleanup false)
      have hself {v : Tree} (hv : u = v.cleanup false) : v ∈ v.subtrees :=
        self_mem_subtrees (by rintro rfl; rw [hv] at hgroup; cases hgroup)
      have hout : u = settle isRoot id a g (l.cleanup false) (r.cleanup false) ∨
          u ∈ (l.cleanup false).subtrees ∨ u ∈ (r.cleanup false).subtrees := by
        rw [cleanup] at hu
        generalize settle isRoot id a g (l.cleanup false) (r.cleanup false) = out at hu hchecked
        cases out with
        | nil => cases hu
        | leaf => exact .inl (List.mem_singleton.1 hu)
        | group => exact (mem_subtrees_group.1 hu).imp_right (hchecked.mem_sides hgroup)
      rcases hout with htop | hl | hr
      · exact .inl htop
      · rcases ihl hl with heq | ⟨v, hv, heq⟩
        · exact .inr ⟨l, mem_subtrees_of_left (hself heq), heq⟩
        · exact .inr ⟨v, mem_subtrees_of_left hv, heq⟩
      · rcases ihr hr with heq | ⟨v, hv, heq⟩
        · exact .inr ⟨r, mem_subtrees_of_right (hself heq), heq⟩
        · exact .inr ⟨v, mem_subtrees_of_right hv, heq⟩

end Cleanup

section Tidy

/-- In a link group only a group with a field or with modifiers can stand alone. -/
theorem IsTidy.isFirm_left (h : (group id a g l nil).IsTidy false) (hlink : g.isLink a = true) :
    l.isFirm = true := by
  have hcheck : checkOne false id a g l = .unchanged := h.2.2
  cases l with
  | nil => cases hcheck
  | leaf leafId b l =>
      -- a leaf would have taken the place of the link group
      have hfield : a.field.isSome = false := by simp_all [Group.isLink]
      have hparens : g.parens = false := by simp_all [Group.isLink]
      have hnegated : a.negation.isNegated = false := by
        by_contra hnot
        have hnone := Group.not_isLink_of_isNegated (g := g) (Bool.not_eq_false _ ▸ hnot)
        exact Bool.noConfusion (hnone.symm.trans hlink)
      simp [checkOne, checkLeaf, hfield, hparens, hnegated, hlink] at hcheck
  | group innerId b h l r =>
      by_contra hnot
      rw [checkOne, if_neg (show ¬ (b.field.isSome || b.hasModifiers) = true from hnot)] at hcheck
      cases hcheck

theorem held_of_isFirm (h : t.isFirm = true) (hleaves : t.leaves ≠ []) : t.held = 1 := by
  cases t with
  | nil => cases h
  | leaf => cases h
  | group id a g l r =>
      have hlink : g.isLink a = false := by
        rcases Bool.or_eq_true_iff.1 (show (a.field.isSome || a.hasModifiers) = true from h) with h | h
        · simp [Group.isLink, Option.isNone_eq_false_iff.2 h]
        · simp [Group.isLink, h]
      rw [held_of_not_link hlink, if_pos hleaves]

/-- A link group has a right side if and only if at least two of its clauses hold a leaf. -/
theorem IsTidy.right_ne_nil_iff (h : (group id a g l r).IsTidy false) (hlink : g.isLink a = true) :
    r ≠ nil ↔ 2 ≤ (group id a g l r).held := by
  have hl := held_pos_iff.2 (h.1.leaves_ne_nil (left_ne_nil_of_check h.2.2))
  rw [held_link hlink]
  by_cases hr : r = nil
  · subst hr
    have hfirm := held_of_isFirm (h.isFirm_left hlink) (held_pos_iff.1 hl)
    exact iff_of_false (fun hne => hne rfl) (by rw [hfirm]; decide)
  · have hr' := held_pos_iff.2 (h.2.1.leaves_ne_nil hr)
    exact iff_of_true hr (Nat.add_le_add hl hr')

end Tidy

end Tree

/-- A tidy link group has two sides if and only if at least two of its clauses hold a leaf, and
otherwise what is in it is a single group with a field or with modifiers. -/
theorem Store.IsQuery.sides_of_tidy_link {s : Store} {id : NodeId} (h : s.IsQuery)
    (hid : id ∈ s.tree.ids) (hlink : (s.view id).isLink = true) (htidy : (s.view id).IsTidy false) :
    ((s.left? id).isSome ∧ (s.right? id).isSome ↔ 2 ≤ (s.view id).held) ∧
      ((s.view id).held < 2 → ∃ only, s.children id = [only] ∧ s.isGroup only ∧
        ((s.attrs only).field.isSome ∨ (s.attrs only).hasModifiers)) := by
  obtain ⟨a, g, l, r, hgroup⟩ := h.exists_view_eq_group
    ((h.isGroup_view hid).symm.trans (Tree.isGroup_of_isLink hlink))
  have hleft : s.left? id = l.id? :=
    (h.slot?_eq hid .left).trans (congrArg (fun t => Tree.id? t.left) hgroup)
  have hright : s.right? id = r.id? :=
    (h.slot?_eq hid .right).trans (congrArg (fun t => Tree.id? t.right) hgroup)
  have hmem := h.view_mem_subtrees hid
  rw [hgroup] at htidy hlink hmem ⊢
  have hlne := Tree.left_ne_nil_of_check htidy.2.2
  obtain ⟨only, honly⟩ := Option.isSome_iff_exists.1 (Tree.isSome_id?_iff.2 hlne)
  have htwo := htidy.right_ne_nil_iff hlink
  refine ⟨by rw [hleft, hright, honly, Tree.isSome_id?_iff, htwo]; exact and_iff_right rfl, ?_⟩
  intro hone
  obtain rfl : r = .nil := by
    by_contra hr
    exact Nat.not_le.2 hone (htwo.1 hr)
  have hpart : l ∈ s.tree.subtrees :=
    Tree.mem_subtrees_trans (Tree.mem_subtrees_of_left (Tree.self_mem_subtrees hlne)) hmem
  have honlymem := Tree.mem_ids_of_mem_subtrees hpart honly
  refine ⟨only, by rw [Store.children, hleft, hright, honly]; rfl, ?_⟩
  rw [← h.isGroup_view honlymem, ← h.attrs_view honlymem, h.view_eq_of_mem_subtrees hpart honly]
  exact Tree.isFirm_iff.1 (htidy.isFirm_left hlink)

/-- A link group that is left when the tree is tidied up is what a link group of before has come to,
and it keeps the number of clauses that hold a leaf. -/
theorem Store.IsQuery.link_before_cleanup {s s' : Store} {id : NodeId} (h : s.IsQuery)
    (h' : s'.IsQuery) (htree : s'.tree = s.tree.cleanup true) (hroot : s'.root = s.root)
    (hid : id ∈ s'.tree.ids) (hlink : s'.isLink id) :
    id ∈ s.tree.ids ∧ s.isLink id ∧ (s'.view id).IsTidy false ∧
      ((s.view id).clauses s.root).countP (fun clause => clause.leaves ≠ []) =
        (s'.view id).held := by
  obtain ⟨hlink', hne⟩ := (h'.isLink_iff hid).1 hlink
  have hmem := h'.view_mem_subtrees hid
  have hid' := h'.id?_view hid
  have hwhole : s'.view id ≠ s'.tree := fun heq =>
    hne (Option.some.inj (hid'.symm.trans ((congrArg Tree.id? heq).trans (h'.id?_view h'.root_mem))))
  obtain ⟨v, hv, hcleanup⟩ : ∃ v ∈ s.tree.subtrees, s'.view id = v.cleanup false := by
    have heither := Tree.exists_eq_cleanup (htree ▸ hmem) (Tree.isGroup_of_isLink hlink')
    exact heither.resolve_left (htree ▸ hwhole)
  obtain ⟨hvlink, hvid⟩ := Tree.isLink_of_isLink_cleanup (hcleanup ▸ hlink')
  have hvid : v.id? = some id := hvid.symm.trans (hcleanup ▸ hid')
  have hold := Tree.mem_ids_of_mem_subtrees hv hvid
  obtain rfl : s.view id = v := h.view_eq_of_mem_subtrees hv hvid
  have htidy := htree ▸ Tree.isTidy_cleanup s.tree true
  refine ⟨hold, (h.isLink_iff hold).2 ⟨hvlink, hroot ▸ hne⟩,
    ((htidy.subtree hmem).resolve_left hwhole).1, ?_⟩
  rw [hcleanup, Tree.held_cleanup]
  exact Tree.countP_clauses hvlink (h.root_notMem_view hold (hroot ▸ hne))

namespace Pass

variable {s : Session}

/-- A link group that tidying up leaves was a link group before. It has two sides if and only if at
least two of the clauses in it held a leaf. If only one did, what is left of that stands alone in the
link group, a group with a field or with modifiers. -/
theorem links_after_cleanup (h : s.store.IsQuery) :
    ∃ s', cleanup.run s.store.root s = (.ok s.store.root, s') ∧ s'.store.IsQuery ∧
      ∀ id ∈ s'.store.tree.ids, s'.store.isLink id →
        let held := ((s.store.view id).clauses s.store.root).countP fun clause => clause.leaves ≠ []
        id ∈ s.store.tree.ids ∧ s.store.isLink id ∧
          ((s'.store.left? id).isSome ∧ (s'.store.right? id).isSome ↔ 2 ≤ held) ∧
          (held < 2 → ∃ only, s'.store.children id = [only] ∧ s'.store.isGroup only ∧
            ((s'.store.attrs only).field.isSome ∨ (s'.store.attrs only).hasModifiers)) := by
  obtain ⟨s', hrun, hs', htree, hroot, -, -⟩ := exists_run_cleanup h
  refine ⟨s', hrun, hs', fun id hid hlink => ?_⟩
  obtain ⟨hold, hbefore, htidy, hheld⟩ := h.link_before_cleanup hs' htree hroot hid hlink
  refine ⟨hold, hbefore, ?_⟩
  rw [hheld]
  exact hs'.sides_of_tidy_link hid ((hs'.isLink_iff hid).1 hlink).1 htidy

/-- In `a b () +(c d)` the link group of `b` keeps its two sides, and in the one inside it `+(c d)`
is left alone. -/
theorem links_after_cleanup_of_signed_group :
    let plus : Attributes := { Attributes.plain with sign := some .must }
    let word (id : NodeId) (text : String) : Tree := .leaf id .plain (.term ⟨text, .bare⟩)
    let s : Session := ⟨.ofTree (.group 0 .plain .plain (word 1 "a") (.group 2 .plain .plain (word 3 "b")
      (.group 4 .plain .plain (.group 5 .plain ⟨.default, true⟩ .nil .nil)
        (.group 6 plus ⟨.default, true⟩ (word 7 "c") (word 8 "d"))))), .empty⟩
    ∃ s', cleanup.run s.store.root s = (.ok s.store.root, s') ∧ s'.store.isLink 2 ∧
      (s'.store.left? 2).isSome ∧ (s'.store.right? 2).isSome ∧ s'.store.isLink 4 ∧
      ∃ only, s'.store.children 4 = [only] ∧ s'.store.isGroup only := by
  intro plus word s
  have hs : s.store.IsQuery := ⟨Store.wellFormed_ofTree rfl (by decide), by decide⟩
  obtain ⟨s', hrun, -, hlinks⟩ := links_after_cleanup hs
  have hs' : (cleanup.run s.store.root s).2 = s' := congrArg Prod.snd hrun
  have htwo : s'.store.isLink 2 = true := by rw [← hs']; decide +kernel
  have hfour : s'.store.isLink 4 = true := by rw [← hs']; decide +kernel
  obtain ⟨-, -, hsides, -⟩ := hlinks 2 (by rw [← hs']; decide +kernel) htwo
  obtain ⟨-, -, -, halone⟩ := hlinks 4 (by rw [← hs']; decide +kernel) hfour
  obtain ⟨hleft, hright⟩ := hsides.2 (by decide +kernel)
  obtain ⟨only, honly, hgroup, -⟩ := halone (by decide +kernel)
  exact ⟨s', hrun, htwo, hleft, hright, hfour, only, honly, hgroup⟩

/-- In `a () x:(b c)` the link group around the empty group stays behind with one side. -/
theorem link_left_with_one_clause :
    let named (field : String) : Attributes := { Attributes.plain with field := some field }
    let word (id : NodeId) (text : String) : Tree := .leaf id .plain (.term ⟨text, .bare⟩)
    let s : Session := ⟨.ofTree (.group 0 .plain .plain (word 1 "a") (.group 2 .plain .plain
      (.group 3 .plain ⟨.default, true⟩ .nil .nil)
      (.group 4 (named "x") ⟨.default, true⟩ (word 5 "b") (word 6 "c")))), .empty⟩
    s.store.IsQuery ∧ ∃ s', cleanup.run s.store.root s = (.ok s.store.root, s') ∧
      2 ∈ s'.store.tree.ids ∧ s'.store.isLink 2 ∧ s'.store.left? 2 = some 4 ∧
      s'.store.right? 2 = none := by
  intro named word s
  have hs : s.store.IsQuery := ⟨Store.wellFormed_ofTree rfl (by decide), by decide⟩
  obtain ⟨s', hrun, -⟩ := exists_run_cleanup hs
  have hs' : (cleanup.run s.store.root s).2 = s' := congrArg Prod.snd hrun
  refine ⟨hs, s', hrun, ?_⟩
  rw [← hs']
  decide +kernel

end Pass

end SearchQuery
