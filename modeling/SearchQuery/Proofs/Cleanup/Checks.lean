import Mathlib.Order.WellFounded
import SearchQuery.Pass.Cleanup

/-!
# The checks of a group

Once its sides are tidied up, a group is checked again and again until a check finds nothing to
change or the group leaves its place. `Tree.check` is one check. A check that changes the group
makes it lighter, so there is no endless run of them, `wellFounded_check`, and `Checked` says what a
run comes to. `Sweeps` puts the runs together to a traversal from the bottom up, and
`sweeps_iff_eq_cleanup` says that `cleanup` is what the traversal comes to.

A tree is tidy if no check of any of its groups finds anything. What tidying up leaves is tidy,
`isTidy_cleanup`, and a tidy tree is left as it is, `IsTidy.cleanup_eq`.
-/

namespace SearchQuery

/-- What a check of a group comes to. -/
inductive Check
  | unchanged
  | changed (group : Tree)
  /-- The group has left its place to something else, or to nothing. -/
  | moved (now : Tree)

namespace Tree

variable {isRoot : Bool} {t t' out : Tree}

def checkLeaf (isRoot : Bool) (id : NodeId) (a : Attributes) (g : Group) (leafId : NodeId)
    (b : Attributes) (l : Leaf) : Check :=
  if a.field.isSome then .unchanged
  else if a.negation.isNegated && b.negation.isExplicit then
    .changed (group id { a with negation := a.negation.merge b.negation } g
      (leaf leafId { b with negation := .unspecified } l) nil)
  else if g.parens then
    if a.negation.isNegated || isRoot then
      .changed (group id a { g with parens := false } (leaf leafId b l) nil)
    else if a.fitsOnto b then .moved (leaf leafId (a.takeOver b) l)
    else .unchanged
  else if g.isLink a && !isRoot then .moved (leaf leafId (a.takeOver b) l)
  else .unchanged

def checkOne (isRoot : Bool) (id : NodeId) (a : Attributes) (g : Group) : Tree → Check
  | nil => if isRoot then .unchanged else .moved nil
  | leaf leafId b l => checkLeaf isRoot id a g leafId b l
  | group _ inner innerForm l r =>
      if inner.field.isSome || inner.hasModifiers then .unchanged
      else
        let negation := a.negation.merge inner.negation
        .changed (group id { a with negation := negation }
          (absorbedForm isRoot negation g innerForm) l r)

/-- One check of a group. Where both sides hold something, and on a leaf, there is nothing to
change. -/
def check (isRoot : Bool) : Tree → Check
  | group id a g l nil => checkOne isRoot id a g l
  | group id a g nil r => .changed (group id a g r nil)
  | _ => .unchanged

theorem check_pair {id : NodeId} {a : Attributes} {g : Group} {l r : Tree} (hl : l ≠ nil)
    (hr : r ≠ nil) : (group id a g l r).check isRoot = .unchanged := by
  cases l <;> cases r <;> first | rfl | exact absurd rfl hl | exact absurd rfl hr

theorem left_ne_nil_of_check {id : NodeId} {a : Attributes} {g : Group} {l r : Tree}
    (h : (group id a g l r).check false = .unchanged) : l ≠ nil := by
  rintro rfl
  cases r <;> cases h

/-- Checks one after another come to an end, with `out` in the place of the group. -/
inductive Checked (isRoot : Bool) : Tree → Tree → Prop
  | unchanged {t : Tree} (h : t.check isRoot = .unchanged) : Checked isRoot t t
  | moved {t now : Tree} (h : t.check isRoot = .moved now) : Checked isRoot t now
  | changed {t t' out : Tree} (h : t.check isRoot = .changed t') (hout : Checked isRoot t' out) :
      Checked isRoot t out

/-- Tidying up as a traversal: the sides of a group first, then checks of the group until nothing
changes. -/
inductive Sweeps : Bool → Tree → Tree → Prop
  | nil {isRoot : Bool} : Sweeps isRoot nil nil
  | leaf {isRoot : Bool} {id : NodeId} {a : Attributes} {l : Leaf} :
      Sweeps isRoot (leaf id a l) (leaf id a l)
  | group {isRoot : Bool} {id : NodeId} {a : Attributes} {g : Group} {l l' r r' out : Tree}
      (hl : Sweeps false l l') (hr : Sweeps false r r')
      (hout : Checked isRoot (group id a g l' r') out) : Sweeps isRoot (group id a g l r) out

section Rules

/-- What a check can change about a group. -/
inductive Changes (isRoot : Bool) : Tree → Tree → Prop
  /-- A clause that is alone moves to the left. -/
  | shift {id a g r} (hr : r ≠ nil) : Changes isRoot (group id a g nil r) (group id a g r nil)
  /-- A group takes over from a group without a field and modifiers that is alone in it. -/
  | absorb {id a g innerId inner innerForm l r}
      (hinner : (inner.field.isSome || inner.hasModifiers) = false) :
      Changes isRoot (group id a g (group innerId inner innerForm l r) nil)
        (group id { a with negation := a.negation.merge inner.negation }
          (absorbedForm isRoot (a.negation.merge inner.negation) g innerForm) l r)
  /-- A negated group takes over what its leaf says of its negation. -/
  | fold {id a g leafId b l} (hfield : a.field = none) (hnegated : a.negation.isNegated = true)
      (hexplicit : b.negation.isExplicit = true) :
      Changes isRoot (group id a g (leaf leafId b l) nil)
        (group id { a with negation := a.negation.merge b.negation } g
          (leaf leafId { b with negation := .unspecified } l) nil)
  /-- A negated group, or the root, loses its parentheses. -/
  | unwrap {id a g leafId b l} (hfield : a.field = none) (hparens : g.parens = true)
      (hkept : (a.negation.isNegated || isRoot) = true) :
      Changes isRoot (group id a g (leaf leafId b l) nil)
        (group id a { g with parens := false } (leaf leafId b l) nil)

/-- What can come into the place of a group. -/
inductive Moves (isRoot : Bool) : Tree → Tree → Prop
  /-- An empty group goes. -/
  | drop {id a g} : Moves isRoot (group id a g nil nil) nil
  /-- A leaf takes over from the group around it. -/
  | hoist {id a g leafId b l} (hfield : a.field = none)
      (hgoes : g.parens = true ∨ g.isLink a = true) :
      Moves isRoot (group id a g (leaf leafId b l) nil) (leaf leafId (a.takeOver b) l)

def Does (isRoot : Bool) (t : Tree) : Check → Prop
  | .unchanged => True
  | .changed t' => Changes isRoot t t'
  | .moved now => Moves isRoot t now

theorem does_checkLeaf (isRoot : Bool) (id : NodeId) (a : Attributes) (g : Group)
    (leafId : NodeId) (b : Attributes) (l : Leaf) :
    Does isRoot (group id a g (leaf leafId b l) nil) (checkLeaf isRoot id a g leafId b l) := by
  rw [checkLeaf]
  split
  · trivial
  · next hfield =>
      have hnone : a.field = none := by simpa using hfield
      split
      · next hfold =>
          rw [Bool.and_eq_true] at hfold
          exact Changes.fold hnone hfold.1 hfold.2
      · split
        · next hparens =>
            split
            · next hkept => exact Changes.unwrap hnone hparens hkept
            · split
              · exact Moves.hoist hnone (.inl hparens)
              · trivial
        · split
          · next hlink => exact Moves.hoist hnone (.inr (Bool.and_eq_true_iff.1 hlink).1)
          · trivial

theorem does_checkOne (isRoot : Bool) (id : NodeId) (a : Attributes) (g : Group) (l : Tree) :
    Does isRoot (group id a g l nil) (checkOne isRoot id a g l) := by
  cases l with
  | nil =>
      rw [checkOne]
      split
      · trivial
      · exact Moves.drop
  | leaf => exact does_checkLeaf ..
  | group =>
      rw [checkOne]
      split
      · trivial
      · next hinner => exact Changes.absorb (Bool.eq_false_iff.2 hinner)

theorem does_check (t : Tree) (isRoot : Bool) : Does isRoot t (t.check isRoot) := by
  rw [check.eq_def]
  split
  · exact does_checkOne ..
  · next hr => exact Changes.shift hr
  · trivial

theorem changes_of_check (h : t.check isRoot = .changed t') : Changes isRoot t t' := by
  have hdoes := t.does_check isRoot
  rwa [h] at hdoes

theorem moves_of_check (h : t.check isRoot = .moved t') : Moves isRoot t t' := by
  have hdoes := t.does_check isRoot
  rwa [h] at hdoes

end Rules

section Ending

/-- How much checks can still change of a group. Absorbing another group takes a node away, which
outweighs all that comes with it. -/
def weight : Tree → Nat
  | group _ _ g l r =>
      3 * (l.size + r.size) + 2 * (l.isNil && !r.isNil).toNat + g.parens.toNat +
        l.attrs.negation.isExplicit.toNat
  | _ => 0

theorem size_le (t : Tree) : t.size ≤ 2 * t.ids.length + 1 := by
  induction t with
  | nil => exact Nat.le_refl _
  | leaf => exact Nat.le_add_left 1 2
  | group id a g l r ihl ihr =>
      rw [size, ids, List.length_cons, List.length_append]
      omega

theorem weight_le (t : Tree) : t.weight ≤ 6 * t.ids.length + 4 := by
  cases t with
  | nil => exact Nat.zero_le _
  | leaf => exact Nat.zero_le _
  | group id a g l r =>
      have hl := l.size_le
      have hr := r.size_le
      have hshift := Bool.toNat_le (l.isNil && !r.isNil)
      have hparens := Bool.toNat_le g.parens
      have hexplicit := Bool.toNat_le l.attrs.negation.isExplicit
      rw [weight, ids, List.length_cons, List.length_append]
      omega

/-- A check that changes a group makes it lighter. -/
theorem Changes.weight_lt (h : Changes isRoot t t') : t'.weight < t.weight := by
  cases h with
  | @shift id a g r hr =>
      have hexplicit := Bool.toNat_le r.attrs.negation.isExplicit
      have hplain : nil.attrs.negation.isExplicit = false := rfl
      simp only [weight, size, isNil, hplain, Bool.not_false, Bool.and_true, Bool.not_true,
        Bool.and_false, Bool.toNat_true, Bool.toNat_false]
      omega
  | @absorb id a g innerId inner innerForm l r =>
      have hshift := Bool.toNat_le (l.isNil && !r.isNil)
      have hparens := Bool.toNat_le
        (absorbedForm isRoot (a.negation.merge inner.negation) g innerForm).parens
      have hexplicit := Bool.toNat_le l.attrs.negation.isExplicit
      simp only [weight, size]
      omega
  | fold _ _ hexplicit =>
      simp only [weight, size, attrs, hexplicit]
      exact Nat.lt_succ_self _
  | unwrap _ hparens => simp [weight, hparens, attrs]

theorem wellFounded_check (isRoot : Bool) :
    WellFounded fun t' t : Tree => t.check isRoot = .changed t' :=
  Subrelation.wf (fun h => (changes_of_check h).weight_lt) (measure weight).wf

end Ending

section Cleanup

theorem Checked.unique {out' : Tree} (h : Checked isRoot t out) (h' : Checked isRoot t out') :
    out = out' := by
  induction h with
  | unchanged h =>
      cases h' with
      | unchanged => rfl
      | moved h' => cases h.symm.trans h'
      | changed h' => cases h.symm.trans h'
  | moved h =>
      cases h' with
      | unchanged h' => cases h.symm.trans h'
      | moved h' =>
          cases h.symm.trans h'
          rfl
      | changed h' => cases h.symm.trans h'
  | changed h _ ih =>
      cases h' with
      | unchanged h' => cases h.symm.trans h'
      | moved h' => cases h.symm.trans h'
      | changed h' hout' =>
          cases h.symm.trans h'
          exact ih hout'

theorem checked_leaf_of_not_fold {id : NodeId} {a : Attributes} {g : Group} {leafId : NodeId}
    {b : Attributes} {l : Leaf} (hfield : a.field.isSome = false)
    (hfold : (a.negation.isNegated && b.negation.isExplicit) = false) :
    Checked isRoot (group id a g (leaf leafId b l) nil)
      (if g.parens && (a.negation.isNegated || isRoot) then
        group id a { g with parens := false } (leaf leafId b l) nil
      else if g.parens && !a.fitsOnto b then group id a g (leaf leafId b l) nil
      else if g.parens || (g.isLink a && !isRoot) then leaf leafId (a.takeOver b) l
      else group id a g (leaf leafId b l) nil) := by
  have hcheck : ∀ g : Group, (group id a g (leaf leafId b l) nil).check isRoot =
      if g.parens then
        if a.negation.isNegated || isRoot then
          .changed (group id a { g with parens := false } (leaf leafId b l) nil)
        else if a.fitsOnto b then .moved (leaf leafId (a.takeOver b) l)
        else .unchanged
      else if g.isLink a && !isRoot then .moved (leaf leafId (a.takeOver b) l)
      else .unchanged := by
    intro g
    rw [check, checkOne, checkLeaf, hfield, hfold]
    rfl
  -- without parentheses a negated group, or the root, is no link group
  have hbare : (a.negation.isNegated || isRoot) = true →
      Checked isRoot (group id a { g with parens := false } (leaf leafId b l) nil)
        (group id a { g with parens := false } (leaf leafId b l) nil) := by
    intro hkept
    refine .unchanged ((hcheck _).trans ?_)
    rcases Bool.or_eq_true_iff.1 hkept with hnegated | hroot
    · simp [Group.isLink, Negation.isExplicit_of_isNegated hnegated]
    · simp [hroot]
  cases hparens : g.parens with
  | true =>
      cases hkept : a.negation.isNegated || isRoot with
      | true => exact .changed (by rw [hcheck, hparens, hkept]; rfl) (hbare hkept)
      | false =>
          cases hfits : a.fitsOnto b with
          | true => exact .moved (by rw [hcheck, hparens, hkept, hfits]; rfl)
          | false => exact .unchanged (by rw [hcheck, hparens, hkept, hfits]; rfl)
  | false =>
      cases hlink : g.isLink a && !isRoot with
      | true => exact .moved (by rw [hcheck, hparens, hlink]; rfl)
      | false => exact .unchanged (by rw [hcheck, hparens, hlink]; rfl)

theorem checked_settleLeaf (isRoot : Bool) (id : NodeId) (a : Attributes) (g : Group)
    (leafId : NodeId) (b : Attributes) (l : Leaf) :
    Checked isRoot (group id a g (leaf leafId b l) nil) (settleLeaf isRoot id a g leafId b l) := by
  rw [settleLeaf]
  split
  · next hfield => exact .unchanged (by rw [check, checkOne, checkLeaf, if_pos hfield])
  · next hfield =>
      have hnone : a.field.isSome = false := Bool.eq_false_iff.2 hfield
      by_cases hfold : (a.negation.isNegated && b.negation.isExplicit) = true
      · rw [show a.foldNegation b = ({ a with negation := a.negation.merge b.negation },
          { b with negation := .unspecified }) from if_pos hfold]
        refine .changed (by rw [check, checkOne, checkLeaf, if_neg hfield, if_pos hfold]) ?_
        exact checked_leaf_of_not_fold hnone (by simp [Negation.isExplicit])
      · rw [show a.foldNegation b = (a, b) from if_neg hfold]
        exact checked_leaf_of_not_fold hnone (Bool.eq_false_iff.2 hfold)

theorem checked_shift {id : NodeId} {a : Attributes} {g : Group} {r : Tree}
    (h : Checked isRoot (group id a g r nil) out) : Checked isRoot (group id a g nil r) out := by
  cases r with
  | nil => exact h
  | leaf => exact .changed rfl h
  | group => exact .changed rfl h

theorem checked_settleOne (isRoot : Bool) (id : NodeId) (a : Attributes) (g : Group) (t : Tree) :
    Checked isRoot (group id a g t nil) (settleOne isRoot id a g t) := by
  induction t generalizing a g with
  | nil =>
      rw [settleOne]
      cases isRoot with
      | true => exact .unchanged rfl
      | false => exact .moved rfl
  | leaf leafId b l => exact checked_settleLeaf isRoot id a g leafId b l
  | group innerId inner innerForm l r ihl ihr =>
      rw [settleOne.eq_def]
      dsimp only
      split
      · next hkept => exact .unchanged (by rw [check, checkOne, if_pos hkept])
      · next hplain =>
          refine .changed (by rw [check, checkOne, if_neg hplain]) ?_
          split
          · exact ihl _ _
          · exact checked_shift (ihr _ _)
          · next hl hr => exact .unchanged (check_pair hl hr)

theorem checked_settle (isRoot : Bool) (id : NodeId) (a : Attributes) (g : Group) (l r : Tree) :
    Checked isRoot (group id a g l r) (settle isRoot id a g l r) := by
  rw [settle.eq_def]
  split
  · exact checked_settleOne isRoot id a g _
  · exact checked_shift (checked_settleOne isRoot id a g _)
  · next hl hr => exact .unchanged (check_pair hl hr)

theorem sweeps_cleanup (t : Tree) (isRoot : Bool) : Sweeps isRoot t (t.cleanup isRoot) := by
  induction t generalizing isRoot with
  | nil => exact .nil
  | leaf => exact .leaf
  | group id a g l r ihl ihr =>
      exact .group (ihl false) (ihr false) (checked_settle isRoot id a g _ _)

/-- Whatever the traversal comes to is what tidying up leaves. -/
theorem Sweeps.eq_cleanup (h : Sweeps isRoot t out) : out = t.cleanup isRoot := by
  induction h with
  | nil => rfl
  | leaf => rfl
  | group _ _ hout ihl ihr =>
      subst ihl ihr
      exact hout.unique (checked_settle ..)

/-- Tidying up is what the traversal comes to, and nothing else. -/
theorem sweeps_iff_eq_cleanup : Sweeps isRoot t out ↔ out = t.cleanup isRoot :=
  ⟨Sweeps.eq_cleanup, fun h => h ▸ sweeps_cleanup t isRoot⟩

end Cleanup

section Tidy

/-- No check of any group finds anything to change. -/
def IsTidy (isRoot : Bool) : Tree → Prop
  | nil => True
  | leaf .. => True
  | group id a g l r =>
      l.IsTidy false ∧ r.IsTidy false ∧ (group id a g l r).check isRoot = .unchanged

def SidesTidy (t : Tree) : Prop :=
  t.left.IsTidy false ∧ t.right.IsTidy false

theorem IsTidy.sides (h : t.IsTidy isRoot) : t.SidesTidy := by
  cases t with
  | nil => exact ⟨trivial, trivial⟩
  | leaf => exact ⟨trivial, trivial⟩
  | group => exact ⟨h.1, h.2.1⟩

/-- A check leaves the sides of a group tidy. -/
theorem SidesTidy.changes (h : t.SidesTidy) (hchanges : Changes isRoot t t') : t'.SidesTidy := by
  cases hchanges with
  | shift => exact ⟨h.2, trivial⟩
  | absorb => exact h.1.sides
  | fold => exact ⟨trivial, trivial⟩
  | unwrap => exact ⟨trivial, trivial⟩

theorem Moves.isTidy (h : Moves isRoot t t') (isRoot' : Bool) : t'.IsTidy isRoot' := by
  cases h with
  | drop => trivial
  | hoist => trivial

theorem Checked.isTidy (h : Checked isRoot t out) (hsides : t.SidesTidy) :
    out.IsTidy isRoot := by
  induction h with
  | @unchanged t hcheck =>
      cases t with
      | nil => trivial
      | leaf => trivial
      | group => exact ⟨hsides.1, hsides.2, hcheck⟩
  | moved hcheck => exact (moves_of_check hcheck).isTidy isRoot
  | changed hcheck _ ih => exact ih (hsides.changes (changes_of_check hcheck))

theorem isTidy_cleanup (t : Tree) (isRoot : Bool) : (t.cleanup isRoot).IsTidy isRoot := by
  induction t generalizing isRoot with
  | nil => trivial
  | leaf => trivial
  | group id a g l r ihl ihr =>
      exact (checked_settle isRoot id a g _ _).isTidy ⟨ihl false, ihr false⟩

theorem IsTidy.cleanup_eq (h : t.IsTidy isRoot) : t.cleanup isRoot = t := by
  induction t generalizing isRoot with
  | nil => rfl
  | leaf => rfl
  | group id a g l r ihl ihr =>
      obtain ⟨hl, hr, hcheck⟩ := h
      rw [cleanup, ihl hl, ihr hr]
      exact (checked_settle isRoot id a g l r).unique (.unchanged hcheck)

end Tidy

end Tree

end SearchQuery
