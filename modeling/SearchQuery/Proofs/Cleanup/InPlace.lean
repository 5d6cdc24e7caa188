import SearchQuery.Proofs.Cleanup.Checks
import SearchQuery.Proofs.Store.Rewriting

/-!
# Tidying up in a store

A group is settled in a store step by step, and each step does there what a check of the tree finds,
`follows_settleStep`: it leaves the group alone, moves what is in the group around, or puts something else
in the place of the group. So what a run of steps comes to is what a run of checks comes to,
`yields_settle`, and from any node of a query on tidying up comes to what `Tree.cleanup` makes of the tree
there. A tidy tree is not touched: the store that comes back is the very same, `tidiesUp_cleanup`.
-/

namespace SearchQuery

namespace Store

variable {s s' s₁ : Store} {id c d top : NodeId} {a b : Attributes} {g : Group} {f : Leaf}
  {t l r : Tree} {steps : Nat}

/-- A step in a store does what a check of the tree below the group finds. -/
def Follows (s : Store) (id : NodeId) : Check → Settling → Prop
  | .unchanged, .settled => True
  | .changed t, .changed s' => Puts s s' id t ∧ t.id? = some id
  | .moved t, .moved top s' => s.Yields id t (top, s')
  | _, _ => False

namespace Puts

theorem isLink_top (h : Puts s s' id (.group id a g l r)) :
    s'.isLink id = (g.isLink a && !s.isRoot id) := by
  rw [← h.isRoot_eq rfl]
  simp only [isLink, h.node?_top]

theorem yields_collapse (h : Puts s s' id (.group id a g (.leaf c b f) .nil)) :
    s.Yields id (.leaf c (a.takeOver b) f) (c, s'.collapse id c) := by
  refine ⟨?_, fun _ hc => Option.some.inj hc⟩
  rw [collapse, h.attrs_top rfl]
  exact ((h.modifyAttrs rfl ({ · with sign := none, boost := none, proximity := none })
    ).modifyAttrs_left rfl a.takeOver).lift rfl

theorem follows_settleLeaf (h : Puts s s' id (.group id a g (.leaf c b f) .nil)) :
    s.Follows id (Tree.checkLeaf (s.isRoot id) id a g c b f) (s'.settleLeaf id a g c b) := by
  rw [Tree.checkLeaf, settleLeaf, h.isRoot_eq rfl, h.isLink_top]
  split
  · trivial
  · split
    · exact ⟨(h.modifyAttrs_left rfl ({ · with negation := .unspecified })).modifyAttrs rfl
        ({ · with negation := a.negation.merge b.negation }), rfl⟩
    · split
      · split
        · exact ⟨h.modifyForm rfl ({ · with parens := false }), rfl⟩
        · split
          · exact h.yields_collapse
          · trivial
      · split
        · exact h.yields_collapse
        · trivial

theorem absorb {form : Group} (h : Puts s s' id (.group id a g (.group c b form l r) .nil))
    (negation : Negation) (joined : Group) :
    Puts s (s'.absorb id negation joined l.id? r.id?) id
      (.group id { a with negation := negation } joined l r) := by
  rw [Store.absorb]
  exact (h.unwrap.modifyAttrs rfl ({ · with negation := negation })).modifyForm rfl fun _ => joined

theorem follows_settleOne (h : Puts s s' id (.group id a g t .nil)) (hc : t.id? = some c) :
    s.Follows id (Tree.checkOne (s.isRoot id) id a g t) (s'.settleOne id a g c) := by
  cases t with
  | nil => cases hc
  | leaf x b f =>
      cases hc
      have hnode := h.after.node?_of_leaf (h.mem_left rfl) (h.view_left rfl)
      simp only [settleOne, hnode]
      exact h.follows_settleLeaf
  | group x b form l r =>
      cases hc
      have hnode := h.after.node?_of_group (h.mem_left rfl) (h.view_left rfl)
      simp only [settleOne, hnode, Tree.checkOne, h.isRoot_eq rfl]
      split
      · trivial
      · exact ⟨h.absorb _ _, rfl⟩

theorem follows_settleStep_nil (h : Puts s s' id (.group id a g .nil .nil)) :
    s.Follows id ((Tree.group id a g .nil .nil).check (s.isRoot id)) (s'.settleStep id) := by
  simp only [settleStep, h.node?_top, Tree.id?_nil, Tree.check, Tree.checkOne, h.isRoot_eq rfl]
  split
  · trivial
  · next hroot =>
      rw [← h.isRoot_eq rfl] at hroot
      have hne : id ≠ s'.root := fun heq => hroot (decide_eq_true heq.symm)
      exact ⟨h.trans rfl (h.after.removeSelf (h.mem_top rfl) hne), fun c hc => by cases hc⟩

theorem follows_settleStep (h : Puts s s' id t) (htop : t.id? = some id) :
    s.Follows id (t.check (s.isRoot id)) (s'.settleStep id) := by
  cases t with
  | nil => cases htop
  | leaf x a f =>
      cases htop
      simp only [settleStep, h.after.node?_of_leaf (h.mem_top rfl) (h.view_top rfl)]
      trivial
  | group x a g l r =>
      cases htop
      cases hr : r.id? with
      | none =>
          obtain rfl := Tree.id?_eq_none_iff.1 hr
          cases hl : l.id? with
          | none =>
              obtain rfl := Tree.id?_eq_none_iff.1 hl
              exact h.follows_settleStep_nil
          | some c =>
              simp only [settleStep, h.node?_top, hl, Tree.id?_nil]
              exact h.follows_settleOne hl
      | some d =>
          have hright : r ≠ .nil := by
            rintro rfl
            cases hr
          cases hl : l.id? with
          | none =>
              obtain rfl := Tree.id?_eq_none_iff.1 hl
              simp only [settleStep, h.node?_top, hr, Tree.id?_nil]
              rw [show (Tree.group id a g .nil r).check (s.isRoot id) =
                .changed (.group id a g r .nil) by cases r <;> first | rfl | exact absurd rfl hright]
              exact ⟨h.shift hr, rfl⟩
          | some c =>
              have hleft : l ≠ .nil := by
                rintro rfl
                cases hl
              simp only [settleStep, h.node?_top, hl, hr]
              rw [Tree.check_pair hleft hright]
              trivial

theorem yields_settleTo {out : Tree} (h : Puts s s' id t) (htop : t.id? = some id)
    (hchecked : Tree.Checked (s.isRoot id) t out) (hsteps : t.weight < steps) :
    s.Yields id out (s'.settleTo steps id) := by
  obtain ⟨steps, rfl⟩ := Nat.exists_eq_add_of_le' (Nat.one_le_of_lt hsteps)
  induction hchecked generalizing s' steps with
  | @unchanged t hcheck =>
      have hfollows := h.follows_settleStep htop
      rw [hcheck] at hfollows
      rw [settleTo]
      cases hstep : s'.settleStep id with
      | settled => exact ⟨h, fun c hc => Option.some.inj (htop.symm.trans hc)⟩
      | _ => rw [hstep] at hfollows; cases hfollows
  | @moved t now hcheck =>
      have hfollows := h.follows_settleStep htop
      rw [hcheck] at hfollows
      rw [settleTo]
      cases hstep : s'.settleStep id with
      | moved top s₁ => rwa [hstep] at hfollows
      | _ => rw [hstep] at hfollows; cases hfollows
  | @changed t t' out hcheck _ ih =>
      have hfollows := h.follows_settleStep htop
      have hlt := (Tree.changes_of_check hcheck).weight_lt
      rw [hcheck] at hfollows
      rw [settleTo]
      cases hstep : s'.settleStep id with
      | changed s₁ =>
          rw [hstep] at hfollows
          obtain ⟨h₁, htop₁⟩ := hfollows
          obtain ⟨steps, rfl⟩ := Nat.exists_eq_add_of_le' (show 1 ≤ steps by omega)
          exact ih h₁ htop₁ steps (by omega)
      | _ => rw [hstep] at hfollows; cases hfollows

theorem yields_settle {out : Tree} (h : Puts s s' id t) (htop : t.id? = some id)
    (hchecked : Tree.Checked (s.isRoot id) t out) : s.Yields id out (s'.settle id) := by
  refine h.yields_settleTo htop hchecked ?_
  have hlength := h.after.length_ids_view_le (h.mem_top htop)
  rw [h.view_top htop] at hlength
  have hweight := t.weight_le
  omega

end Puts

/-- A group that no check finds anything about is left alone. -/
theorem Puts.settle_eq (h : Puts s s' id t) (htop : t.id? = some id)
    (hcheck : t.check (s.isRoot id) = .unchanged) : s'.settle id = (id, s') := by
  have hfollows := h.follows_settleStep htop
  rw [hcheck] at hfollows
  rw [settle, settleTo]
  cases hstep : s'.settleStep id with
  | settled => rfl
  | _ => rw [hstep] at hfollows; cases hfollows

end Store

namespace Rewriter

open Store

variable {s : Store} {id : NodeId} {t : Tree}

def TidiesUp (id : NodeId) (t : Tree) (s : Store) (out : NodeId × Store) : Prop :=
  s.Yields id (t.cleanup (s.isRoot id)) out ∧ (t.IsTidy (s.isRoot id) → out = (id, s))

theorem tells_cleanup (hs : s.Rooted) (hid : id ∈ s.tree.ids) (hview : s.view id = t) :
    Rewriter.cleanup.Tells TidiesUp id t s := by
  have hself := Puts.of_view hs hid hview
  have htop : t.id? = some id := hview ▸ hs.id?_view hid
  cases t with
  | nil => cases htop
  | leaf x a l =>
      cases htop
      exact .leaf rfl hself ⟨hself.yields_settle rfl (.unchanged rfl), fun _ => hself.settle_eq rfl rfl⟩
  | group x a g l r =>
      cases htop
      refine .group rfl hself ?_ fun s₁ s₂ hleft hright => ?_
      · rw [Tree.ids, List.length_cons, List.length_append]
        exact Nat.lt_succ_self _
      · -- what is in a slot is not the root
        have hslot : ∀ {u : Tree} {c : NodeId} {s : Store} {out : NodeId × Store}, c ≠ s.root →
            TidiesUp c u s out →
            s.Yields c (u.cleanup false) out ∧ (u.IsTidy false → out = (c, s)) := by
          rintro u c s out hne htidies
          rwa [TidiesUp, isRoot, decide_eq_false (Ne.symm hne)] at htidies
        have h₁ := hleft.left Rewriter.cleanup.store hself (fun hnil => by rw [hnil]; rfl)
          fun c out hne htidies => (hslot hne htidies).1.puts
        have h₂ := hright.right Rewriter.cleanup.store h₁ (fun hnil => by rw [hnil]; rfl)
          fun c out hne htidies => (hslot hne htidies).1.puts
        refine ⟨h₂.yields_settle rfl (Tree.checked_settle ..), fun htidy => ?_⟩
        obtain ⟨htidyl, htidyr, hcheck⟩ := htidy
        obtain rfl : s₁ = s := by
          rcases hleft with ⟨-, rfl⟩ | ⟨c, top, hc, hvisit⟩
          · rfl
          · exact congrArg Prod.snd ((hslot (hself.ne_root_left hc) hvisit).2 htidyl)
        obtain rfl : s₂ = s₁ := by
          rcases hright with ⟨-, rfl⟩ | ⟨c, top, hc, hvisit⟩
          · rfl
          · exact congrArg Prod.snd ((hslot (hself.ne_root_right hc) hvisit).2 htidyr)
        exact hself.settle_eq rfl hcheck

theorem tidiesUp_cleanup (hs : s.Rooted) (hid : id ∈ s.tree.ids) :
    TidiesUp id (s.view id) s (Rewriter.cleanup.visit id s) :=
  visit_of_tells (fun h => ⟨_, h.1.puts⟩) (fun hs hid hview => tells_cleanup hs hid hview) hs hid

end Rewriter

end SearchQuery
