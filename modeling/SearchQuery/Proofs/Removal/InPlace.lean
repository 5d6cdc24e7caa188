import SearchQuery.Pass.Removal
import SearchQuery.Proofs.Store.Rewriting

/-!
# Dropping fields in a store

Nodes are taken out of a store while it is walked through: a node that goes gives the group that held
it back, and the walk goes on with what is in the other slot of that group. From any node of a query
this comes to what `Tree.removeFields` makes of the tree there, `yields_removal`.
-/

namespace SearchQuery

namespace Store

variable {s : Store} {id : NodeId}

theorem Rooted.puts_drop (hs : s.Rooted) (hid : id ∈ s.tree.ids) (hne : id ≠ s.root) :
    Puts s (s.drop id).2 id .nil := by
  obtain ⟨p, hp⟩ := hs.exists_parent hid hne
  rw [drop, isRoot, decide_eq_false (Ne.symm hne)]
  simp only [Bool.false_eq_true, if_false, hp]
  exact hs.removeSelf hid hne

theorem drop_root (s : Store) : s.drop s.root = (s.root,
    ((s.setLeft s.root none).setRight s.root none).modifyAttrs s.root ({ · with field := none })) := by
  simp [drop, removeSelf, isRoot]

theorem Rooted.puts_drop_root (hs : s.Rooted) :
    Puts s (s.drop s.root).2 s.root (s.view s.root).emptied := by
  have hself := Puts.refl hs hs.shows.mem
  have htop := hs.id?_view hs.shows.mem
  rw [drop_root]
  cases hview : s.view s.root with
  | nil => exact absurd hview (hs.view_ne_nil hs.shows.mem)
  | leaf x a l =>
      rw [hview] at hself htop
      have hgroup : ¬ s.isGroup s.root := by
        rw [hself.isGroup_top htop]
        exact Bool.false_ne_true
      rw [setLeft, setSlot_of_not_isGroup hgroup, setRight, setSlot_of_not_isGroup hgroup]
      exact hself.modifyAttrs htop ({ · with field := none })
  | group x a g l r =>
      rw [hview] at hself htop
      cases htop
      exact hself.clear_left.clear_right.modifyAttrs rfl ({ · with field := none })

end Store

namespace Tree

variable {unwanted : String → Bool}

theorem id?_emptied (t : Tree) : t.emptied.id? = t.id? := by
  cases t <;> rfl

theorem removeFields_of_unwanted {t : Tree} (h : isUnwanted unwanted t.attrs) (isRoot : Bool) :
    t.removeFields unwanted isRoot = if isRoot then t.emptied else .nil := by
  cases isRoot with
  | true => exact if_pos h
  | false => cases t <;> first | rfl | exact if_pos h

theorem removeFields_leaf {id : NodeId} {a : Attributes} (h : ¬ isUnwanted unwanted a) (l : Leaf)
    (isRoot : Bool) : (leaf id a l).removeFields unwanted isRoot = leaf id a l := by
  have hneg : ¬ (isRoot && isUnwanted unwanted a) := fun hroot => h (Bool.and_eq_true_iff.1 hroot).2
  exact (if_neg hneg).trans (if_neg h)

theorem removeFields_group {id : NodeId} {a : Attributes} (h : ¬ isUnwanted unwanted a) (g : Group)
    (l r : Tree) (isRoot : Bool) : (group id a g l r).removeFields unwanted isRoot =
      group id a g (l.removeFields unwanted false) (r.removeFields unwanted false) := by
  have hneg : ¬ (isRoot && isUnwanted unwanted a) := fun hroot => h (Bool.and_eq_true_iff.1 hroot).2
  exact (if_neg hneg).trans (if_neg h)

end Tree

namespace Rewriter

open Store

variable {s : Store} {id : NodeId} (unwanted : String → Bool)

def Removes (id : NodeId) (t : Tree) (s : Store) (out : NodeId × Store) : Prop :=
  s.Yields id (t.removeFields unwanted (s.isRoot id)) out

theorem tells_removal (hs : s.Rooted) (hid : id ∈ s.tree.ids) {t : Tree} (hview : s.view id = t) :
    (Rewriter.removal unwanted).Tells (Removes unwanted) id t s := by
  have hself := Puts.of_view hs hid hview
  have hattrs : t.attrs = s.attrs id := hview ▸ hs.attrs_view hid
  have htop : t.id? = some id := hview ▸ hs.id?_view hid
  by_cases hunwanted : Tree.isUnwanted unwanted t.attrs
  · have henter : (Rewriter.removal unwanted).enter id s = (some (s.drop id).1, (s.drop id).2) :=
      if_pos (hattrs ▸ hunwanted)
    refine .stop henter ?_
    rw [Removes, Tree.removeFields_of_unwanted hunwanted]
    by_cases hroot : id = s.root
    · subst hroot
      have hdrop := hs.puts_drop_root
      rw [hview] at hdrop
      rw [if_pos (by simp [isRoot])]
      refine ⟨hdrop, fun c hc => ?_⟩
      rw [Tree.id?_emptied, htop] at hc
      exact (congrArg Prod.fst (drop_root s)).trans (Option.some.inj hc)
    · rw [isRoot, decide_eq_false (Ne.symm hroot), if_neg Bool.false_ne_true]
      exact ⟨hs.puts_drop hid hroot, fun c hc => by cases hc⟩
  · have henter : (Rewriter.removal unwanted).enter id s = (none, s) :=
      if_neg (hattrs ▸ hunwanted)
    cases t with
    | nil => cases htop
    | leaf x a l =>
        cases htop
        refine .leaf henter hself ?_
        rw [Removes, Tree.removeFields_leaf (a := a) hunwanted]
        exact ⟨hself, fun c hc => Option.some.inj hc⟩
    | group x a g l r =>
        cases htop
        refine .group henter hself ?_ fun s₁ s₂ hleft hright => ?_
        · rw [Tree.ids, List.length_cons, List.length_append]
          exact Nat.lt_succ_self _
        · have hslot : ∀ {u : Tree} {c : NodeId} {s : Store} {out : NodeId × Store}, c ≠ s.root →
              Removes unwanted c u s out → Puts s out.2 c (u.removeFields unwanted false) := by
            rintro u c s out hne ⟨hputs, -⟩
            rwa [isRoot, decide_eq_false (Ne.symm hne)] at hputs
          have h₁ := hleft.left (Rewriter.removal unwanted).store hself (fun hnil => by rw [hnil]; rfl)
            fun c out => hslot
          have h₂ := hright.right (Rewriter.removal unwanted).store h₁ (fun hnil => by rw [hnil]; rfl)
            fun c out => hslot
          rw [Removes, Tree.removeFields_group (a := a) hunwanted]
          exact ⟨h₂, fun c hc => Option.some.inj hc⟩

theorem yields_removal (hs : s.Rooted) (hid : id ∈ s.tree.ids) :
    s.Yields id ((s.view id).removeFields unwanted (s.isRoot id))
      ((Rewriter.removal unwanted).visit id s) :=
  visit_of_tells (fun h => ⟨_, h.puts⟩) (fun hs hid hview => tells_removal unwanted hs hid hview) hs hid

end Rewriter

end SearchQuery
