import SearchQuery.Proofs.Query.Leaves
import SearchQuery.Proofs.Query.Subtrees

/-!
# The clauses of a group

`Tree.clauses` works through a list of pending trees and opens link groups on the way. `Tree.opened`
says by recursion on a tree what comes of it: a link group is opened on both sides, and everything
else is a clause. In the slots of a group the root cannot stand, so the two come to the same list,
`clauses_eq_opened`.

A clause may hold no leaf. `Tree.held` counts those that do.
-/

namespace SearchQuery.Tree

variable {root id : NodeId} {a : Attributes} {g : Group} {l r t u : Tree}

/-- The clauses in a slot, link groups opened. -/
def opened : Tree → List Tree
  | nil => []
  | leaf id a l => [leaf id a l]
  | group id a g l r => if g.isLink a then l.opened ++ r.opened else [group id a g l r]

theorem opened_link (h : g.isLink a) : (group id a g l r).opened = l.opened ++ r.opened :=
  if_pos h

theorem opened_of_not_link (h : g.isLink a = false) :
    (group id a g l r).opened = [group id a g l r] :=
  if_neg (Bool.eq_false_iff.1 h)

theorem clausesOf_eq_flatMap {pending : List Tree} (h : ∀ t ∈ pending, root ∉ t.ids) :
    clausesOf root pending = pending.flatMap opened := by
  fun_induction clausesOf root pending with
  | case1 => rfl
  | case2 pending ih => exact ih fun t ht => h t (.tail _ ht)
  | case3 id a l pending ih =>
      rw [ih fun t ht => h t (.tail _ ht)]
      rfl
  | case4 id a g l r pending hlink ih =>
      have htop := h _ (.head _)
      simp only [ids, List.mem_cons, List.mem_append, not_or] at htop
      rw [List.flatMap_cons, opened_link (Bool.and_eq_true_iff.1 hlink).1, List.append_assoc]
      refine ih fun t ht => ?_
      rcases List.mem_cons.1 ht with rfl | ht
      · exact htop.2.1
      · rcases List.mem_cons.1 ht with rfl | ht
        · exact htop.2.2
        · exact h t (.tail _ ht)
  | case5 id a g l r pending hlink ih =>
      have htop := h _ (.head _)
      rw [ids, List.mem_cons, not_or] at htop
      have hnot : g.isLink a = false := by
        simpa [Ne.symm htop.1] using hlink
      rw [ih fun t ht => h t (.tail _ ht), List.flatMap_cons, opened_of_not_link hnot]
      rfl

theorem clauses_eq_opened (hl : root ∉ l.ids) (hr : root ∉ r.ids) :
    (group id a g l r).clauses root = l.opened ++ r.opened := by
  have hslots : ∀ t ∈ [l, r], root ∉ t.ids :=
    List.forall_mem_cons.2 ⟨hl, List.forall_mem_singleton.2 hr⟩
  refine (clausesOf_eq_flatMap hslots).trans ?_
  rw [List.flatMap_cons, List.flatMap_singleton]

def held (t : Tree) : Nat :=
  t.opened.countP fun clause => clause.leaves ≠ []

theorem held_link (h : g.isLink a) : (group id a g l r).held = l.held + r.held := by
  rw [held, opened_link h, List.countP_append]
  rfl

theorem held_of_not_link (h : g.isLink a = false) :
    (group id a g l r).held = if (group id a g l r).leaves ≠ [] then 1 else 0 := by
  rw [held, opened_of_not_link h, List.countP_singleton]
  simp only [decide_eq_true_eq]

/-- In a link group below the root the clauses are those of the group itself in a slot. -/
theorem countP_clauses (hlink : t.isLink = true) (hroot : root ∉ t.ids) :
    (t.clauses root).countP (fun clause => clause.leaves ≠ []) = t.held := by
  cases t with
  | nil => cases hlink
  | leaf => cases hlink
  | group id a g l r =>
      simp only [ids, List.mem_cons, List.mem_append, not_or] at hroot
      rw [clauses_eq_opened hroot.2.1 hroot.2.2, List.countP_append, held_link hlink]
      rfl

theorem held_pos_iff : 0 < t.held ↔ t.leaves ≠ [] := by
  induction t with
  | nil => exact iff_of_false (Nat.lt_irrefl 0) fun h => h rfl
  | leaf => exact iff_of_true Nat.one_pos (List.cons_ne_nil _ _)
  | group id a g l r ihl ihr =>
      cases hlink : g.isLink a with
      | true =>
          rw [held_link hlink, Nat.add_pos_iff_pos_or_pos, ihl, ihr, leaves_group, ne_eq, ne_eq,
            ne_eq, List.append_eq_nil_iff, not_and_or]
      | false =>
          rw [held_of_not_link hlink]
          by_cases hnone : (group id a g l r).leaves = [] <;> simp [hnone]

end SearchQuery.Tree
