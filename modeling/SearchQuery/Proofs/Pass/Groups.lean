import SearchQuery.Pass
import SearchQuery.Proofs.Cleanup.Rules
import SearchQuery.Proofs.Inversion.Clauses

/-!
# What stays a group

The root of a query is a group, and no pass makes anything else of it. Inside, tidying up and removal
may put a leaf or nothing in the place of a group; as the root it stays.
-/

namespace SearchQuery.Tree

theorem isGroup_resolveAliases (r : AliasResolver) (t : Tree) :
    (t.resolveAliases r).isGroup = t.isGroup := by
  cases t <;> rfl

theorem isGroup_assignOperations (t : Tree) : t.assignOperations.isGroup = t.isGroup := by
  cases t with
  | nil => rfl
  | leaf id a l => cases l <;> rfl
  | group id a g l r =>
      rw [assignOperations]
      split <;> rfl

theorem isGroup_expand {t : Tree} (h : t.isGroup) (e : Expansion) (chain : List String)
    (s : Splicing) : (t.expand e chain s).1.isGroup := by
  cases t with
  | nil => cases h
  | leaf => cases h
  | group id a g l r =>
      rw [expand]
      rfl

theorem isGroup_removeFields {t : Tree} (h : t.isGroup) (unwanted : String → Bool) :
    (t.removeFields unwanted true).isGroup := by
  cases t with
  | nil => cases h
  | leaf => cases h
  | group id a g l r =>
      rw [removeFields, Bool.true_and, attrs]
      by_cases hunwanted : isUnwanted unwanted a
      · rw [if_pos hunwanted]
        rfl
      · rw [if_neg hunwanted, removeBelow, if_neg hunwanted]
        rfl

theorem isGroup_settleOne (id : NodeId) (a : Attributes) (g : Group) (t : Tree) :
    (settleOne true id a g t).isGroup := by
  induction t generalizing a g with
  | nil => rfl
  | leaf leafId b l =>
      rw [settleOne, settleLeaf]
      cases hparens : g.parens <;> split <;> simp [isGroup]
  | group innerId inner innerForm l r ihl ihr =>
      rw [settleOne.eq_def]
      dsimp only
      split
      · rfl
      · split
        · exact ihl _ _
        · exact ihr _ _
        · rfl

theorem isGroup_cleanup {t : Tree} (h : t.isGroup) : (t.cleanup true).isGroup := by
  cases t with
  | nil => cases h
  | leaf => cases h
  | group id a g l r =>
      rw [cleanup, settle.eq_def]
      split
      · exact isGroup_settleOne id a g _
      · exact isGroup_settleOne id a g _
      · rfl

theorem isGroup_negate {t : Tree} (h : t.isGroup) (next : NodeId) : (t.negate next).1.isGroup := by
  have hnegates := negates_negate t next
  generalize t.negate next = negated at hnegates
  obtain ⟨negated, after⟩ := negated
  cases hnegates with
  | nil => cases h
  | leaf => cases h
  | _ => rfl

theorem isGroup_invert {t : Tree} (h : t.isGroup) (kept : List String) (alternate : Option Tree)
    (next : NodeId) : (t.invert kept alternate next).1.isGroup := by
  cases t with
  | nil => cases h
  | leaf => cases h
  | group id a g l r =>
      rw [invert_group]
      split
      · rfl
      · cases alternate with
        | none => exact isGroup_negate h next
        | some root => rfl
      · rfl

end SearchQuery.Tree
