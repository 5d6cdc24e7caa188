import SearchQuery.Proofs.Cleanup.Checks
import SearchQuery.Proofs.Cleanup.Meaning

/-!
# Tidying up twice

The pass that tidies up the whole query comes to an end, and what it leaves is tidy, so a second run
finds nothing to do, and the store is the same afterwards, down to the last entry.
-/

namespace SearchQuery.Pass

variable {s : Session}

theorem run_cleanup_of_isTidy (hs : s.store.Rooted) (htidy : s.store.tree.IsTidy true) :
    cleanup.run s.store.root s = (.ok s.store.root, s) := by
  obtain ⟨-, hsame⟩ := Rewriter.tidiesUp_cleanup hs hs.shows.mem
  rw [Store.isRoot, decide_eq_true rfl] at hsame
  have hvisit : Rewriter.cleanup.visit s.store.root s.store = (s.store.root, s.store) := hsame htidy
  rw [run, onStore, hvisit]
  rfl

/-- No group is checked without end, the pass comes to what the traversal with its checks comes to,
and when it is run again neither the store nor the context changes. -/
theorem cleanup_ends_and_repeats (h : s.store.WellFormed)
    (hroot : s.store.isGroup s.store.root) :
    (∀ isRoot, WellFounded fun t' t : Tree => t.check isRoot = .changed t') ∧
      ∃ s', cleanup.run s.store.root s = (.ok s.store.root, s') ∧
        s.store.tree.Sweeps true s'.store.tree ∧ s'.store.WellFormed ∧
        cleanup.run s'.store.root s' = (.ok s'.store.root, s') := by
  refine ⟨Tree.wellFounded_check, ?_⟩
  obtain ⟨s', hrun, hs', htree, -⟩ := exists_run_cleanup ⟨h, hroot⟩
  refine ⟨s', hrun, htree ▸ Tree.sweeps_cleanup _ true, hs'.wellFormed, ?_⟩
  exact run_cleanup_of_isTidy hs'.rooted (htree ▸ Tree.isTidy_cleanup _ true)

/-- The query `NOT (NOT a)`, of which a group without parentheses is left that is negated no
longer. -/
theorem cleanup_of_nested_negation_repeats :
    let negated : Attributes := { Attributes.plain with negation := .negated }
    let s : Session :=
      ⟨.ofTree (.group 0 .plain .plain
        (.group 1 negated ⟨.default, true⟩ (.leaf 2 negated (.term ⟨"a", .bare⟩)) .nil) .nil),
        .empty⟩
    (∀ isRoot, WellFounded fun t' t : Tree => t.check isRoot = .changed t') ∧
      ∃ s', cleanup.run s.store.root s = (.ok s.store.root, s') ∧
        s.store.tree.Sweeps true s'.store.tree ∧ s'.store.WellFormed ∧
        cleanup.run s'.store.root s' = (.ok s'.store.root, s') :=
  cleanup_ends_and_repeats (Store.wellFormed_ofTree rfl (by decide)) (by decide)

end SearchQuery.Pass
