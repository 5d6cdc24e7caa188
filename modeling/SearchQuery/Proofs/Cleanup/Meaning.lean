import SearchQuery.Proofs.Cleanup.InPlace
import SearchQuery.Proofs.Pass.Groups
import SearchQuery.Proofs.Pass.Kept
import SearchQuery.Proofs.Pass.Root
import SearchQuery.Proofs.Store.Query

/-!
# Tidying up keeps the meaning

What the rules of tidying up keep, and from it what the pass keeps when it starts at the root: the
reading of the query under every interpretation, and its leaves with all they ask.
-/

namespace SearchQuery

namespace Pass

/-- Tidying up from the root puts the tidied tree in the place of the tree, and leaves all else. -/
theorem exists_run_cleanup {s : Session} (h : s.store.IsQuery) :
    ∃ s', cleanup.run s.store.root s = (.ok s.store.root, s') ∧ s'.store.IsQuery ∧
      s'.store.tree = s.store.tree.cleanup true ∧ s'.store.root = s.store.root ∧
      s'.store.annotations = s.store.annotations ∧ s'.context = s.context := by
  obtain ⟨a, g, l, r, htree, -⟩ := h.wellFormed.exists_tree_eq_group h.isGroup_root
  have htop := Tree.id?_cleanup_root s.store.root a g l r
  rw [← htree] at htop
  obtain ⟨hyields, -⟩ := Rewriter.tidiesUp_cleanup h.rooted h.root_mem
  rw [Store.isRoot, decide_eq_true rfl] at hyields
  have hquery := h.of_puts hyields.puts fun _ => Tree.isGroup_cleanup h.isGroup_tree
  obtain ⟨s', hrun, hstore, hcontext, htree', hroot⟩ := exists_run_of_yields hyields htop
  rw [← hstore] at hquery
  have hnotes := (Store.keepsFields_cleanup s.store s.store.root).annotations_eq
  exact ⟨s', hrun, hquery, htree', hroot, hstore ▸ hnotes, hcontext⟩

/-- Tidying up from the root changes neither the reading of the query, whatever clauses side by
side mean and whichever atoms hold, nor what its leaves ask about which fields. -/
theorem cleanup_preserves_meaning {s : Session} (h : s.store.WellFormed)
    (hroot : s.store.isGroup s.store.root) :
    ∃ s', cleanup.run s.store.root s = (.ok s.store.root, s') ∧ s'.store.WellFormed ∧
      (∀ i, s'.store.tree.reading i none = s.store.tree.reading i none) ∧
      (s'.store.tree.occurrences .top).map (·.asked) =
        (s.store.tree.occurrences .top).map (·.asked) := by
  obtain ⟨s', hrun, hs', htree, -⟩ := exists_run_cleanup ⟨h, hroot⟩
  have htidies := Tree.tidies_cleanup s.store.tree true
  rw [← htree] at htidies
  exact ⟨s', hrun, hs'.wellFormed, fun i => htidies.reading i none,
    Tree.map_asked_eq (htidies.occurrences _)⟩

/-- The query `NOT (NOT a)`. -/
theorem cleanup_of_double_negation :
    let negated : Attributes := { Attributes.plain with negation := .negated }
    let s : Session :=
      ⟨.ofTree (.group 0 .plain .plain
        (.group 1 negated ⟨.default, true⟩ (.leaf 2 negated (.term ⟨"a", .bare⟩)) .nil) .nil),
        .empty⟩
    ∃ s', cleanup.run s.store.root s = (.ok s.store.root, s') ∧ s'.store.WellFormed ∧
      (∀ i, s'.store.tree.reading i none = s.store.tree.reading i none) ∧
      (s'.store.tree.occurrences .top).map (·.asked) =
        (s.store.tree.occurrences .top).map (·.asked) :=
  cleanup_preserves_meaning (Store.wellFormed_ofTree rfl (by decide)) (by decide)

end Pass

end SearchQuery
