import SearchQuery.Pass
import SearchQuery.Proofs.Store.Rewriting

/-!
# Passes that start at the root

A pass that changes the store alone comes back from the root with the root, and the store then shows
the tree that has come into the place of the whole.
-/

namespace SearchQuery.Pass

variable {s : Session} {new : Tree} {change : Store → NodeId × Store}

theorem exists_run_of_yields (h : s.store.Yields s.store.root new (change s.store)) {top : NodeId}
    (htop : new.id? = some top) :
    ∃ s', succeed (onStore s change) = (.ok top, s') ∧ s'.store = (change s.store).2 ∧
      s'.context = s.context ∧ s'.store.tree = new ∧ s'.store.root = top :=
  ⟨{ s with store := (change s.store).2 },
    congrArg (fun top => (Except.ok top, { s with store := (change s.store).2 })) (h.top top htop),
    rfl, rfl, h.puts.tree_eq_of_root, Option.some.inj (h.puts.id?_eq_root.symm.trans htop)⟩

theorem rooted_of_isGroup (h : s.store.WellFormed) (hroot : s.store.isGroup s.store.root) :
    s.store.Rooted :=
  ⟨h, Store.root_lt_next_of_isGroup hroot⟩

theorem nodup_ids_tree (h : s.store.WellFormed) (hroot : s.store.isGroup s.store.root) :
    s.store.tree.ids.Nodup ∧ ∀ x ∈ s.store.tree.ids, x < s.store.nodes.size :=
  h.nodup_ids_tree (Store.root_lt_next_of_isGroup hroot)

end SearchQuery.Pass
