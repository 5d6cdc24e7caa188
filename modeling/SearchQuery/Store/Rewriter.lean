import SearchQuery.Store

/-!
# Walks that change a store

A `Rewriter` walks through a store from a node on and changes it on its way. It looks into each slot
only when it comes there, so it meets what is in the slot by then, and it may take out or replace the
very node that it is at.
-/

namespace SearchQuery

/-- What is done at the nodes on a walk, where `σ` is a store with what else may change. -/
structure Rewriter (σ : Type) where
  store : σ → Store
  /-- Comes first at a node. Where it gives back a node, the walk goes no further and comes back with
  that one; otherwise it goes on into the slots. -/
  enter : NodeId → σ → Option NodeId × σ
  /-- Comes last at a node whose slots the walk went into. -/
  leave : NodeId → σ → NodeId × σ

namespace Rewriter

variable {σ : Type}

/-- The walk from a node on, cut off at a depth, with the node that it comes back with. -/
def visitTo (r : Rewriter σ) : Nat → NodeId → σ → NodeId × σ
  | 0, id, s => (id, s)
  | depth + 1, id, s =>
      match r.enter id s with
      | (some top, s) => (top, s)
      | (none, s) =>
          let s := ((r.store s).left? id).elim s fun child => (r.visitTo depth child s).2
          let s := ((r.store s).right? id).elim s fun child => (r.visitTo depth child s).2
          r.leave id s

/-- The walk from a node on. No path is longer than the table unless it runs in a circle. -/
def visit (r : Rewriter σ) (id : NodeId) (s : σ) : NodeId × σ :=
  r.visitTo (r.store s).next id s

end Rewriter

end SearchQuery
