import SearchQuery.Store
import SearchQuery.Query.Printer
import SearchQuery.Query.Reader

/-!
# The store and its trees

`Store.view` reads the tree below a node, so that what a change of a store comes to can be told as
a function on trees. `Store.ofTree` makes a store of a tree, and `Store.copy` adds a tree to a store
under fresh numbers and leaves all else as it is.
-/

namespace SearchQuery

namespace Store

def viewTo (s : Store) : Nat → NodeId → Tree
  | 0, _ => .nil
  | depth + 1, id =>
      match s.node? id with
      | none => .nil
      | some ⟨attrs, .leaf leaf, _⟩ => .leaf id attrs leaf
      | some ⟨attrs, .group form l r, _⟩ =>
          .group id attrs form (l.elim .nil (s.viewTo depth)) (r.elim .nil (s.viewTo depth))

/-- The tree below a node. No path is longer than the table unless it runs in a circle. -/
def view (s : Store) (id : NodeId) : Tree :=
  s.viewTo s.nodes.size id

def tree (s : Store) : Tree :=
  s.view s.root

def descendants (s : Store) (id : NodeId) : List NodeId :=
  Tree.preorder [s.view id]

/-- The clauses that a group holds, link groups opened. -/
def sequence (s : Store) (id : NodeId) : List NodeId :=
  ((s.view id).clauses s.root).filterMap Tree.id?

def print (s : Store) (id : NodeId) : String :=
  (s.view id).render

def render (s : Store) : String :=
  s.print s.root

def grow (s : Store) (size : Nat) : Store :=
  { s with nodes := s.nodes ++ Array.replicate (size - s.nodes.size) .blank }

def put (s : Store) (id : NodeId) (node : Node) : Store :=
  { s with nodes := s.nodes.setIfInBounds id node }

def write (s : Store) (parent : Option NodeId) : Tree → Store
  | .nil => s
  | .leaf id attrs leaf => s.put id ⟨attrs, .leaf leaf, parent⟩
  | .group id attrs form l r =>
      ((s.put id ⟨attrs, .group form l.id? r.id?, parent⟩).write (some id) l).write (some id) r

def ofTree (t : Tree) : Store :=
  { (empty.grow t.idBound).write none t with root := t.id?.getD empty.root }

/-- Adds a copy of a tree, detached and without notes. The number of the copy is `s.next`. -/
def copy (s : Store) (t : Tree) : Store :=
  let (copied, next) := t.renumber s.next
  (s.grow next).write none copied

/-- Adds a copy of a tree, and gives back its top. -/
def implant (s : Store) (t : Tree) : Option NodeId × Store :=
  (t.id?.map fun _ => s.next, s.copy t)

def parse (text : String) : Except ParseError Store :=
  (Tree.parse text).map ofTree

end Store

end SearchQuery
