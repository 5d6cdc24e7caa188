import SearchQuery.Store.Rewriter

/-!
# Dropping fields

`Rewriter.removal` takes every node whose field is unwanted out of its slot, with all that is below
it, and leaves everything else where it is; groups may end up empty. The root cannot go: it loses its
field and its clauses instead.

`Tree.removeFields` says what comes of a tree.
-/

namespace SearchQuery

namespace Tree

def isUnwanted (unwanted : String → Bool) (a : Attributes) : Bool :=
  a.fieldName?.any unwanted

def removeBelow (unwanted : String → Bool) : Tree → Tree
  | nil => nil
  | leaf id a l => if isUnwanted unwanted a then nil else leaf id a l
  | group id a g l r =>
      if isUnwanted unwanted a then nil
      else group id a g (l.removeBelow unwanted) (r.removeBelow unwanted)

def emptied : Tree → Tree
  | nil => nil
  | leaf id a l => leaf id { a with field := none } l
  | group id a g _ _ => group id { a with field := none } g nil nil

def removeFields (unwanted : String → Bool) (isRoot : Bool) (t : Tree) : Tree :=
  if isRoot && isUnwanted unwanted t.attrs then t.emptied else t.removeBelow unwanted

end Tree

/-- Takes a node out, and gives back the group that held it. The root, or a node in no slot, is
emptied instead. -/
def Store.drop (s : Store) (id : NodeId) : NodeId × Store :=
  let parent := if s.isRoot id then none else s.parent? id
  let s := s.removeSelf id
  match parent with
  | some parent => (parent, s)
  | none => (id, ((s.setLeft id none).setRight id none).modifyAttrs id ({ · with field := none }))

/-- The walk that takes out the nodes on unwanted fields. It goes no further at such a node. -/
def Rewriter.removal (unwanted : String → Bool) : Rewriter Store where
  store s := s
  enter id s :=
    if Tree.isUnwanted unwanted (s.attrs id) then
      let (top, s) := s.drop id
      (some top, s)
    else (none, s)
  leave id s := (id, s)

end SearchQuery
