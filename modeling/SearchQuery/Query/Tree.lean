import SearchQuery.Query.Node

/-!
# Query trees

A `Tree` is a query with a number on every node. The two sides of a group are slots that may be
empty, and `nil` is the empty slot. A sequence of clauses leans to the right: `a b c` is a group
of `a` and a link group of `b` and `c`.

`clauses` looks through the link groups and lists what a sequence is made of; `preorder` lists
the numbers of all nodes, each before those below it. Both work through a list of pending trees.
-/

namespace SearchQuery

/-- The number of a node, its place in the store it belongs to. -/
abbrev NodeId := Nat

inductive Tree
  | nil
  | leaf (id : NodeId) (attrs : Attributes) (leaf : Leaf)
  | group (id : NodeId) (attrs : Attributes) (form : Group) (left right : Tree)
  deriving Repr, DecidableEq, Inhabited

namespace Tree

/-- The number of nodes, empty slots included. -/
def size : Tree → Nat
  | nil => 1
  | leaf .. => 1
  | group _ _ _ left right => left.size + right.size + 1

def sizeAll : List Tree → Nat
  | [] => 0
  | t :: rest => t.size + sizeAll rest

def id? : Tree → Option NodeId
  | nil => none
  | leaf id .. => some id
  | group id .. => some id

def isNil : Tree → Bool
  | nil => true
  | _ => false

theorem isNil_iff {t : Tree} : t.isNil = true ↔ t = nil := by
  cases t <;> simp [isNil]

def isGroup : Tree → Bool
  | group .. => true
  | _ => false

def attrs : Tree → Attributes
  | nil => .plain
  | leaf _ a _ => a
  | group _ a .. => a

def withAttrs (a : Attributes) : Tree → Tree
  | nil => nil
  | leaf id _ l => leaf id a l
  | group id _ g left right => group id a g left right

def left : Tree → Tree
  | group _ _ _ l _ => l
  | _ => nil

def right : Tree → Tree
  | group _ _ _ _ r => r
  | _ => nil

/-- Whether the top node only links clauses, given that it is not the root. -/
def isLink : Tree → Bool
  | group _ a g .. => g.isLink a
  | _ => false

def ids : Tree → List NodeId
  | nil => []
  | leaf id .. => [id]
  | group id _ _ l r => id :: (l.ids ++ r.ids)

def idBound : Tree → Nat
  | nil => 0
  | leaf id .. => id + 1
  | group id _ _ l r => max (id + 1) (max l.idBound r.idBound)

def preorder : List Tree → List NodeId
  | [] => []
  | nil :: pending => preorder pending
  | leaf id .. :: pending => id :: preorder pending
  | group id _ _ l r :: pending => id :: preorder (l :: r :: pending)
termination_by pending => sizeAll pending
decreasing_by all_goals simp only [sizeAll, size]; omega

/-- The clauses of pending trees, link groups opened. The root, where it occurs, is no link. -/
def clausesOf (root : NodeId) : List Tree → List Tree
  | [] => []
  | nil :: pending => clausesOf root pending
  | leaf id a l :: pending => leaf id a l :: clausesOf root pending
  | group id a g l r :: pending =>
      if g.isLink a && id ≠ root then clausesOf root (l :: r :: pending)
      else group id a g l r :: clausesOf root pending
termination_by pending => sizeAll pending
decreasing_by all_goals simp only [sizeAll, size]; omega

def clauses (root : NodeId) (t : Tree) : List Tree :=
  clausesOf root [t.left, t.right]

def find (id : NodeId) : Tree → Tree
  | nil => nil
  | leaf i a l => if i = id then leaf i a l else nil
  | group i a g l r =>
      if i = id then group i a g l r
      else match l.find id with
        | nil => r.find id
        | t => t

/-- The tree with another subtree in the place of the node with this number. -/
def replace (id : NodeId) : Tree → Tree → Tree
  | nil, _ => nil
  | leaf i a l, new => if i = id then new else leaf i a l
  | group i a g l r, new =>
      if i = id then new else group i a g (l.replace id new) (r.replace id new)

/-- The number of the group that holds the node in a slot. -/
def parent? (id : NodeId) : Tree → Option NodeId
  | nil => none
  | leaf .. => none
  | group i _ _ l r =>
      if l.id? = some id || r.id? = some id then some i
      else (l.parent? id).or (r.parent? id)

inductive Side
  | left
  | right
  deriving Repr, DecidableEq

/-- The slots that lead from the top to the node with this number. -/
def path? (id : NodeId) : Tree → Option (List Side)
  | nil => none
  | leaf i .. => if i = id then some [] else none
  | group i _ _ l r =>
      if i = id then some []
      else ((l.path? id).map (Side.left :: ·)).or ((r.path? id).map (Side.right :: ·))

def follow : List Side → Tree → Tree
  | [], t => t
  | .left :: path, t => follow path t.left
  | .right :: path, t => follow path t.right

/-- The same tree numbered anew in preorder from `next` on, and the first number not used. -/
def renumber (next : NodeId) : Tree → Tree × NodeId
  | nil => (nil, next)
  | leaf _ a l => (leaf next a l, next + 1)
  | group _ a g l r =>
      let (l', afterLeft) := l.renumber (next + 1)
      let (r', afterRight) := r.renumber afterLeft
      (group next a g l' r', afterRight)

end Tree

end SearchQuery
