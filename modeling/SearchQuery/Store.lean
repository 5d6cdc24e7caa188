import SearchQuery.Store.Annotations

/-!
# The node store

A `Store` keeps nodes in a table. The number of a node is its place in the table, and the slots of
a group and the link of a node to its parent are numbers. Nodes are never thrown away: one that
is taken out of its slot stays in the table, detached, with everything below it.

The operations here keep slots and parent links in step: whenever a node enters a slot, it leaves
the slot it was in.
-/

namespace SearchQuery

inductive Content
  | leaf (leaf : Leaf)
  | group (form : Group) (left right : Option NodeId)
  deriving Repr, DecidableEq

/-- An entry of the table. -/
structure Node where
  attrs : Attributes
  content : Content
  parent : Option NodeId
  deriving Repr, DecidableEq

namespace Node

def blank : Node :=
  ⟨.plain, .group .plain none none, none⟩

instance : Inhabited Node := ⟨blank⟩

def isGroup (n : Node) : Bool :=
  match n.content with
  | .group .. => true
  | .leaf _ => false

def left (n : Node) : Option NodeId :=
  match n.content with
  | .group _ l _ => l
  | .leaf _ => none

def right (n : Node) : Option NodeId :=
  match n.content with
  | .group _ _ r => r
  | .leaf _ => none

def withLeft (child : Option NodeId) (n : Node) : Node :=
  match n.content with
  | .group g _ r => { n with content := .group g child r }
  | .leaf _ => n

def withRight (child : Option NodeId) (n : Node) : Node :=
  match n.content with
  | .group g l _ => { n with content := .group g l child }
  | .leaf _ => n

def withSlot : Tree.Side → Option NodeId → Node → Node
  | .left => withLeft
  | .right => withRight

def slot : Tree.Side → Node → Option NodeId
  | .left => left
  | .right => right

def withForm (f : Group → Group) (n : Node) : Node :=
  match n.content with
  | .group g l r => { n with content := .group (f g) l r }
  | .leaf _ => n

def exchange (old : NodeId) (new : Option NodeId) (n : Node) : Node :=
  if n.left = some old then n.withLeft new
  else if n.right = some old then n.withRight new
  else n

end Node

/-- A table of nodes, one of which is the root, and the notes on them. -/
structure Store where
  nodes : Array Node
  root : NodeId
  annotations : Annotations
  deriving Repr, DecidableEq

namespace Store

def empty : Store :=
  ⟨#[.blank], 0, .empty⟩

instance : Inhabited Store := ⟨empty⟩

def next (s : Store) : NodeId :=
  s.nodes.size

def node? (s : Store) (id : NodeId) : Option Node :=
  s.nodes[id]?

def modify (s : Store) (id : NodeId) (f : Node → Node) : Store :=
  { s with nodes := s.nodes.modify id f }

def modifyAttrs (s : Store) (id : NodeId) (f : Attributes → Attributes) : Store :=
  s.modify id fun n => { n with attrs := f n.attrs }

/-- The store with a group held together in another way. -/
def modifyForm (s : Store) (id : NodeId) (f : Group → Group) : Store :=
  s.modify id (·.withForm f)

def isRoot (s : Store) (id : NodeId) : Bool :=
  s.root = id

def parent? (s : Store) (id : NodeId) : Option NodeId :=
  (s.node? id).bind (·.parent)

def left? (s : Store) (id : NodeId) : Option NodeId :=
  (s.node? id).bind (·.left)

def right? (s : Store) (id : NodeId) : Option NodeId :=
  (s.node? id).bind (·.right)

def isGroup (s : Store) (id : NodeId) : Bool :=
  (s.node? id).any (·.isGroup)

def children (s : Store) (id : NodeId) : List NodeId :=
  (s.left? id).toList ++ (s.right? id).toList

def isLink (s : Store) (id : NodeId) : Bool :=
  match s.node? id with
  | some ⟨attrs, .group form _ _, _⟩ => form.isLink attrs && !s.isRoot id
  | _ => false

/-- Adds a node that is in no slot. The number it gets is `s.next`. -/
def add (s : Store) (attrs : Attributes) (content : Content) : Store :=
  { s with nodes := s.nodes.push ⟨attrs, content, none⟩ }

def setParent (s : Store) (id : NodeId) (parent : Option NodeId) : Store :=
  s.modify id fun n => { n with parent := parent }

def detach (s : Store) (id : NodeId) : Store :=
  match s.parent? id with
  | none => s
  | some parent => (s.setParent id none).modify parent (·.exchange id none)

/-- Puts a child, or nothing, into a slot of a group. What was there is detached, and the child
leaves the slot it was in. Nodes other than groups have no slots and stay as they are. -/
def setSlot (s : Store) (side : Tree.Side) (id : NodeId) (child : Option NodeId) : Store :=
  if s.isGroup id then
    let s := child.elim s s.detach
    let previous := (s.node? id).bind (·.slot side)
    let s := s.modify id (·.withSlot side child)
    let s := previous.elim s (s.setParent · none)
    child.elim s (s.setParent · (some id))
  else s

def setLeft (s : Store) (id : NodeId) (child : Option NodeId) : Store :=
  s.setSlot .left id child

def setRight (s : Store) (id : NodeId) (child : Option NodeId) : Store :=
  s.setSlot .right id child

/-- Puts another node into the slot that a node is in, and detaches that one. In the place of the
root the other node becomes the root. -/
def replaceSelf (s : Store) (id replacement : NodeId) : Store :=
  if id = replacement then s
  else
    let s := s.detach replacement
    match s.parent? id with
    | some parent =>
        ((s.setParent id none).modify parent (·.exchange id (some replacement))).setParent
          replacement (some parent)
    | none => if s.root = id then { s with root := replacement } else s

def removeSelf (s : Store) (id : NodeId) : Store :=
  if s.isRoot id then s else s.detach id

def wrap (s : Store) (id wrapper : NodeId) : Store :=
  (s.replaceSelf id wrapper).setLeft wrapper (some id)

def attrs (s : Store) (id : NodeId) : Attributes :=
  (s.node? id).elim .plain (·.attrs)

end Store

end SearchQuery
