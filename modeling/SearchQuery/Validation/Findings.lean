import SearchQuery.Context
import SearchQuery.Query.Walk
import SearchQuery.Store.Annotations

/-!
# What a query uses

`Tree.findings` walks over a tree once and collects what the policy looks at: the depth of
parentheses, the fields, the operations and the fields they are applied to, the unresolved fields,
the terms that begin with a wildcard and the patterns that are none.

The operation of a leaf is the one noted on it; failing that, in a plain query the kind of leaf,
and in an aggregation or sort the operation of the nearest group around it that has one.
-/

namespace SearchQuery

structure Findings where
  maxDepth : Nat
  fields : NameSet
  operations : NameTable
  unresolved : NameSet
  /-- The texts of terms that begin with a wildcard, from left to right. -/
  leadingWildcards : List String
  /-- The texts of patterns that are not valid, from left to right. -/
  invalidPatterns : List String
  deriving Repr, DecidableEq

namespace Findings

def none : Findings :=
  ⟨0, .empty, .empty, .empty, [], []⟩

structure Walk where
  depth : Nat
  /-- The operations of the groups around, from the inside out. -/
  operations : List (Option String)
  found : Findings

/-- What the operations and fields of nodes depend on beside the tree. -/
structure Setting where
  root : NodeId
  notes : Annotations
  queryType : QueryType
  defaultFields : List String
  /-- Whether the library for patterns takes the text for one. -/
  isPattern : String → Bool

namespace Setting

def countsDepth (s : Setting) (id : NodeId) (g : Group) : Bool :=
  id = s.root || g.parens

def operation? (s : Setting) (id : NodeId) : Option String :=
  s.notes.get? .operationType id

def isUnresolved (s : Setting) (id : NodeId) : Bool :=
  s.notes.get? .fieldUnresolved id = some true

def leafFields (s : Setting) (a : Attributes) : List String :=
  match a.fieldName? with
  | some field => [field]
  | Option.none => if s.defaultFields = [] then [""] else s.defaultFields

def impliedOperation? (s : Setting) (l : Leaf) (around : List (Option String)) : Option String :=
  if s.queryType = .query then some l.label else around.findSome? id

end Setting

def use (f : Findings) (operation : Option String) (fields : List String) : Findings :=
  match operation with
  | some operation => { f with operations := f.operations.add operation fields }
  | Option.none => f

def addGroup (s : Setting) (id : NodeId) (a : Attributes) (f : Findings) : Findings :=
  match a.fieldName? with
  | Option.none => f
  | some field =>
      { f with
        fields := f.fields.insert field
        unresolved := if s.isUnresolved id then f.unresolved.insert field else f.unresolved }
        |>.use (s.operation? id) [field]

def addTerm (s : Setting) (f : Findings) : Leaf → Findings
  | .term t =>
      { f with
        leadingWildcards :=
          if t.hasLeadingWildcard then f.leadingWildcards ++ [t.text] else f.leadingWildcards
        invalidPatterns :=
          if t.style = .pattern && !s.isPattern t.text then f.invalidPatterns ++ [t.text]
          else f.invalidPatterns }
  | _ => f

def addLeaf (s : Setting) (id : NodeId) (a : Attributes) (l : Leaf)
    (around : List (Option String)) (f : Findings) : Findings :=
  let f := f.addTerm s l
  let fields := s.leafFields a
  let f := f.use ((s.operation? id).or (s.impliedOperation? l around)) fields
  { f with
    unresolved :=
      if s.isUnresolved id then f.unresolved.insertMany a.fieldName?.toList else f.unresolved
    fields := f.fields.insertMany fields }

def collector (s : Setting) : Visitor Walk where
  enter id a g w :=
    let depth := if s.countsDepth id g then w.depth + 1 else w.depth
    let found := addGroup s id a { w.found with maxDepth := max w.found.maxDepth depth }
    (⟨depth, s.operation? id :: w.operations, found⟩, true)
  leave id _ g w :=
    { w with
      depth := if s.countsDepth id g then w.depth - 1 else w.depth
      operations := w.operations.tail }
  leaf id a l w := { w with found := w.found.addLeaf s id a l w.operations }

end Findings

def Tree.findings (s : Findings.Setting) (t : Tree) : Findings :=
  (t.walk (Findings.collector s) ⟨0, [], .none⟩).found

end SearchQuery
