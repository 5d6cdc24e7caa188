import SearchQuery.Query.Tree

/-!
# Writing a query

`Tree.chars` writes a tree in canonical form: one space between clauses, operators as words, and
around every node its sign, negation and field before it and its proximity and boost behind it.
An operator is written in front of the right side, so a group without a left side starts with it.
-/

namespace SearchQuery

namespace Attributes

def opening (a : Attributes) : List Char :=
  (match a.sign with
    | some sign => [sign.mark]
    | none => []) ++
  (if a.negation.isNegated then "NOT ".toList else [])

def fieldMark (a : Attributes) : List Char :=
  match a.fieldName? with
  | some field => field.toList ++ [':']
  | none => []

def closing (a : Attributes) : List Char :=
  (match a.proximity with
    | some value => '~' :: value.toList
    | none => []) ++
  (match a.boost with
    | some value => '^' :: value.toList
    | none => [])

end Attributes

namespace Term

def chars (t : Term) : List Char :=
  match t.style with
  | .bare => t.text.toList
  | .quoted => '"' :: t.text.toList ++ ['"']
  | .pattern => '/' :: t.text.toList ++ ['/']

end Term

namespace Range

/-- A range with one bound is written as a comparison, any other between brackets. -/
def chars (r : Range) : List Char :=
  match r.min, r.max with
  | some min, none => (if r.isMinInclusive then ['>', '='] else ['>']) ++ min.toList
  | none, some max => (if r.isMaxInclusive then ['<', '='] else ['<']) ++ max.toList
  | min, max =>
      (if r.isMinInclusive then '[' else '{') :: (min.getD "*").toList ++ " TO ".toList ++
        (max.getD "*").toList ++ [if r.isMaxInclusive then ']' else '}']

end Range

namespace Leaf

def chars (a : Attributes) : Leaf → List Char
  | term t => a.fieldMark ++ t.chars
  | range r => a.fieldMark ++ r.chars
  | fieldExists => "_exists_:".toList ++ (a.field.getD "").toList
  | fieldMissing => "_missing_:".toList ++ (a.field.getD "").toList

end Leaf

namespace Operator

/-- The operator as it is written in front of the right side. -/
def chars : Operator → List Char
  | default => []
  | and => "AND ".toList
  | or => "OR ".toList

end Operator

namespace Tree

def chars : Tree → List Char
  | nil => []
  | leaf _ a l => a.opening ++ l.chars a ++ a.closing
  | group _ a g l r =>
      a.opening ++ a.fieldMark ++ (if g.parens then ['('] else []) ++ l.chars ++
        (if r.isNil then []
          else (if l.isNil then [] else [' ']) ++ g.operator.chars ++ r.chars) ++
        (if g.parens then [')'] else []) ++ a.closing

def render (t : Tree) : String :=
  String.ofList t.chars

end Tree

end SearchQuery
