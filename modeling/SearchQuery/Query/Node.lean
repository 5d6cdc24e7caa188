import SearchQuery.Text.Escape

/-!
# The parts of a query

A query is a binary tree whose inner nodes are groups and whose leaves are terms, ranges and the
two questions whether a field has a value. Every node carries the same attributes beside that: a
field, a negation, a sign, a boost and a proximity.

Negation has three states, so that "nothing was said" differs from "said not to be negated", to
which a double negation comes down.
-/

namespace SearchQuery

/-- What is said about the negation of a node. -/
inductive Negation
  | unspecified
  | negated
  | notNegated
  deriving Repr, DecidableEq, Inhabited

namespace Negation

def isNegated : Negation → Bool
  | negated => true
  | _ => false

def isExplicit : Negation → Bool
  | unspecified => false
  | _ => true

/-- The negation of a node that takes the place of a node and the one around it: what one of them
leaves unsaid the other says, and two that are said cancel when both negate. -/
def merge : Negation → Negation → Negation
  | unspecified, inner => inner
  | outer, unspecified => outer
  | negated, negated => notNegated
  | notNegated, notNegated => notNegated
  | negated, notNegated => negated
  | notNegated, negated => negated

def invert : Negation → Negation
  | negated => notNegated
  | _ => negated

@[simp] theorem merge_unspecified (n : Negation) : n.merge unspecified = n := by
  cases n <;> rfl

@[simp] theorem unspecified_merge (n : Negation) : unspecified.merge n = n := by
  cases n <;> rfl

theorem isExplicit_of_isNegated {n : Negation} (h : n.isNegated) : n.isExplicit := by
  cases n <;> first | rfl | cases h

theorem isNegated_merge (a b : Negation) : (a.merge b).isNegated = (a.isNegated ^^ b.isNegated) := by
  cases a <;> cases b <;> rfl

end Negation

/-- The occurrence mark in front of a clause. -/
inductive Sign
  | must
  | mustNot
  deriving Repr, DecidableEq

namespace Sign

def mark : Sign → Char
  | must => '+'
  | mustNot => '-'

end Sign

inductive Operator
  /-- Side by side; the context says what that means. -/
  | default
  | and
  | or
  deriving Repr, DecidableEq, Inhabited

/-- What the text of a term was written as. -/
inductive Style
  | bare
  | quoted
  | pattern
  deriving Repr, DecidableEq

/-- A term, its text as written with escapes and without delimiters. -/
structure Term where
  text : String
  style : Style
  deriving Repr, DecidableEq

namespace Term

/-- The text that is searched for. A pattern keeps its backslashes. -/
def unescaped (t : Term) : String :=
  if t.style = .pattern then t.text else Text.unescape t.text

def isWildcard (c : Char) : Bool :=
  c = '*' || c = '?'

def hasWildcard (t : Term) : Bool :=
  t.style = .bare && t.unescaped.toList.any isWildcard

def hasLeadingWildcard (t : Term) : Bool :=
  t.style = .bare && t.text.toList.head?.any isWildcard

end Term

/-- The bounds of a range. A side with no bound is open; a side that does not say whether its
bound belongs to the range includes it. -/
structure Range where
  min : Option String
  max : Option String
  minInclusive : Option Bool
  maxInclusive : Option Bool
  deriving Repr, DecidableEq

namespace Range

def between (min max : String) : Range :=
  ⟨some min, some max, some true, some true⟩

def isMinInclusive (r : Range) : Bool :=
  r.minInclusive.getD true

def isMaxInclusive (r : Range) : Bool :=
  r.maxInclusive.getD true

end Range

/-- What a leaf asks. -/
inductive Leaf
  | term (term : Term)
  | range (range : Range)
  /-- Has the field a value? -/
  | fieldExists
  | fieldMissing
  deriving Repr, DecidableEq

namespace Leaf

/-- The name of the kind of leaf, which is also the operation it counts as. -/
def label : Leaf → String
  | term t =>
      if t.style = .pattern then "regex" else if t.hasWildcard then "wildcard" else "term"
  | range _ => "range"
  | fieldExists => "exists"
  | fieldMissing => "missing"

end Leaf

/-- What every node carries, whatever its kind. -/
structure Attributes where
  field : Option String
  negation : Negation
  sign : Option Sign
  boost : Option String
  proximity : Option String
  deriving Repr, DecidableEq

namespace Attributes

def plain : Attributes :=
  ⟨none, .unspecified, none, none, none⟩

instance : Inhabited Attributes := ⟨plain⟩

def fieldName? (a : Attributes) : Option String :=
  a.field.filter (· ≠ "")

def hasModifiers (a : Attributes) : Bool :=
  a.sign.isSome || a.boost.isSome || a.proximity.isSome

end Attributes

/-- How a group holds its sides together. -/
structure Group where
  operator : Operator
  parens : Bool
  deriving Repr, DecidableEq, Inhabited

namespace Group

def plain : Group :=
  ⟨.default, false⟩

/-- Whether a group with these attributes says nothing of its own. Such a group, if it is not the
root, only links the clauses of a sequence together. -/
def isLink (g : Group) (a : Attributes) : Bool :=
  !g.parens && a.field.isNone && !a.negation.isExplicit && !a.hasModifiers

end Group

end SearchQuery
