/-!
# Ranges of code points

Properties of characters are given as lists of ranges, both ends included. A list is searched from
its front, so the ranges of a table may stand in any order; the tables of this library are
increasing.
-/

namespace SearchQuery.Text

structure CodeRange where
  first : Nat
  last : Nat
  deriving Repr, DecidableEq

namespace CodeRange

def contains (r : CodeRange) (n : Nat) : Bool :=
  r.first ≤ n && n ≤ r.last

def anyContains (table : List CodeRange) (c : Char) : Bool :=
  table.any (·.contains c.toNat)

end CodeRange

end SearchQuery.Text
