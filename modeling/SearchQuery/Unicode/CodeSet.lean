import SearchQuery.Text.CodePoint

/-!
# Sets of code points

A `CodeSet` is a set of code points, kept as increasing ranges of which no two overlap or touch.
The operations of set theory go through the ranges side by side. Code points that no character
has, the surrogates, are passed over where a set is cut: `before` and `after` find the neighbours
of a code point among those of characters.
-/

namespace SearchQuery.Unicode

open Text (CodeRange)

structure CodeSet where
  ranges : List CodeRange
  deriving Repr, DecidableEq

def lastCode : Nat := 0x10FFFF

def after (n : Nat) : Nat :=
  if n = 0xD7FF then 0xE000 else n + 1

def before (n : Nat) : Nat :=
  if n = 0xE000 then 0xD7FF else n - 1

/-! ## Ranges in increasing order -/

def joinRanges : List CodeRange → List CodeRange
  | [] => []
  | [a] => [a]
  | a :: b :: rest =>
      if b.first ≤ a.last + 1 then joinRanges (⟨a.first, max a.last b.last⟩ :: rest)
      else a :: joinRanges (b :: rest)
termination_by ranges => ranges.length

def meetRanges : List CodeRange → List CodeRange → List CodeRange
  | a :: s, b :: t =>
      let rest := if a.last < b.last then meetRanges s (b :: t) else meetRanges (a :: s) t
      if max a.first b.first ≤ min a.last b.last then
        ⟨max a.first b.first, min a.last b.last⟩ :: rest
      else rest
  | _, _ => []
termination_by s t => s.length + t.length

def cutRanges : List CodeRange → List CodeRange → List CodeRange
  | [], _ => []
  | s, [] => s
  | a :: s, b :: t =>
      if b.last < a.first then cutRanges (a :: s) t
      else if a.last < b.first then a :: cutRanges s (b :: t)
      else
        let front := if a.first < b.first then [⟨a.first, before b.first⟩] else []
        if b.last < a.last then front ++ cutRanges (⟨after b.last, a.last⟩ :: s) t
        else front ++ cutRanges s (b :: t)
termination_by s t => s.length + t.length

/-- The gap between two ranges of a list. One that would have surrogates alone is taken to be the
two characters around them. -/
def gap (a b : CodeRange) : CodeRange :=
  ⟨min (after a.last) (before b.first), max (after a.last) (before b.first)⟩

def gapsAfter (a : CodeRange) : List CodeRange → List CodeRange
  | [] => if a.last < lastCode then [⟨after a.last, lastCode⟩] else []
  | b :: rest => gap a b :: gapsAfter b rest

def gaps : List CodeRange → List CodeRange
  | [] => [⟨0, lastCode⟩]
  | a :: rest => (if 0 < a.first then [⟨0, before a.first⟩] else []) ++ gapsAfter a rest

namespace CodeSet

def empty : CodeSet := ⟨[]⟩

def full : CodeSet := ⟨[⟨0, lastCode⟩]⟩

def span (first last : Nat) : CodeSet := ⟨[⟨first, last⟩]⟩

def single (n : Nat) : CodeSet := span n n

def ascii : CodeSet := span 0 0x7F

def contains (s : CodeSet) (n : Nat) : Bool :=
  s.ranges.any (·.contains n)

def isAscii (s : CodeSet) : Bool :=
  s.ranges.all (·.last < 0x80)

def ofRanges (ranges : List CodeRange) : CodeSet :=
  ⟨joinRanges (ranges.mergeSort fun a b => a.first ≤ b.first)⟩

def ofList (codes : List Nat) : CodeSet :=
  ofRanges (codes.map fun n => ⟨n, n⟩)

def unions (sets : List CodeSet) : CodeSet :=
  ofRanges (sets.flatMap ranges)

def union (s t : CodeSet) : CodeSet :=
  ofRanges (s.ranges ++ t.ranges)

def inter (s t : CodeSet) : CodeSet :=
  ⟨meetRanges s.ranges t.ranges⟩

def diff (s t : CodeSet) : CodeSet :=
  ⟨cutRanges s.ranges t.ranges⟩

def symmDiff (s t : CodeSet) : CodeSet :=
  (s.union t).diff (s.inter t)

def compl (s : CodeSet) : CodeSet :=
  ⟨gaps s.ranges⟩

end CodeSet

end SearchQuery.Unicode
