import SearchQuery.Text.Hex
import SearchQuery.Unicode.CodeSet

/-!
# Written tables of code points

The tables of this library are written in lines of words. A word is a code point in hexadecimal
digits, as in `AA`; two code points with a hyphen, as in `41-5A`, for a range; or a range followed
by a colon and a number, as in `100-12E:2`, for every second, third, … code point of the range.
`CodeSet.ofLines` reads such a table.
-/

namespace SearchQuery.Unicode

open Text (CodeRange)

structure Stride where
  first : Nat
  last : Nat
  step : Nat
  deriving Repr, DecidableEq

namespace Stride

def members (r : Stride) : List Nat :=
  (List.range ((r.last - r.first) / r.step + 1)).map (r.first + · * r.step)

def ranges (r : Stride) : List CodeRange :=
  if r.step = 1 then [⟨r.first, r.last⟩] else r.members.map fun n => ⟨n, n⟩

def ofWord? (word : List Char) : Option Stride := do
  let span := word.takeWhile (· ≠ ':')
  let first ← Text.hexNumber? (span.takeWhile (· ≠ '-'))
  let last ← match span.dropWhile (· ≠ '-') with
    | [] => pure first
    | _ :: digits => Text.hexNumber? digits
  let step ← match word.dropWhile (· ≠ ':') with
    | [] => pure 1
    | _ :: digits => Text.hexNumber? digits
  pure ⟨first, last, step⟩

end Stride

def words (line : String) : List (List Char) :=
  (line.toList.splitBy fun a b => a ≠ ' ' && b ≠ ' ').filter (· ≠ [' '])

def CodeSet.ofLines (lines : List String) : CodeSet :=
  .ofRanges (((lines.flatMap words).filterMap Stride.ofWord?).flatMap Stride.ranges)

end SearchQuery.Unicode
