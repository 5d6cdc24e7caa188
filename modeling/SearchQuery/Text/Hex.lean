/-!
# Hexadecimal numbers

`hexNumber?` reads a number from its hexadecimal digits, in letters of either case.
-/

namespace SearchQuery.Text

def hexValue? (c : Char) : Option Nat :=
  if c.isDigit then some (c.toNat - 0x30)
  else if 'a' ≤ c && c ≤ 'f' then some (c.toNat - 0x61 + 10)
  else if 'A' ≤ c && c ≤ 'F' then some (c.toNat - 0x41 + 10)
  else none

def hexNumber? (digits : List Char) : Option Nat :=
  if digits = [] then none
  else digits.foldlM (fun n c => (hexValue? c).map (16 * n + ·)) 0

end SearchQuery.Text
