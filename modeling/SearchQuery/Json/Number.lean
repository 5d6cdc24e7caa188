/-!
# JSON numbers

An integer of 64 bits, with or without a sign, is kept as it is. Any other number is the nearest
binary fraction with 53 digits that two rounded steps lead to: the digits as an integer, and then
one product with or quotient by a power of ten. It is written with the fewest decimal digits that
no other binary fraction is nearer to.

All arithmetic is exact: `Binary.nearest` rounds a quotient of natural numbers, ties to even.
-/

namespace SearchQuery.Json

structure Binary where
  mantissa : Nat
  exponent : Int
  deriving Repr, DecidableEq

namespace Binary

def minExponent : Int := -1074

def maxExponent : Int := 971

/-- The quotient and the divisor of `num / (den * 2 ^ e)`, as natural numbers. -/
def scaled (num den : Nat) (e : Int) : Nat × Nat :=
  if e < 0 then (num * Nat.pow 2 e.natAbs, den) else (num, den * Nat.pow 2 e.natAbs)

/-- The quotient of natural numbers rounded to an integer, ties to even. -/
def roundDiv (num den : Nat) : Nat :=
  let q := num / den
  let twice := 2 * (num % den)
  if twice < den then q
  else if den < twice then q + 1
  else if q % 2 = 0 then q else q + 1

def nearest? (num den : Nat) : Option Binary :=
  if num = 0 then some ⟨0, minExponent⟩
  else
    let estimate : Int := (num.log2 : Int) - (den.log2 : Int) - 52
    let (n, d) := scaled num den estimate
    let e := max minExponent (if Nat.pow 2 52 * d ≤ n then estimate else estimate - 1)
    let (n, d) := scaled num den e
    let q := roundDiv n d
    let (m, e) := if q = Nat.pow 2 53 then (Nat.pow 2 52, e + 1) else (q, e)
    if maxExponent < e then none else some ⟨m, e⟩

def quotient (b : Binary) : Nat × Nat :=
  if b.exponent < 0 then (b.mantissa, Nat.pow 2 b.exponent.natAbs)
  else (b.mantissa * Nat.pow 2 b.exponent.natAbs, 1)

def powerOfTen? (n : Nat) : Option Binary :=
  if n ≤ 308 then nearest? (Nat.pow 10 n) 1 else none

def mul? (a b : Binary) : Option Binary :=
  nearest? (a.quotient.1 * b.quotient.1) (a.quotient.2 * b.quotient.2)

def div? (a b : Binary) : Option Binary :=
  nearest? (a.quotient.1 * b.quotient.2) (a.quotient.2 * b.quotient.1)

/-- `b` times the power of ten with this exponent, in rounded steps of at most 308, or `none` when
it is too large. A power too small to matter leads to zero in a few steps. -/
def scaleTen? : Nat → Binary → Int → Option Binary
  | 0, b, _ => some b
  | steps + 1, b, e =>
      match powerOfTen? e.natAbs with
      | some power => if 0 ≤ e then b.mul? power else b.div? power
      | none =>
          if b.mantissa = 0 then some b
          else if 0 ≤ e then none
          else do
            let large ← powerOfTen? 308
            let smaller ← b.div? large
            scaleTen? steps smaller (e + 308)

/-- The number that the digits and the power of ten denote, or `none` when it is too large. -/
def ofDecimal? (digits : Nat) (exponent : Int) : Option Binary := do
  let b ← nearest? digits 1
  scaleTen? 8 b exponent

/-- Whether the quotient `num / den` rounds to `b`: it lies between the midpoints to the
neighbours of `b`, and a midpoint itself rounds to the fraction with the even mantissa. -/
def roundsTo (b : Binary) (num den : Nat) : Bool :=
  let low :=
    if b.mantissa = Nat.pow 2 52 && minExponent < b.exponent then
      (4 * b.mantissa - 1, b.exponent - 2)
    else (2 * b.mantissa - 1, b.exponent - 1)
  let high := (2 * b.mantissa + 1, b.exponent - 1)
  let even := b.mantissa % 2 = 0
  let (lowNum, lowDen) := quotient ⟨low.1, low.2⟩
  let (highNum, highDen) := quotient ⟨high.1, high.2⟩
  let aboveLow := if even then lowNum * den ≤ num * lowDen else lowNum * den < num * lowDen
  let belowHigh := if even then num * highDen ≤ highNum * den else num * highDen < highNum * den
  aboveLow && belowHigh

/-- A decimal grid point: digits and the power of ten they are counted in. -/
abbrev GridPoint := Nat × Int

def gridQuotient (p : GridPoint) : Nat × Nat :=
  if p.2 < 0 then (p.1, Nat.pow 10 p.2.natAbs) else (p.1 * Nat.pow 10 p.2.natAbs, 1)

def decimalLength (n : Nat) : Nat :=
  (Nat.toDigits 10 n).length

def firstPower (num den : Nat) : Int :=
  if den ≤ num then (decimalLength (num / den) : Int) - 1
  else
    let k := decimalLength (den / num)
    if den ≤ num * Nat.pow 10 (k - 1) then -((k - 1 : Nat) : Int) else -(k : Int)

def gridPoint? (b : Binary) (count : Nat) : Option GridPoint :=
  let (num, den) := b.quotient
  let power := firstPower num den - (count : Int) + 1
  let scale := Nat.pow 10 power.natAbs
  let (n, d) := if power < 0 then (num * scale, den) else (num, den * scale)
  let below := n / d
  let hits (digits : Nat) : Bool :=
    let (gridNum, gridDen) := gridQuotient (digits, power)
    b.roundsTo gridNum gridDen
  match hits below, hits (below + 1) with
  | true, false => some (below, power)
  | false, true => some (below + 1, power)
  | true, true =>
      let twice := 2 * (n % d)
      if twice < d || (twice = d && below % 2 = 0) then some (below, power)
      else some (below + 1, power)
  | false, false => none

/-- The shortest decimal that rounds to the fraction. Seventeen digits always suffice. -/
def shortest (b : Binary) : GridPoint :=
  ((List.range 17).findSome? fun n => b.gridPoint? (n + 1)).getD (b.mantissa, 0)

def trimZeros : Nat → GridPoint → GridPoint
  | 0, p => p
  | steps + 1, (digits, power) =>
      if digits ≠ 0 && digits % 10 = 0 then trimZeros steps (digits / 10, power + 1)
      else (digits, power)

/-- The decimal text: positional from a thousandth of a hundredth up to sixteen digits before the
point, and with an exponent beyond. -/
def text (b : Binary) : List Char :=
  if b.mantissa = 0 then ['0', '.', '0']
  else
    let (digits, power) := trimZeros 20 b.shortest
    let ds := Nat.toDigits 10 digits
    let point := (ds.length : Int) + power
    if 0 ≤ power && point ≤ 16 then ds ++ List.replicate power.natAbs '0' ++ ['.', '0']
    else if 0 < point && point ≤ 16 then ds.take point.natAbs ++ ['.'] ++ ds.drop point.natAbs
    else if -5 < point && point ≤ 0 then ['0', '.'] ++ List.replicate point.natAbs '0' ++ ds
    else
      let exponent := 'e' :: (toString (point - 1)).toList
      match ds with
      | [d] => d :: exponent
      | d :: rest => d :: '.' :: rest ++ exponent
      | [] => exponent

end Binary

inductive Number
  | integer (value : Int)
  | fraction (negative : Bool) (size : Binary)
  deriving Repr, DecidableEq

namespace Number

def maxInteger : Nat := 18446744073709551615

def minInteger : Int := -9223372036854775808

/-- The value of the longest run of digits, after `value`, that stays within 64 bits, and the
digits behind it. -/
def absorb : Nat → List Char → Nat × List Char
  | value, [] => (value, [])
  | value, c :: rest =>
      let more := value * 10 + (c.toNat - '0'.toNat)
      if maxInteger < more then (value, c :: rest) else absorb more rest

/-- The number written with these digits before the point, these behind it, if there is a point,
and this exponent, if there is one; `none` when it is too large. Digits of a fraction that no
longer fit 64 bits are not looked at. -/
def ofParts? (negative : Bool) (whole : List Char) (part : Option (List Char))
    (exponent : Option Int) : Option Number :=
  let (value, more) := absorb 0 whole
  match more, part, exponent with
  | [], none, none =>
      if !negative then some (.integer value)
      else if value ≠ 0 ∧ minInteger ≤ -(value : Int) then some (.integer (-value))
      else (Binary.ofDecimal? value 0).map (.fraction true)
  | _, _, _ =>
      let (digits, left) := absorb value (part.getD [])
      let taken := (part.getD []).length - left.length
      let power := (more.length : Int) - (taken : Int) + exponent.getD 0
      if digits = 0 then some (.fraction negative ⟨0, Binary.minExponent⟩)
      else (Binary.ofDecimal? digits power).map (.fraction negative)

def chars : Number → List Char
  | integer value => (toString value).toList
  | fraction negative size => (if negative then ['-'] else []) ++ size.text

end Number

end SearchQuery.Json
