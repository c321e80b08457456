import ApiContract.Decimal.Read
import ApiContract.Json.Value

/-!
# Numbers in JSON text

A number without point or exponent is whole when it fits 64 bits, with or without a sign.
Every other number is a float: its digits are collected in a 64-bit significand as long as
they fit, and the significand is then scaled by a power of ten with float arithmetic. A
number too large for a float is refused.

## Main definitions

* `Json.Numeral` — the parts of a number as written
* `Json.Numeral.value?` — the value of a number
* `Json.readNumeral` — the parts at the front of a text
-/

namespace ApiContract.Json

/-- A number as written: its sign, the digits before the point, those after it, if there
is a point, and the sign and digits of the exponent, if there is one. -/
structure Numeral where
  negative : Bool
  whole : List Char
  fraction : Option (List Char)
  exponent : Option (Bool × List Char)
  deriving Repr

/-- The largest significand. -/
def maxSignificand : Nat := 18446744073709551615

/-- Digits taken into a significand while it stays below the largest one, and the digits
that are left. -/
def takeDigits (significand : Nat) : List Char → Nat × List Char
  | [] => (significand, [])
  | c :: rest =>
    let next := significand * 10 + (c.toNat - '0'.toNat)
    if maxSignificand < next then (significand, c :: rest) else takeDigits next rest

/-- A significand scaled by a power of ten, `none` when the result is infinite. An exponent
below the table of powers is approached in steps of 308, `steps` of them at most. -/
def scale (f : Float) (e : Int) : Nat → Option Float
  | 0 => some f
  | steps + 1 =>
    if e.natAbs ≤ 308 then
      let power := Decimal.nearest (Nat.pow 10 e.natAbs) 0
      if 0 ≤ e then
        let product := f * power
        if product.isInf then none else some product
      else some (f / power)
    else if f == 0 then some f
    else if 0 ≤ e then none
    else scale (f / Decimal.nearest (Nat.pow 10 308) 0) (e + 308) steps

/-- The exponent as a number: `none` when its digits exceed 31 bits. -/
def exponentValue? (negative : Bool) (digits : List Char) : Option Int :=
  let n := Decimal.ofDigits 0 digits
  if n < Decimal.bound 31 then some (if negative then -(n : Int) else n) else none

/-- The size of a number with point or exponent, or with more digits than a significand
holds. -/
def Numeral.size? (n : Numeral) : Option Float :=
  let (head, left) := takeDigits 0 n.whole
  let fraction := n.fraction.getD []
  let (significand, ignored) := takeDigits head fraction
  let places : Int := (left.length : Int) - (fraction.length - ignored.length)
  match n.exponent with
  | none => scale (Decimal.nearest significand 0) places 5
  | some (negative, digits) =>
    match exponentValue? negative digits with
    | some e => scale (Decimal.nearest significand 0) (places + e) 5
    | none => if significand ≠ 0 ∧ !negative then none else some (Decimal.nearest 0 0)

/-- The value of a number. Zero with a minus sign is a float. -/
def Numeral.value? (n : Numeral) : Option Json :=
  let magnitude := Decimal.ofDigits 0 n.whole
  if n.fraction.isNone && n.exponent.isNone && magnitude ≤ maxSignificand then
    if !n.negative then some (.int magnitude)
    else if magnitude = 0 ∨ Decimal.bound 63 < magnitude then some (.float (-Decimal.nearest magnitude 0))
    else some (.int (-(magnitude : Int)))
  else n.size?.map fun x => .float (Decimal.signed n.negative x)

/-- The digits at the front of a text, at least one of them. -/
def readDigits (cs : List Char) : Option (List Char × List Char) :=
  let digits := cs.takeWhile Decimal.isDigit
  if digits.isEmpty then none else some (digits, cs.dropWhile Decimal.isDigit)

/-- The digits before the point: a zero stands alone. -/
def readWhole (cs : List Char) : Option (List Char × List Char) := do
  let (digits, rest) ← readDigits cs
  if digits.head? == some '0' && digits.length != 1 then none else some (digits, rest)

/-- A point and digits, or nothing. -/
def readFraction : List Char → Option (Option (List Char) × List Char)
  | '.' :: rest => (readDigits rest).map fun p => (some p.1, p.2)
  | cs => some (none, cs)

/-- An exponent, or nothing. -/
def readExponent : List Char → Option (Option (Bool × List Char) × List Char)
  | [] => some (none, [])
  | c :: rest =>
    if c = 'e' ∨ c = 'E' then
      let (negative, digits) := Decimal.takeSign rest
      (readDigits digits).map fun p => (some (negative, p.1), p.2)
    else some (none, c :: rest)

/-- The number at the front of a text, after its sign. -/
def readUnsigned (negative : Bool) (cs : List Char) : Option (Numeral × List Char) := do
  let (whole, rest) ← readWhole cs
  let (fraction, rest) ← readFraction rest
  let (exponent, rest) ← readExponent rest
  return (⟨negative, whole, fraction, exponent⟩, rest)

/-- The number at the front of a text. -/
def readNumeral : List Char → Option (Numeral × List Char)
  | '-' :: rest => readUnsigned true rest
  | cs => readUnsigned false cs

end ApiContract.Json
