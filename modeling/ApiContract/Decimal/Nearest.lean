import ApiContract.Decimal.Bound

/-!
# The double nearest to a number

A 64-bit float is read off its bits as `sign * mantissa * 2 ^ exponent`, and a
non-negative rational is rounded to the nearest such number. Half way between two
neighbours the one with the even mantissa wins.

## Main definitions

* `Decimal.Parts` — sign, mantissa and binary exponent of a finite float
* `Decimal.parts?` — the parts of a float
* `Decimal.roundRatio` — the float nearest to a ratio of naturals
* `Decimal.nearest` — the float nearest to a mantissa times a power of ten
-/

namespace ApiContract.Decimal

/-- A finite float is `mantissa * 2 ^ exponent`, negated when `negative`. -/
structure Parts where
  negative : Bool
  mantissa : Nat
  exponent : Int
  deriving Repr, DecidableEq

/-- The sign bit of a float. -/
def isNegative (x : Float) : Bool :=
  x.toBits >>> 63 == 1

/-- The parts of a float, unless it is an infinity or not a number. -/
def parts? (x : Float) : Option Parts :=
  let bits : Nat := x.toBits.toNat
  let fraction : Nat := bits % bound 52
  let biased : Nat := bits / bound 52 % bound 11
  if biased = 2047 then none
  else if biased = 0 then some ⟨isNegative x, fraction, -1074⟩
  else some ⟨isNegative x, fraction + bound 52, (biased : Int) - 1075⟩

/-- Whether a float is neither an infinity nor not a number. -/
def isFinite (x : Float) : Bool :=
  (parts? x).isSome

/-- Positive infinity. -/
def infinity : Float := Float.ofBits 0x7FF0000000000000

/-- Not a number. -/
def notANumber : Float := Float.ofBits 0x7FF8000000000000

/-- A quotient rounded to the nearest natural, half way to the even one. -/
def divNearestEven (num den : Nat) : Nat :=
  let q := num / den
  let twice := 2 * (num % den)
  if twice < den then q
  else if den < twice then q + 1
  else q + q % 2

/-- The float `mantissa * 2 ^ exponent` for a mantissa of at most 53 bits, which has all
53 unless the exponent is the least one. -/
def ofMantissa (mantissa : Nat) (exponent : Int) : Float :=
  if mantissa < bound 52 then Float.ofBits (UInt64.ofNat mantissa)
  else
    let biased := exponent + 1075
    if 2047 ≤ biased then infinity
    else Float.ofBits (UInt64.ofNat (biased.toNat * bound 52 + (mantissa - bound 52)))

/-- The binary exponent at which `num / den` has a mantissa of 53 bits, or the least
exponent there is. -/
def binaryExponent (num den : Nat) : Int :=
  let guess : Int := (num.log2 : Int) - den.log2 - 52
  let fits := if 0 ≤ guess then den * bound (52 + guess.toNat) ≤ num
    else den * bound 52 ≤ num * bound (-guess).toNat
  max (-1074) (if fits then guess else guess - 1)

/-- The float nearest to `num / den`, for a positive denominator. -/
def roundRatio (num den : Nat) : Float :=
  if num = 0 then Float.ofBits 0
  else
    let e := binaryExponent num den
    let m := if 0 ≤ e then divNearestEven num (den * bound e.toNat)
      else divNearestEven (num * bound (-e).toNat) den
    if m = bound 53 then ofMantissa (bound 52) (e + 1) else ofMantissa m e

/-- The float nearest to `mantissa * 10 ^ exponent`. A number of more than 310 integer
digits is beyond every float, and one that starts after 330 zeros is nearest to zero. -/
def nearest (mantissa : Nat) (exponent : Int) : Float :=
  let size : Int := (Nat.toDigits 10 mantissa).length + exponent
  if mantissa = 0 ∨ size < -330 then Float.ofBits 0
  else if 310 < size then infinity
  else if 0 ≤ exponent then roundRatio (mantissa * Nat.pow 10 exponent.toNat) 1
  else roundRatio mantissa (Nat.pow 10 (-exponent).toNat)

/-- A float with the sign asked for. -/
def signed (negative : Bool) (x : Float) : Float :=
  if negative then -x else x

/-- The float nearest to an integer. -/
def ofInt (n : Int) : Float :=
  signed (n < 0) (nearest n.natAbs 0)

end ApiContract.Decimal
