/-!
# Bounds of whole numbers

## Main definitions

* `Decimal.bound` — how many numbers so many bits tell apart
* `Decimal.isInt64` — whole numbers that fit 64 bits with a sign
-/

namespace ApiContract.Decimal

/-- How many numbers so many bits tell apart. -/
def bound (bits : Nat) : Nat := Nat.pow 2 bits

/-- Whether a whole number fits 64 bits with a sign. -/
def isInt64 (n : Int) : Bool := -9223372036854775808 ≤ n && n < 9223372036854775808

/-- Whether a whole number fits 64 bits, with or without a sign. -/
def fits64 (n : Int) : Bool := -9223372036854775808 ≤ n && n < 18446744073709551616

end ApiContract.Decimal
