import ApiContract.Decimal.Nearest
import ApiContract.Text.Blank

/-!
# Numbers read from plain text

Path segments, query values, form fields and environment variables carry numbers as
plain text. An integer is an optional sign and digits; a number may also have a point, an
exponent, or be one of the words for infinity and not-a-number.

## Main definitions

* `Decimal.readInteger?` — an optional sign and at least one digit
* `Decimal.readInt64?`, `Decimal.readNatBelow?` — the same within bounds
* `Decimal.readFloat?` — the nearest float
-/

namespace ApiContract.Decimal

/-- The value of an ASCII digit. -/
def digit? (c : Char) : Option Nat :=
  if '0' ≤ c ∧ c ≤ '9' then some (c.toNat - '0'.toNat) else none

/-- Whether a character is an ASCII digit. -/
def isDigit (c : Char) : Bool := (digit? c).isSome

/-- The number that digits stand for, given the number read before them. -/
def ofDigits (acc : Nat) (cs : List Char) : Nat :=
  cs.foldl (fun n c => n * 10 + (c.toNat - '0'.toNat)) acc

/-- A leading sign, and what follows it. -/
def takeSign : List Char → Bool × List Char
  | '-' :: rest => (true, rest)
  | '+' :: rest => (false, rest)
  | cs => (false, cs)

/-- An optional sign and at least one digit, and nothing else. -/
def readInteger? (s : String) : Option Int :=
  let (negative, digits) := takeSign s.toList
  if digits.isEmpty || !digits.all isDigit then none
  else
    let n : Int := ofDigits 0 digits
    some (if negative then -n else n)

/-- An integer of 64 bits. -/
def readInt64? (s : String) : Option Int64 := do
  let n ← readInteger? s
  if isInt64 n then some (Int64.ofInt n) else none

/-- A natural number below a bound; a plus sign is allowed. -/
def readNatBelow? (bound : Nat) (s : String) : Option Nat :=
  let digits := match s.toList with
    | '+' :: rest => rest
    | cs => cs
  if digits.isEmpty || !digits.all isDigit then none
  else
    let n := ofDigits 0 digits
    if n < bound then some n else none

/-- The exponent part of a number: nothing, or a mark, an optional sign and digits. -/
def readExponent? : List Char → Option Int
  | [] => some 0
  | c :: rest =>
    if c = 'e' ∨ c = 'E' then
      let (negative, digits) := takeSign rest
      if digits.isEmpty || !digits.all isDigit then none
      else
        let n : Int := ofDigits 0 digits
        some (if negative then -n else n)
    else none

/-- Digits around an optional point, at least one of them, and an optional exponent. -/
def readUnsigned? (cs : List Char) : Option Float :=
  let whole := cs.takeWhile isDigit
  let (fraction, rest) := match cs.dropWhile isDigit with
    | '.' :: more => (more.takeWhile isDigit, more.dropWhile isDigit)
    | more => ([], more)
  if whole.isEmpty && fraction.isEmpty then none
  else
    (readExponent? rest).map fun e =>
      nearest (ofDigits (ofDigits 0 whole) fraction) (e - fraction.length)

/-- The words for infinity and not-a-number, in letters of either case. -/
def readWord? (s : String) : Option Float :=
  if Text.eqIgnoreCase s "inf" || Text.eqIgnoreCase s "infinity" then some infinity
  else if Text.eqIgnoreCase s "nan" then some notANumber
  else none

/-- The float nearest to a number given as text. -/
def readFloat? (s : String) : Option Float :=
  let (negative, body) := takeSign s.toList
  ((readUnsigned? body).orElse fun _ => readWord? (String.ofList body)).map (signed negative)

end ApiContract.Decimal
