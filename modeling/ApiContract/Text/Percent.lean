import ApiContract.Text.Hex
import ApiContract.Text.Utf8

/-!
# Percent coding

A byte in a URL may be written as `%` and two hexadecimal digits. A `%` that two such
digits do not follow stands for itself.

## Main definitions

* `Percent.decodeBytes` — bytes with each written byte put in
* `Percent.decode` — a path segment as text, or the place where it is not UTF-8
* `Percent.encode` — every byte outside the unreserved set written out
-/

namespace ApiContract.Percent

/-- The value of a hexadecimal digit given as a byte. -/
def hexValue? (b : UInt8) : Option Nat :=
  if b < 0x80 then Hex.value? (Char.ofNat b.toNat) else none

/-- The byte that two hexadecimal digits stand for. -/
def pair? (high low : UInt8) : Option UInt8 := do
  let h ← hexValue? high
  let l ← hexValue? low
  return UInt8.ofNat (h * 16 + l)

/-- Bytes with each `%XX` replaced by the byte it stands for. -/
def decodeBytes : List UInt8 → List UInt8
  | 0x25 :: high :: low :: rest =>
    match pair? high low with
    | some b => b :: decodeBytes rest
    | none => 0x25 :: decodeBytes (high :: low :: rest)
  | b :: rest => b :: decodeBytes rest
  | [] => []

/-- A percent-coded text read as UTF-8, or the place where its bytes are not. -/
def decode (s : String) : Except Utf8.Fault String :=
  Utf8.decode (decodeBytes (Utf8.encode s))

/-- The bytes that stand for themselves in a URL: letters, digits and `-._~`. -/
def isUnreserved (b : UInt8) : Bool :=
  (0x30 ≤ b && b ≤ 0x39) || (0x41 ≤ b && b ≤ 0x5A) || (0x61 ≤ b && b ≤ 0x7A) ||
    b == 0x2D || b == 0x2E || b == 0x5F || b == 0x7E

/-- A byte written as `%XX`. -/
def writeByte (b : UInt8) : List Char :=
  ['%', Hex.capital (b.toNat / 16), Hex.capital (b.toNat % 16)]

/-- A text with every byte outside the unreserved set written as `%XX`. -/
def encode (s : String) : String :=
  String.ofList ((Utf8.encode s).flatMap fun b =>
    if isUnreserved b then [Char.ofNat b.toNat] else writeByte b)

end ApiContract.Percent
