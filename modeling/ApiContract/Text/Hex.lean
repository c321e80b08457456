/-!
# Hexadecimal digits

## Main definitions

* `Hex.value?` — what a hexadecimal digit stands for
* `Hex.digit` — the small digit of a number below sixteen
* `Hex.ofBytes`, `Hex.toBytes?` — bytes as text, two digits each, and back
-/

namespace ApiContract.Hex

/-- What a hexadecimal digit, capital or small, stands for. -/
def value? (c : Char) : Option Nat :=
  if '0' ≤ c ∧ c ≤ '9' then some (c.toNat - '0'.toNat)
  else if 'a' ≤ c ∧ c ≤ 'f' then some (c.toNat - 'a'.toNat + 10)
  else if 'A' ≤ c ∧ c ≤ 'F' then some (c.toNat - 'A'.toNat + 10)
  else none

/-- The small digit of a number below sixteen. -/
def digit (n : Nat) : Char :=
  if n < 10 then Char.ofNat ('0'.toNat + n) else Char.ofNat ('a'.toNat + (n - 10))

/-- The capital digit of a number below sixteen. -/
def capital (n : Nat) : Char :=
  (digit n).toUpper

/-- The two small digits of a byte. -/
def ofByte (b : UInt8) : List Char :=
  [digit (b.toNat / 16), digit (b.toNat % 16)]

/-- Bytes as text, two small digits each. -/
def ofBytes (bytes : List UInt8) : String :=
  String.ofList (bytes.flatMap ofByte)

/-- The bytes of a text of digit pairs. -/
def bytesOfChars? : List Char → Option (List UInt8)
  | [] => some []
  | h :: l :: rest => do
    let high ← value? h
    let low ← value? l
    let bytes ← bytesOfChars? rest
    return UInt8.ofNat (high * 16 + low) :: bytes
  | [_] => none

/-- The bytes of a text of digit pairs. -/
def toBytes? (s : String) : Option (List UInt8) :=
  bytesOfChars? s.toList

/-- The number that a text of digits stands for, read from the left. -/
def number? (cs : List Char) : Option Nat :=
  cs.foldlM (fun acc c => (value? c).map (acc * 16 + ·)) 0

/-- The small digits of a number, as many as `width` asks for, the leading ones lost. -/
def fixed : Nat → Nat → List Char
  | 0, _ => []
  | width + 1, n => fixed width (n / 16) ++ [digit (n % 16)]

/-- The small digits of a number, without leading zeros. -/
def ofNat (n : Nat) : String :=
  String.ofList (Nat.toDigits 16 n)

end ApiContract.Hex
