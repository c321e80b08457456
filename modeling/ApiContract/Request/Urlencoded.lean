import ApiContract.Members
import ApiContract.Text.Blank
import ApiContract.Text.Percent

/-!
# URL-encoded pairs

Query strings and simple forms are pairs of names and values: pairs are separated by
ampersands, a name ends at the first equals sign, a plus sign is a blank, and bytes may be
percent-coded. Bytes that are not UTF-8 are replaced. The first value of a name counts.

## Main definitions

* `Urlencoded.pairs` — the pairs in order
* `Urlencoded.fields` — the first value of each name
* `Urlencoded.encode` — pairs as text
-/

namespace ApiContract.Urlencoded

/-- One name or value. -/
def decode (bytes : List UInt8) : String :=
  Utf8.decodeLossy (Percent.decodeBytes (bytes.map fun b => if b == 0x2B then 0x20 else b))

/-- The name and the value of one pair. -/
def pair (bytes : List UInt8) : String × String :=
  (decode (bytes.takeWhile (· != 0x3D)), decode ((bytes.dropWhile (· != 0x3D)).drop 1))

/-- The pairs in order; nothing between two ampersands is no pair. -/
def pairs (bytes : List UInt8) : List (String × String) :=
  ((Text.pieces (· == 0x26) bytes).filter fun piece => !piece.isEmpty).map pair

/-- The first value of each name. -/
def fields (bytes : List UInt8) : List (String × String) :=
  (pairs bytes).foldl (fun fields p => Members.insertNew p.1 p.2 fields) []

/-- The fields of the query of a target, if it has one. -/
def query (q : Option String) : List (String × String) :=
  fields (Utf8.encode (q.getD ""))

/-- A byte that stands for itself in a form. -/
def isPlain (b : UInt8) : Bool :=
  (0x30 ≤ b && b ≤ 0x39) || (0x41 ≤ b && b ≤ 0x5A) || (0x61 ≤ b && b ≤ 0x7A) ||
    b == 0x2A || b == 0x2D || b == 0x2E || b == 0x5F

/-- A name or a value as text. -/
def encodeText (s : String) : String :=
  String.ofList ((Utf8.encode s).flatMap fun b =>
    if isPlain b then [Char.ofNat b.toNat]
    else if b == 0x20 then ['+']
    else Percent.writeByte b)

/-- Pairs as text. -/
def encode (pairs : List (String × String)) : String :=
  Text.join "&" (pairs.map fun p => encodeText p.1 ++ "=" ++ encodeText p.2)

end ApiContract.Urlencoded
