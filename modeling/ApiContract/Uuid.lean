import ApiContract.Text.Hex

/-!
# Identifiers

Errors, requests and reports carry identifiers of 128 bits, written as groups of
hexadecimal digits.

## Main definitions

* `Uuid.toText` — the written form, in small letters
* `Uuid.read?` — the forms that are accepted: grouped, plain, in braces or as a URN
* `Uuid.generated` — the identifiers that the service hands out itself
-/

namespace ApiContract

/-- An identifier of 128 bits. -/
structure Uuid where
  bits : BitVec 128
  deriving DecidableEq, Repr

namespace Uuid

/-- The sizes of the groups of digits. -/
def groups : List Nat := [8, 4, 4, 4, 12]

/-- Digits cut into groups with hyphens between them. -/
def group : List Nat → List Char → List Char
  | [], _ => []
  | [n], digits => digits.take n
  | n :: rest, digits => digits.take n ++ '-' :: group rest (digits.drop n)

/-- The digits of groups with hyphens between them. -/
def ungroup? : List Nat → List Char → Option (List Char)
  | [], [] => some []
  | [n], cs => if cs.length = n then some cs else none
  | n :: rest, cs =>
    match cs.drop n with
    | '-' :: more => (ungroup? rest more).map (cs.take n ++ ·)
    | _ => none
  | [], _ => none

/-- An identifier in groups of small hexadecimal digits. -/
def toText (id : Uuid) : String :=
  String.ofList (group groups (Hex.fixed 32 id.bits.toNat))

/-- The identifier of 32 hexadecimal digits. -/
def ofDigits? (digits : List Char) : Option Uuid :=
  if digits.length = 32 then (Hex.number? digits).map fun n => ⟨BitVec.ofNat 128 n⟩ else none

/-- An identifier in one of the accepted forms. -/
def readChars? (cs : List Char) : Option Uuid :=
  match cs with
  | '{' :: rest =>
    if rest.getLast? = some '}' then (ungroup? groups rest.dropLast).bind ofDigits? else none
  | 'u' :: 'r' :: 'n' :: ':' :: 'u' :: 'u' :: 'i' :: 'd' :: ':' :: rest =>
    (ungroup? groups rest).bind ofDigits?
  | cs => (ofDigits? cs).orElse fun _ => (ungroup? groups cs).bind ofDigits?

/-- An identifier in one of the accepted forms. -/
def read? (s : String) : Option Uuid :=
  readChars? s.toList

/-- The identifier that the service hands out in the given place, of version 7. -/
def generated (place : Nat) : Uuid :=
  ⟨BitVec.ofNat 48 0x019000000000 ++ 7#4 ++ 0#12 ++ 2#2 ++ BitVec.ofNat 62 place⟩

end Uuid

end ApiContract
