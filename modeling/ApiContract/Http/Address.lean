import ApiContract.Decimal.Read
import ApiContract.Text.Blank
import ApiContract.Text.Hex

/-!
# Socket addresses

An address names a host by number, of version 4 or 6, and a port.

## Main definitions

* `Ip`, `SocketAddress` — addresses
* `SocketAddress.read?` — an address from its text
* `Ip.toText`, `SocketAddress.toText` — an address as text
-/

namespace ApiContract

/-- A host by number: four bytes, or eight groups of sixteen bits. -/
inductive Ip where
  | v4 (bytes : List Nat)
  | v6 (groups : List Nat)
  deriving DecidableEq, Repr

/-- A host and a port; the scope tells interfaces of one host apart. -/
structure SocketAddress where
  ip : Ip
  scope : Nat := 0
  port : Nat
  deriving DecidableEq, Repr

namespace Ip

/-- One to three digits without a leading zero, below 256. -/
def readByte (cs : List Char) : Option (Nat × List Char) :=
  let digits := cs.takeWhile Decimal.isDigit
  let n := Decimal.ofDigits 0 digits
  if digits.isEmpty || 3 < digits.length || 255 < n then none
  else if digits.head? == some '0' && digits.length ≠ 1 then none
  else some (n, cs.drop digits.length)

/-- Four bytes with points between them. -/
def readV4 (cs : List Char) : Option (List Nat × List Char) := do
  let point : List Char → Option (List Char)
    | '.' :: rest => some rest
    | _ => none
  let (a, cs) ← readByte cs
  let (b, cs) ← readByte (← point cs)
  let (c, cs) ← readByte (← point cs)
  let (d, cs) ← readByte (← point cs)
  return ([a, b, c, d], cs)

/-- One to four hexadecimal digits. -/
def readGroup (cs : List Char) : Option (Nat × List Char) :=
  let digits := cs.takeWhile fun c => (Hex.value? c).isSome
  if digits.isEmpty || 4 < digits.length then none
  else (Hex.number? digits).map fun n => (n, cs.drop digits.length)

/-- Up to `limit` groups with colons between them, the last two of which may be four bytes;
and whether they are. -/
def readGroups (first : Bool) : Nat → List Char → List Nat × Bool × List Char
  | 0, cs => ([], false, cs)
  | limit + 1, cs =>
    let rest? := if first then some cs else match cs with
      | ':' :: rest => some rest
      | _ => none
    match rest? with
    | none => ([], false, cs)
    | some rest =>
      match if limit = 0 then none else readV4 rest with
      | some ([a, b, c, d], after) => ([a * 256 + b, c * 256 + d], true, after)
      | _ =>
        match readGroup rest with
        | none => ([], false, cs)
        | some (group, after) =>
          let (groups, bytes, after) := readGroups false limit after
          (group :: groups, bytes, after)

/-- Eight groups; two colons stand for as many zeros as are missing. -/
def readV6 (cs : List Char) : Option (List Nat × List Char) :=
  let (head, bytes, rest) := readGroups true 8 cs
  if head.length = 8 then some (head, rest)
  else if bytes then none
  else match rest with
    | ':' :: ':' :: rest =>
      let (tail, _, rest) := readGroups true (7 - head.length) rest
      some (head ++ List.replicate (8 - head.length - tail.length) 0 ++ tail, rest)
    | _ => none

/-- How many zeros a list starts with. -/
def zeros : List Nat → Nat
  | 0 :: rest => zeros rest + 1
  | _ => 0

/-- The start and the length of the first longest run of zeros. -/
def longestZeros (groups : List Nat) : Nat × Nat :=
  (List.range groups.length).foldl (fun best i =>
    let n := zeros (groups.drop i)
    if best.2 < n then (i, n) else best) (0, 0)

/-- Groups with colons between them. -/
def writeGroups (groups : List Nat) : String :=
  Text.join ":" (groups.map Hex.ofNat)

/-- Bytes with points between them. -/
def writeBytes (bytes : List Nat) : String :=
  Text.join "." (bytes.map toString)

/-- A host as text. Of an address of version 6 the first longest run of at least two zeros
is left out, and one that stands for an address of version 4 ends in its bytes. -/
def toText : Ip → String
  | v4 bytes => writeBytes bytes
  | v6 [0, 0, 0, 0, 0, 0xFFFF, a, b] =>
    "::ffff:" ++ writeBytes [a / 256, a % 256, b / 256, b % 256]
  | v6 groups =>
    let (start, length) := longestZeros groups
    if 1 < length then
      writeGroups (groups.take start) ++ "::" ++ writeGroups (groups.drop (start + length))
    else writeGroups groups

end Ip

namespace SocketAddress

/-- A colon and a port, to the end of the text. -/
def readPort : List Char → Option Nat
  | ':' :: digits =>
    let port := Decimal.ofDigits 0 digits
    if digits.isEmpty || !digits.all Decimal.isDigit || 65535 < port then none else some port
  | _ => none

/-- A percent sign and the number of a scope, if there is one. -/
def readScope : List Char → Option (Nat × List Char)
  | '%' :: rest =>
    let digits := rest.takeWhile Decimal.isDigit
    let scope := Decimal.ofDigits 0 digits
    if digits.isEmpty || Decimal.bound 32 ≤ scope then none else some (scope, rest.drop digits.length)
  | cs => some (0, cs)

/-- An address from its text. -/
def read? (s : String) : Option SocketAddress :=
  match s.toList with
  | '[' :: cs => do
    let (groups, cs) ← Ip.readV6 cs
    let (scope, cs) ← readScope cs
    match cs with
    | ']' :: cs => return { ip := .v6 groups, scope, port := ← readPort cs }
    | _ => none
  | cs => do
    let (bytes, cs) ← Ip.readV4 cs
    return { ip := .v4 bytes, port := ← readPort cs }

/-- An address as text. -/
def toText (a : SocketAddress) : String :=
  match a.ip with
  | .v4 _ => s!"{a.ip.toText}:{a.port}"
  | .v6 _ =>
    let scope := if a.scope = 0 then "" else s!"%{a.scope}"
    s!"[{a.ip.toText}{scope}]:{a.port}"

end SocketAddress

end ApiContract
