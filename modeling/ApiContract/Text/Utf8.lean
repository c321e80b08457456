/-!
# UTF-8

Bodies, uploaded files and percent-decoded segments arrive as bytes. They are read as
UTF-8 in two ways: strictly, with the place of the first fault, and leniently, where
every faulty stretch becomes one replacement character.

## Main definitions

* `Utf8.encode` — the bytes of a text
* `Utf8.decode` — the text of well-formed bytes, or the first fault
* `Utf8.decodeLossy` — a text for any bytes
-/

namespace ApiContract.Utf8

/-- The bytes of a text. -/
def encode (s : String) : List UInt8 :=
  s.toList.flatMap String.utf8EncodeChar

/-- What stands at the front of a byte sequence: a character that takes `extra` bytes
after the first, a faulty stretch of `1 + extra` bytes, or the start of a character that
the end of the sequence cuts off. -/
inductive Front where
  | char (c : Char) (extra : Nat)
  | bad (extra : Nat)
  | cut
  deriving Repr, DecidableEq

/-- Whether a byte can only continue a character. -/
def isTail (b : UInt8) : Bool :=
  0x80 ≤ b && b ≤ 0xBF

/-- Six payload bits of a continuing byte added to the bits read so far. -/
def addTail (acc : Nat) (b : UInt8) : Nat :=
  acc * 64 + (b.toNat - 0x80)

/-- The bounds of the second byte after a given first byte, and the number of bytes after
the first. A first byte that starts no character has none. -/
def secondByte (b : UInt8) : Option (UInt8 × UInt8 × Nat) :=
  if 0xC2 ≤ b && b ≤ 0xDF then some (0x80, 0xBF, 1)
  else if b == 0xE0 then some (0xA0, 0xBF, 2)
  else if b == 0xED then some (0x80, 0x9F, 2)
  else if 0xE1 ≤ b && b ≤ 0xEF then some (0x80, 0xBF, 2)
  else if b == 0xF0 then some (0x90, 0xBF, 3)
  else if 0xF1 ≤ b && b ≤ 0xF3 then some (0x80, 0xBF, 3)
  else if b == 0xF4 then some (0x80, 0x8F, 3)
  else none

/-- The payload bits of a first byte that `extra` bytes follow. -/
def leadBits (b : UInt8) (extra : Nat) : Nat :=
  b.toNat % Nat.pow 2 (6 - extra)

/-- The bytes still owed by a character, read from the bytes that are left. `taken` counts
those already read after the first. -/
def readTails (acc taken : Nat) : Nat → List UInt8 → Front
  | 0, _ => .char (Char.ofNat acc) taken
  | _ + 1, [] => .cut
  | owed + 1, b :: rest =>
    if isTail b then readTails (addTail acc b) (taken + 1) owed rest else .bad taken

/-- What stands at the front of the bytes `b :: rest`. -/
def front (b : UInt8) (rest : List UInt8) : Front :=
  if b < 0x80 then .char (Char.ofNat b.toNat) 0
  else match secondByte b with
    | none => .bad 0
    | some (low, high, extra) =>
      match rest with
      | [] => .cut
      | c :: rest =>
        if low ≤ c && c ≤ high then
          readTails (addTail (leadBits b extra) c) 1 (extra - 1) rest
        else .bad 0

/-- The first place where bytes are not UTF-8: how many bytes before it are, and the
length of the faulty stretch, unless the bytes merely end too early. -/
structure Fault where
  validUpTo : Nat
  length? : Option Nat
  deriving Repr, DecidableEq

/-- The wording of a fault. -/
def Fault.message (f : Fault) : String :=
  match f.length? with
  | some n => s!"invalid utf-8 sequence of {n} bytes from index {f.validUpTo}"
  | none => s!"incomplete utf-8 byte sequence from index {f.validUpTo}"

/-- The characters of well-formed bytes that start at `offset`, or the first fault. -/
def decodeFrom (offset : Nat) : List UInt8 → Except Fault (List Char)
  | [] => .ok []
  | b :: rest =>
    match front b rest with
    | .char c extra => (decodeFrom (offset + 1 + extra) (rest.drop extra)).map (c :: ·)
    | .bad extra => .error ⟨offset, some (1 + extra)⟩
    | .cut => .error ⟨offset, none⟩
termination_by bytes => bytes.length
decreasing_by simp only [List.length_drop, List.length_cons]; omega

/-- The text of well-formed bytes, or the first fault. -/
def decode (bytes : List UInt8) : Except Fault String :=
  (decodeFrom 0 bytes).map String.ofList

/-- The text of well-formed bytes. -/
def decode? (bytes : List UInt8) : Option String :=
  (decode bytes).toOption

/-- The characters of any bytes, with one replacement character for each faulty stretch. -/
def decodeLossyChars : List UInt8 → List Char
  | [] => []
  | b :: rest =>
    match front b rest with
    | .char c extra => c :: decodeLossyChars (rest.drop extra)
    | .bad extra => '\uFFFD' :: decodeLossyChars (rest.drop extra)
    | .cut => ['\uFFFD']
termination_by bytes => bytes.length
decreasing_by all_goals (simp only [List.length_drop, List.length_cons]; omega)

/-- The text of any bytes, with one replacement character for each faulty stretch. -/
def decodeLossy (bytes : List UInt8) : String :=
  String.ofList (decodeLossyChars bytes)

end ApiContract.Utf8
