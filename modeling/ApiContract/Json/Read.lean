import ApiContract.Json.Number
import ApiContract.Text.Hex

/-!
# Reading JSON text

## Main definitions

* `Json.readAsWritten` — the value of a text, with the members of each object as written
* `Json.read` — the value of a text
* `Json.maxDepth` — how deep arrays and objects may be nested
-/

namespace ApiContract.Json

/-- How many arrays and objects may enclose one another. -/
def maxDepth : Nat := 127

/-- The characters that may stand between tokens. -/
def isSpace (c : Char) : Bool :=
  c == ' ' || c == '\n' || c == '\t' || c == '\r'

/-- A text without the blanks at its front. -/
def skipSpace (cs : List Char) : List Char :=
  cs.dropWhile isSpace

/-- What a one-letter escape stands for. -/
def escape? : Char → Option Char
  | '"' => some '"'
  | '\\' => some '\\'
  | '/' => some '/'
  | 'b' => some '\x08'
  | 'f' => some '\x0C'
  | 'n' => some '\n'
  | 'r' => some '\r'
  | 't' => some '\t'
  | _ => none

/-- Four hexadecimal digits. -/
def fourDigits? (a b c d : Char) : Option Nat :=
  Hex.number? [a, b, c, d]

/-- The character of a pair of surrogates. -/
def joinSurrogates (high low : Nat) : Char :=
  Char.ofNat (0x10000 + (high - 0xD800) * 0x400 + (low - 0xDC00))

/-- Whether a number is a leading surrogate. -/
def isHighSurrogate (n : Nat) : Bool := 0xD800 ≤ n && n ≤ 0xDBFF

/-- Whether a number is a trailing surrogate. -/
def isLowSurrogate (n : Nat) : Bool := 0xDC00 ≤ n && n ≤ 0xDFFF

/-- The characters of a string up to its closing quote. -/
def readString : List Char → Option (List Char × List Char)
  | [] => none
  | '"' :: rest => some ([], rest)
  | '\\' :: 'u' :: a :: b :: c :: d :: '\\' :: 'u' :: e :: f :: g :: h :: rest =>
    match fourDigits? a b c d, fourDigits? e f g h with
    | some high, some low =>
      if isHighSurrogate high then
        if isLowSurrogate low then
          (readString rest).map fun p => (joinSurrogates high low :: p.1, p.2)
        else none
      else if isLowSurrogate high then none
      else (readString ('\\' :: 'u' :: e :: f :: g :: h :: rest)).map fun p =>
        (Char.ofNat high :: p.1, p.2)
    | _, _ => none
  | '\\' :: 'u' :: a :: b :: c :: d :: rest =>
    match fourDigits? a b c d with
    | some n =>
      if isHighSurrogate n || isLowSurrogate n then none
      else (readString rest).map fun p => (Char.ofNat n :: p.1, p.2)
    | none => none
  | '\\' :: c :: rest =>
    match escape? c with
    | some e => (readString rest).map fun p => (e :: p.1, p.2)
    | none => none
  | c :: rest =>
    if c.toNat < 0x20 || c == '\\' then none
    else (readString rest).map fun p => (c :: p.1, p.2)

mutual

/-- The value at the front of a text that starts with no blank. `depth` is how many more
arrays and objects may open. -/
def readValue : Nat → Nat → List Char → Option (Json × List Char)
  | 0, _, _ => none
  | fuel + 1, depth, cs =>
    match cs with
    | 'n' :: 'u' :: 'l' :: 'l' :: rest => some (.null, rest)
    | 't' :: 'r' :: 'u' :: 'e' :: rest => some (.bool true, rest)
    | 'f' :: 'a' :: 'l' :: 's' :: 'e' :: rest => some (.bool false, rest)
    | '"' :: rest => (readString rest).map fun p => (.str (String.ofList p.1), p.2)
    | '[' :: rest =>
      if depth = 0 then none
      else match skipSpace rest with
        | ']' :: rest => some (.arr [], rest)
        | rest => (readItems fuel (depth - 1) rest).map fun p => (.arr p.1, p.2)
    | '{' :: rest =>
      if depth = 0 then none
      else match skipSpace rest with
        | '}' :: rest => some (.obj [], rest)
        | rest => (readMembers fuel (depth - 1) rest).map fun p => (.obj p.1, p.2)
    | cs => do
      let (numeral, rest) ← readNumeral cs
      let value ← numeral.value?
      return (value, rest)

/-- The items of an array up to its closing bracket, at least one. -/
def readItems : Nat → Nat → List Char → Option (List Json × List Char)
  | 0, _, _ => none
  | fuel + 1, depth, cs => do
    let (value, rest) ← readValue fuel depth cs
    match skipSpace rest with
    | ']' :: rest => return ([value], rest)
    | ',' :: rest =>
      let (values, rest) ← readItems fuel depth (skipSpace rest)
      return (value :: values, rest)
    | _ => none

/-- The members of an object up to its closing brace, at least one. -/
def readMembers : Nat → Nat → List Char → Option (List (String × Json) × List Char)
  | 0, _, _ => none
  | fuel + 1, depth, cs =>
    match cs with
    | '"' :: rest => do
      let (key, rest) ← readString rest
      match skipSpace rest with
      | ':' :: rest =>
        let (value, rest) ← readValue fuel depth (skipSpace rest)
        match skipSpace rest with
        | '}' :: rest => return ([(String.ofList key, value)], rest)
        | ',' :: rest =>
          let (members, rest) ← readMembers fuel depth (skipSpace rest)
          return ((String.ofList key, value) :: members, rest)
        | _ => none
      | _ => none
    | _ => none

end

/-- The value of a text, with the members of each object as written. -/
def readAsWritten (s : String) : Option Json :=
  let cs := s.toList
  match readValue (cs.length + 1) maxDepth (skipSpace cs) with
  | some (value, rest) => if (skipSpace rest).isEmpty then some value else none
  | none => none

/-- The value of a text. -/
def read (s : String) : Option Json :=
  (readAsWritten s).map sorted

end ApiContract.Json
