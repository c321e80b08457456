import ApiContract.Decimal.Shortest
import ApiContract.Json.Value
import ApiContract.Text.Hex

/-!
# Writing JSON text

## Main definitions

* `Json.compact` — a value on one line without blanks
* `Json.pretty` — a value with one member or item a line, two blanks for each depth
-/

namespace ApiContract.Json

/-- A character inside a JSON string. -/
def writeChar (c : Char) : List Char :=
  match c with
  | '"' => ['\\', '"']
  | '\\' => ['\\', '\\']
  | '\x08' => ['\\', 'b']
  | '\x0C' => ['\\', 'f']
  | '\n' => ['\\', 'n']
  | '\r' => ['\\', 'r']
  | '\t' => ['\\', 't']
  | c => if c.toNat < 0x20 then ['\\', 'u'] ++ Hex.fixed 4 c.toNat else [c]

/-- A text as a JSON string. -/
def quote (s : String) : List Char :=
  '"' :: s.toList.flatMap writeChar ++ ['"']

/-- A value without parts, as written. -/
def writeAtom : Json → List Char
  | .null => "null".toList
  | .bool true => "true".toList
  | .bool false => "false".toList
  | .int n => (toString n).toList
  | .float x => if Decimal.isFinite x then (Decimal.text x).toList else "null".toList
  | .str s => quote s
  | .arr _ => []
  | .obj _ => []

mutual

/-- A value on one line without blanks. -/
def writeCompact : Json → List Char
  | .arr items => '[' :: writeItems items ++ [']']
  | .obj members => '{' :: writeMembers members ++ ['}']
  | atom => writeAtom atom

/-- The items of an array with commas between them. -/
def writeItems : List Json → List Char
  | [] => []
  | [item] => writeCompact item
  | item :: rest => writeCompact item ++ ',' :: writeItems rest

/-- The members of an object with commas between them. -/
def writeMembers : List (String × Json) → List Char
  | [] => []
  | [(key, value)] => quote key ++ ':' :: writeCompact value
  | (key, value) :: rest => quote key ++ ':' :: writeCompact value ++ ',' :: writeMembers rest

end

/-- A value on one line without blanks. -/
def compact (value : Json) : String :=
  String.ofList (writeCompact value)

/-- A new line at a depth. -/
def lineBreak (depth : Nat) : List Char :=
  '\n' :: List.replicate (2 * depth) ' '

mutual

/-- A value laid out with one part a line, at a depth. -/
def writePretty (depth : Nat) : Json → List Char
  | .arr [] => ['[', ']']
  | .arr items => '[' :: prettyItems (depth + 1) items ++ lineBreak depth ++ [']']
  | .obj [] => ['{', '}']
  | .obj members => '{' :: prettyMembers (depth + 1) members ++ lineBreak depth ++ ['}']
  | atom => writeAtom atom

/-- The items of an array, each on a line of its own. -/
def prettyItems (depth : Nat) : List Json → List Char
  | [] => []
  | [item] => lineBreak depth ++ writePretty depth item
  | item :: rest => lineBreak depth ++ writePretty depth item ++ ',' :: prettyItems depth rest

/-- The members of an object, each on a line of its own. -/
def prettyMembers (depth : Nat) : List (String × Json) → List Char
  | [] => []
  | [(key, value)] => lineBreak depth ++ quote key ++ ':' :: ' ' :: writePretty depth value
  | (key, value) :: rest =>
    lineBreak depth ++ quote key ++ ':' :: ' ' :: writePretty depth value ++
      ',' :: prettyMembers depth rest

end

/-- A value with one member or item a line. -/
def pretty (value : Json) : String :=
  String.ofList (writePretty 0 value)

end ApiContract.Json
