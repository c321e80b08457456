import ApiContract.Toml.Scalar
import ApiContract.Toml.Table

/-!
# Reading TOML

A document is read line by line into a table. A header says to which table the lines after it
belong. The result is JSON.

## Main definitions

* `Toml.readKey` — a dotted key
* `Toml.readValue` — a value
* `Toml.Document`, `Toml.Document.line?` — a document in the making, and one more line of it
* `Toml.read` — the JSON of a document
-/

namespace ApiContract.Toml

/-- How many arrays, inline tables or keys may enclose one another. -/
def maxDepth : Nat := 79

/-! ### Keys -/

/-- Whether a character may stand in a key without quotes. -/
def isBare (c : Char) : Bool := c.isAlphanum || c = '_' || c = '-'

/-- One key. -/
def readSimpleKey (cs : List Char) : Option (String × List Char) :=
  let bare := cs.takeWhile isBare
  if bare.isEmpty then readQuoted cs
  else some (String.ofList bare, cs.dropWhile isBare)

/-- Keys with points between them, and blanks around each. -/
def readKeys : Nat → Reader (List String)
  | 0, _ => none
  | fuel + 1, cs => do
    let (key, rest) ← readSimpleKey (skipGaps cs)
    match skipGaps rest with
    | '.' :: rest =>
      let (keys, rest) ← readKeys fuel rest
      return (key :: keys, rest)
    | rest => return ([key], rest)

/-- A dotted key: the keys on the way, and the last. -/
def readKey (cs : List Char) : Option ((List String × String) × List Char) := do
  let (keys, rest) ← readKeys (maxDepth + 1) cs
  let key ← keys.getLast?
  if maxDepth < keys.length then none else return ((keys.dropLast, key), rest)

/-! ### Values -/

/-- The characters after a comment, at the end of its line. -/
def skipComment : List Char → Option (List Char)
  | '#' :: rest =>
    let rest := rest.dropWhile isPlain
    if rest.isEmpty || (afterBreak? rest).isSome then some rest else none
  | cs => some cs

/-- The characters after blanks, comments and line breaks. -/
def skipLines : Nat → List Char → Option (List Char)
  | 0, _ => none
  | fuel + 1, cs => do
    let rest ← skipComment (skipGaps cs)
    match afterBreak? rest with
    | some rest => skipLines fuel rest
    | none => some rest

mutual

/-- A value; arrays and inline tables enclose one another at most `depth` times. -/
def readValue : Nat → Nat → Reader Json
  | 0, _, _ => none
  | fuel + 1, depth, cs =>
    match cs with
    | '[' :: rest => if depth = 0 then none else readItems fuel (depth - 1) [] rest
    | '{' :: rest =>
      if depth = 0 then none
      else match skipGaps rest with
        | '}' :: rest => some (.obj [], rest)
        | rest => readPairs fuel (depth - 1) [] rest
    | 't' :: 'r' :: 'u' :: 'e' :: rest => some (.bool true, rest)
    | 'f' :: 'a' :: 'l' :: 's' :: 'e' :: rest => some (.bool false, rest)
    | '"' :: _ | '\'' :: _ => (readString cs).map fun (s, rest) => (.str s, rest)
    | _ => if startsDate cs || startsTime cs then readMoment cs else readNumber cs

/-- The rest of an array. -/
def readItems : Nat → Nat → List Json → Reader Json
  | 0, _, _, _ => none
  | fuel + 1, depth, items, cs => do
    match ← skipLines (cs.length + 1) cs with
    | ']' :: rest => return (.arr items, rest)
    | rest =>
      let (item, rest) ← readValue fuel depth rest
      match ← skipLines (rest.length + 1) rest with
      | ',' :: rest => readItems fuel depth (items ++ [item]) rest
      | ']' :: rest => return (.arr (items ++ [item]), rest)
      | _ => none

/-- The rest of an inline table, on one line. -/
def readPairs : Nat → Nat → Table → Reader Json
  | 0, _, _, _ => none
  | fuel + 1, depth, t, cs => do
    let ((path, key), rest) ← readKey cs
    let rest ← Text.dropLeading? ['='] rest
    let (value, rest) ← readValue fuel depth (skipGaps rest)
    let t ← t.assign? path key value
    match skipGaps rest with
    | ',' :: rest => readPairs fuel depth t rest
    | '}' :: rest => return (t.toJson (maxDepth + 1), rest)
    | _ => none

end

/-! ### Documents -/

/-- A document in the making: its table, and the path to the table that lines belong to. -/
structure Document where
  root : Table := []
  current : List String := []

namespace Document

/-- A document with one more value in its current table. -/
def assign? (d : Document) (path : List String) (key : String) (j : Json) :
    Option Document := do
  let root ← d.root.at? false (fun _ t => t.assign? path key j) d.current .header
  return { d with root }

/-- A document with one more header. -/
def header? (d : Document) (array : Bool) (path : List String) (key : String) :
    Option Document := do
  let root ← if array then d.root.append? path key else d.root.open? path key
  return { root, current := path ++ [key] }

/-- What is left after the end of a line. -/
def endLine? (cs : List Char) : Option (List Char) := do
  let rest ← skipComment (skipGaps cs)
  if rest.isEmpty then some [] else afterBreak? rest

/-- A document with one more line, and what is left after it. -/
def line? (d : Document) (cs : List Char) : Option (Document × List Char) := do
  match skipGaps cs with
  | '[' :: '[' :: rest =>
    let ((path, key), rest) ← readKey rest
    let rest ← Text.dropLeading? [']', ']'] rest
    return (← d.header? true path key, ← endLine? rest)
  | '[' :: rest =>
    let ((path, key), rest) ← readKey rest
    let rest ← Text.dropLeading? [']'] rest
    return (← d.header? false path key, ← endLine? rest)
  | rest =>
    match endLine? rest with
    | some rest => return (d, rest)
    | none =>
      let ((path, key), rest) ← readKey rest
      let rest ← Text.dropLeading? ['='] rest
      let rest := skipGaps rest
      let (value, rest) ← readValue (rest.length + 1) maxDepth rest
      return (← d.assign? path key value, ← endLine? rest)

/-- A document with all lines of a text. -/
def lines? : Nat → Document → List Char → Option Document
  | _, d, [] => some d
  | 0, _, _ => none
  | fuel + 1, d, cs => do
    let (d, rest) ← d.line? cs
    lines? fuel d rest

end Document

/-- The JSON of a document, unless it is malformed. A mark of the byte order may come
first. -/
def read (text : String) : Option Json := do
  let cs := match text.toList with
    | '\uFEFF' :: rest => rest
    | cs => cs
  let d ← Document.lines? (cs.length + 1) {} cs
  return d.root.toJson (2 * maxDepth + 2)

end ApiContract.Toml
