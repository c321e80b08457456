import ApiContract.Decimal.Shortest
import ApiContract.Json.Value
import ApiContract.Text.Quoted

/-!
# Reading JSON strictly

Settings are read from JSON with a message that says what was found and what was expected.
A record is an object whose members all have known names, or an array of their values in
declared order; members that are left out keep their defaults. The first fault is reported,
in the order of the members.

## Main definitions

* `Json.found` — a value in messages
* `Json.Typed` — readers of texts, flags, numbers, lists and choices
* `Json.RecordShape.read` — readers of records
-/

namespace ApiContract.Json

/-- A value as it is named in messages. -/
def found : Json → String
  | .null => "null"
  | .bool b => s!"boolean \x60{b}\x60"
  | .int n => s!"integer \x60{n}\x60"
  | .float x => s!"floating point \x60{Decimal.text x}\x60"
  | .str s => "string " ++ Text.quoted s
  | .arr _ => "sequence"
  | .obj _ => "map"

/-- A value of another kind than the one expected. -/
def mismatch (j : Json) (expected : String) : String :=
  s!"invalid type: {j.found}, expected {expected}"

/-- A value of the right kind that cannot be taken. -/
def unusable (found expected : String) : String :=
  s!"invalid value: {found}, expected {expected}"

/-- Names in messages, each in backquotes. -/
def ticked (names : List String) : String :=
  Text.join ", " (names.map fun n => s!"\x60{n}\x60")

/-- The names that are allowed. -/
def alternatives : List String → String
  | [] => "there are no fields"
  | [a] => s!"expected \x60{a}\x60"
  | [a, b] => s!"expected \x60{a}\x60 or \x60{b}\x60"
  | names => s!"expected one of {ticked names}"

namespace Typed

/-- A text; `expected` is what such a text is called. -/
def text (expected : String) : Json → Except String String
  | .str s => .ok s
  | j => .error (j.mismatch expected)

/-- A truth value. -/
def flag : Json → Except String Bool
  | .bool b => .ok b
  | j => .error (j.mismatch "a boolean")

/-- A natural number of so many bits. -/
def nat (bits : Nat) (expected : String) : Json → Except String Nat
  | .int n =>
    if 0 ≤ n ∧ n < Decimal.bound bits then .ok n.toNat
    else .error (unusable (Json.int n).found expected)
  | j => .error (j.mismatch expected)

/-- The items of a sequence. -/
def list {α : Type} (read : Json → Except String α) : Json → Except String (List α)
  | .arr items => items.mapM read
  | j => .error (j.mismatch "a sequence")

/-- A value that may be `null`. -/
def option {α : Type} (read : Json → Except String α) : Json → Except String (Option α)
  | .null => .ok none
  | j => (read j).map some

/-- One of several names. -/
def choose {α : Type} (choices : List (String × α)) (name : String) : Except String α :=
  match Members.lookup name choices with
  | some a => .ok a
  | none => .error s!"unknown variant \x60{name}\x60, {alternatives (Members.keys choices)}"

/-- One of several names, as a text or as the only key of an object with the value
`null`. -/
def choice {α : Type} (choices : List (String × α)) : Json → Except String α
  | .str s => choose choices s
  | .obj [(name, content)] => do
    let a ← choose choices name
    if content.isNull then .ok a else .error (content.mismatch "unit")
  | .obj _ => .error (unusable "map" "map with a single key")
  | j => .error (j.mismatch "string or map")

end Typed

/-- A member of a record: its name, and how its value is set. -/
structure MemberShape (α : Type) where
  name : String
  set : α → Json → Except String α

/-- A record: its name in messages, and its members in declared order. -/
structure RecordShape (α : Type) where
  name : String
  members : List (MemberShape α)

namespace RecordShape

variable {α : Type}

/-- Sets the member of a key. -/
def setMember (shape : RecordShape α) (a : α) (member : String × Json) : Except String α :=
  match shape.members.find? (·.name == member.1) with
  | some m => m.set a member.2
  | none =>
    let known := alternatives (shape.members.map MemberShape.name)
    .error s!"unknown field \x60{member.1}\x60, {known}"

/-- Sets members in declared order. -/
def setItems (shape : RecordShape α) (a : α) (items : List Json) : Except String α := do
  let a ← (shape.members.zip items).foldlM (fun a (m, item) => m.set a item) a
  if shape.members.length < items.length then
    .error s!"invalid length {items.length}, expected fewer elements in array"
  else .ok a

/-- The record that a value stands for; members left out are taken from `start`. -/
def read (shape : RecordShape α) (start : α) : Json → Except String α
  | .obj members => members.foldlM shape.setMember start
  | .arr items => shape.setItems start items
  | j => .error (j.mismatch s!"struct {shape.name}")

end RecordShape

end ApiContract.Json
