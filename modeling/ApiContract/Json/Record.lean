import ApiContract.Json.Value

/-!
# Records in JSON

A record is an object with known members, none of them given twice, or an array of their
values in declared order. Members that the record does not know are ignored.

## Main definitions

* `Json.record?` — the known members of a record
* `Json.required?`, `Json.optional?` — a member that must or may be there
* `Json.tagged?` — a value that names its own shape, with or without content
-/

namespace ApiContract.Json

/-- The known members of a record, unless one of them is given twice. -/
def known? (names : List String) :
    List (String × Json) → Option (List (String × Json))
  | [] => some []
  | (key, value) :: rest => do
    let more ← known? names rest
    if !names.contains key then return more
    if Members.contains key more then none else return (key, value) :: more

/-- The known members of a record given as an object, or as an array of the values in
declared order. -/
def record? (names : List String) : Json → Option (List (String × Json))
  | .obj members => known? names members
  | .arr items => if names.length < items.length then none else some (names.zip items)
  | _ => none

/-- A member that must be there. -/
def required? {α : Type} (key : String) (members : List (String × Json))
    (read : Json → Option α) : Option α :=
  (Members.lookup key members).bind read

/-- A member that may be absent or `null`. -/
def optional? {α : Type} (key : String) (members : List (String × Json))
    (read : Json → Option α) : Option (Option α) :=
  match Members.lookup key members with
  | none => some none
  | some .null => some none
  | some value => (read value).map some

/-- A member that may be absent, in which case it has a default. -/
def defaulted? {α : Type} (key : String) (members : List (String × Json)) (default : α)
    (read : Json → Option α) : Option α :=
  match Members.lookup key members with
  | none => some default
  | some value => read value

/-- The items of an array, each read. -/
def items? {α : Type} (read : Json → Option α) : Json → Option (List α)
  | .arr items => items.mapM read
  | _ => none

/-- A natural number below a bound. -/
def natBelow? (bound : Nat) : Json → Option Nat
  | .int n => if 0 ≤ n ∧ n < bound then some n.toNat else none
  | _ => none

/-- A name that stands alone: a string, or an object with it as only key and `null`. -/
def bareName? : Json → Option String
  | .str s => some s
  | .obj [(key, .null)] => some key
  | _ => none

/-- A value that names its shape in one member and has its content in another. -/
def tagged? (tag content : String) (value : Json) : Option (String × Option Json) := do
  let members ← record? [tag, content] value
  let name ← required? tag members asStr?
  return (name, Members.lookup content members)

end ApiContract.Json
