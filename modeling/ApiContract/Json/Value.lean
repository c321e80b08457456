import ApiContract.Decimal.Nearest
import ApiContract.Members

/-!
# JSON values

Request bodies, responses, configuration layers and stored artifacts are JSON. Whole
numbers and floats are kept apart: `42` and `42.0` are different values, and only the
first is an integer.

The members of an object are a list of pairs. A value read from text first keeps its
members as written, repeated keys included; `Json.sorted` gives the object they denote,
whose keys increase and occur once, the last occurrence of a key winning.

## Main definitions

* `Json` — JSON values
* `Json.ofMembers`, `Json.member?` — objects and their members
* `Json.sorted` — objects with increasing keys at every depth
-/

namespace ApiContract

/-- A JSON value. Whole numbers and floats are different values. -/
inductive Json where
  | null
  | bool (b : Bool)
  | int (n : Int)
  | float (x : Float)
  | str (s : String)
  | arr (items : List Json)
  | obj (members : List (String × Json))
  deriving Repr, BEq, Inhabited

namespace Json

/-- The object with the given members, in increasing order of keys. -/
def ofMembers (members : List (String × Json)) : Json :=
  .obj (Members.ofList members)

mutual

/-- The value with the keys of every object increasing and the last of repeated keys
kept. -/
def sorted : Json → Json
  | .arr items => .arr (sortedItems items)
  | .obj members => .obj (Members.ofList (sortedValues members))
  | value => value

/-- Each of the values with sorted objects. -/
def sortedItems : List Json → List Json
  | [] => []
  | item :: rest => item.sorted :: sortedItems rest

/-- Each of the members with sorted objects in its value. -/
def sortedValues : List (String × Json) → List (String × Json)
  | [] => []
  | (key, value) :: rest => (key, value.sorted) :: sortedValues rest

end

/-- A float as a JSON value; an infinity or not-a-number is `null`. -/
def ofFloat (x : Float) : Json :=
  if Decimal.isFinite x then .float x else .null

/-- A text, or `null` when there is none. -/
def ofText? : Option String → Json
  | some s => .str s
  | none => .null

/-- A number, or `null` when there is none. -/
def ofNat? (n : Option Nat) : Json :=
  n.elim .null fun n => .int n

/-- An array of texts. -/
def ofTexts (texts : List String) : Json :=
  .arr (texts.map .str)

/-- The members of an object. -/
def asObject? : Json → Option (List (String × Json))
  | .obj members => some members
  | _ => none

/-- The items of an array. -/
def asArray? : Json → Option (List Json)
  | .arr items => some items
  | _ => none

/-- The text of a string. -/
def asStr? : Json → Option String
  | .str s => some s
  | _ => none

/-- The truth value of a boolean. -/
def asBool? : Json → Option Bool
  | .bool b => some b
  | _ => none

/-- A whole number of 64 bits with a sign. -/
def asInt64? : Json → Option Int64
  | .int n => if Decimal.isInt64 n then some (Int64.ofInt n) else none
  | _ => none

/-- A number of either kind as a float. -/
def asFloat? : Json → Option Float
  | .int n => some (Decimal.ofInt n)
  | .float x => some x
  | _ => none

/-- Whether the value is `null`. -/
def isNull : Json → Bool
  | .null => true
  | _ => false

/-- The member of a key, if the value is an object that has it. -/
def member? (key : String) (value : Json) : Option Json :=
  value.asObject?.bind (Members.lookup key)

/-- The name of a value's kind in messages. -/
def kindName : Json → String
  | .null => "null"
  | .bool _ => "boolean"
  | .int _ => "integer"
  | .float _ => "number"
  | .str _ => "string"
  | .arr _ => "array"
  | .obj _ => "object"

end Json

end ApiContract
