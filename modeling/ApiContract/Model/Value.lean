import ApiContract.Json.Value
import ApiContract.Model.Basic
import ApiContract.Text.Utf8
import ApiContract.Time.Instant

/-!
# Values

The values that fields and parameters hold at run time. A nested instance carries its model
and the slots that are set.

## Main definitions

* `Value`, `Instance` — values, and instances of models
* `Value.conforms` — whether a value fits a type
* `Value.readScalar` — a value of a scalar type read from plain text
* `Value.same` — equality in which an instance is known by its model's name and API
-/

namespace ApiContract

/-- A value of a field or a parameter. -/
inductive Value where
  | null
  | bool (b : Bool)
  | integer (n : Int64)
  | number (x : Float)
  | string (s : String)
  | timestamp (t : Instant)
  | bytes (content : List UInt8)
  | list (items : List Value)
  | model (model : Model) (slots : List (String × Value))
  deriving Repr

/-- An instance of a model: the slots that are set, by field name. A nullable field that was
set to `null` has a slot; a field that is unset has none. -/
structure Instance where
  model : Model
  slots : List (String × Value) := []
  deriving Repr

namespace Value

/-- An instance as a value. -/
def ofInstance (i : Instance) : Value := .model i.model i.slots

/-- The integer of a value. -/
def asInt64? : Value → Option Int64
  | .integer n => some n
  | _ => none

/-- The number of a value; an integer counts as one. -/
def asFloat? : Value → Option Float
  | .number x => some x
  | .integer n => some (Decimal.ofInt n.toInt)
  | _ => none

/-- The text of a value. -/
def asStr? : Value → Option String
  | .string s => some s
  | _ => none

/-- The truth value of a value. -/
def asBool? : Value → Option Bool
  | .bool b => some b
  | _ => none

/-- The content of a file. -/
def asBytes? : Value → Option (List UInt8)
  | .bytes content => some content
  | _ => none

/-- The point in time of a value. -/
def asInstant? : Value → Option Instant
  | .timestamp t => some t
  | _ => none

/-- The nested instance of a value. -/
def asInstance? : Value → Option Instance
  | .model m slots => some ⟨m, slots⟩
  | _ => none

/-- The items of a value. -/
def asList? : Value → Option (List Value)
  | .list items => some items
  | _ => none

/-- Whether a value is `null`. -/
def isNull : Value → Bool
  | .null => true
  | _ => false

/-- The name of a value's shape in messages. -/
def typeName : Value → String
  | .null => "null"
  | .bool _ => "boolean"
  | .integer _ => "integer"
  | .number _ => "number"
  | .string _ => "string"
  | .timestamp _ => "timestamp"
  | .bytes _ => "bytes"
  | .model .. => "model"
  | .list _ => "list"

/-- Whether a value fits a type. Whether `null` is allowed is the field's matter, so it fits
none; an instance fits the model of its name. -/
def conforms : FieldType → Value → Bool
  | .bool, .bool _ => true
  | .integer, .integer _ => true
  | .number, .number _ => true
  | .number, .integer _ => true
  | .string, .string _ => true
  | .timestamp, .timestamp _ => true
  | .bytes, .bytes _ => true
  | .oneOf allowed, .string s => allowed.contains s
  | .model name, .model m _ => m.name == name
  | .list element, .list items => items.all (conforms element)
  | _, _ => false

/-- Truth values in plain text: `true`, `1`, `yes` and `on`, and their opposites, in letters
of either case and with blanks around them. -/
def readBool? (raw : String) : Option Bool :=
  let word := Text.lowerAscii (Text.trim raw)
  if ["true", "1", "yes", "on"].contains word then some true
  else if ["false", "0", "no", "off"].contains word then some false
  else none

/-- A value of a scalar type read from plain text, or the reason why it cannot be. -/
def readScalar (type : FieldType) (raw : String) : Except String Value :=
  let expected (value? : Option Value) : Except String Value :=
    match value? with
    | some value => .ok value
    | none => .error s!"expected {type.describe}, got '{raw}'"
  match type with
  | .bool => expected ((readBool? raw).map .bool)
  | .integer => expected ((Decimal.readInt64? (Text.trim raw)).map .integer)
  | .number => expected ((Decimal.readFloat? (Text.trim raw)).map .number)
  | .string => .ok (.string raw)
  | .timestamp => expected ((Instant.read? raw).map .timestamp)
  | .bytes => .ok (.bytes (Utf8.encode raw))
  | .oneOf allowed =>
    if allowed.contains raw then .ok (.string raw)
    else .error (s!"'{raw}' is not one of [" ++ Text.join ", " allowed ++ "]")
  | .model _ => .error s!"cannot read a {type.describe} from a plain string"
  | .list _ => .error s!"cannot read a {type.describe} from a plain string"

mutual

/-- Equality of values. Floats are compared as numbers, and an instance is known by the name
and the API of its model. -/
def same : Value → Value → Bool
  | .null, .null => true
  | .bool a, .bool b => a == b
  | .integer a, .integer b => a == b
  | .number a, .number b => a == b
  | .string a, .string b => a == b
  | .timestamp a, .timestamp b => a == b
  | .bytes a, .bytes b => a == b
  | .list as, .list bs => sameItems as bs
  | .model m as, .model n bs => m.name == n.name && m.api == n.api && sameSlots as bs
  | _, _ => false

/-- Equality of lists of values. -/
def sameItems : List Value → List Value → Bool
  | [], [] => true
  | a :: as, b :: bs => same a b && sameItems as bs
  | _, _ => false

/-- Equality of slots, which are in increasing order of names. -/
def sameSlots : List (String × Value) → List (String × Value) → Bool
  | [], [] => true
  | (j, a) :: as, (k, b) :: bs => j == k && same a b && sameSlots as bs
  | _, _ => false

end

end Value

/-- Equality of instances: of the models' names and APIs, and of the slots. -/
def Instance.same (i j : Instance) : Bool :=
  Value.same (Value.ofInstance i) (Value.ofInstance j)

end ApiContract
