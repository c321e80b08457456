import ApiContract.Text.Blank

/-!
# Types of fields and parameters

## Main definitions

* `FieldType` — what a field or a parameter may hold
* `FieldType.describe` — a type in messages
* `FieldType.referencedModel?` — the model that a type names, through lists
-/

namespace ApiContract

/-- What a field or a parameter may hold. -/
inductive FieldType where
  | bool
  | integer
  | number
  | string
  | timestamp
  | bytes
  | oneOf (allowed : List String)
  | model (name : String)
  | list (element : FieldType)
  deriving DecidableEq, Repr

namespace FieldType

/-- The type of a list's elements. -/
def element? : FieldType → Option FieldType
  | .list element => some element
  | _ => none

/-- The model that a type names, through any depth of lists. -/
def referencedModel? : FieldType → Option String
  | .model name => some name
  | .list element => element.referencedModel?
  | _ => none

/-- Whether a single text can be read as the type. -/
def isScalar : FieldType → Bool
  | .model _ => false
  | .list _ => false
  | _ => true

/-- A type in messages. -/
def describe : FieldType → String
  | .bool => "boolean"
  | .integer => "integer"
  | .number => "number"
  | .string => "string"
  | .timestamp => "timestamp"
  | .bytes => "bytes"
  | .oneOf allowed => "one of [" ++ Text.join ", " allowed ++ "]"
  | .model name => name
  | .list element => "list of " ++ element.describe

end FieldType

end ApiContract
