import ApiContract.Contract.Document
import ApiContract.Contract.Error
import ApiContract.Model.FieldType

/-!
# Types of properties

A property declares its type by a token, by a reference to a model, by the list of its
values, or as an array of such. A token is the name of a primitive type or of a model.

## Main definitions

* `FieldType.ofToken` — the type of a token
* `modelOfReference`, `resolveReference` — the model that a reference names
* `Property.fieldType` — the type of a property
* `Property.dependency?` — the model that a property needs, and whether through an array
-/

namespace ApiContract

/-- The primitive type that a token names. -/
def FieldType.primitive? : String → Option FieldType
  | "boolean" => some .bool
  | "integer" | "int32" | "int64" => some .integer
  | "number" | "float" | "double" => some .number
  | "string" => some .string
  | "date" | "datetime" | "date-time" | "iso-date" => some .timestamp
  | _ => none

/-- The type of a token: a primitive type, or one of the known models. -/
def FieldType.ofToken (token : String) (known : List String) (context : String) :
    Except ContractError FieldType :=
  match primitive? token with
  | some type => .ok type
  | none =>
    if known.contains token then .ok (.model token) else .error (.unknownType token context)

/-- What a reference to a model starts with. -/
def definitionsPath : String := "#/definitions/"

/-- The model that a reference names: its last part, without quotes around it. -/
def modelOfReference? (reference : String) : Option String := do
  let path ← Text.stripStart? definitionsPath (Text.trim reference)
  let last ← (Text.split path '/').getLast?
  let isQuote (c : Char) : Bool := c == '\'' || c == '"'
  let bare := ((last.toList.dropWhile isQuote).reverse.dropWhile isQuote).reverse
  let name := Text.trim (String.ofList bare)
  if name.isEmpty then none else some name

/-- The model that a reference names, known or not. -/
def modelOfReference (reference context : String) : Except ContractError String :=
  match modelOfReference? reference with
  | some name => .ok name
  | none => .error (.unresolvedReference reference context)

/-- The known model that a reference names. -/
def resolveReference (reference : String) (known : List String) (context : String) :
    Except ContractError String := do
  let name ← modelOfReference reference context
  if known.contains name then return name else throw (.unresolvedReference reference context)

/-- The token that stands for a type that is not declared. -/
def noToken : String := "<none>"

namespace Property

/-- The type of a property that is no array: by its reference, else by its values, else by
its format, else by its declared type. -/
def plainType (p : Property) (known : List String) (context : String) :
    Except ContractError FieldType :=
  match p.reference, p.values, p.format.orElse fun _ => p.type with
  | some reference, _, _ => (resolveReference reference known context).map .model
  | none, some values, _ => .ok (.oneOf (values.map Yaml.Value.text))
  | none, none, some token => FieldType.ofToken token known context
  | none, none, none => .error (.unknownType noToken context)

/-- The type of a property. -/
def fieldType (known : List String) (context : String) : Property → Except ContractError FieldType
  | p@(.mk _ _ _ _ items _ _ _) =>
    if p.isArray then
      match items with
      | some element => (element.fieldType known context).map .list
      | none => .error (.unknownType "array without items" context)
    else p.plainType known context

/-- The model that a property which is no array needs. -/
def plainDependency? (p : Property) (known : List String) : Option String :=
  match p.reference, p.values, p.format.orElse fun _ => p.type with
  | some reference, _, _ => (modelOfReference? reference).filter known.contains
  | none, some _, _ => none
  | none, none, some token => if known.contains token then some token else none
  | none, none, none => none

/-- The model that a property needs, and whether it does so through an array. -/
def dependency? (known : List String) : Property → Option (String × Bool)
  | p@(.mk _ _ _ _ items _ _ _) =>
    if p.isArray then
      match items with
      | some element => (element.dependency? known).map fun d => (d.1, true)
      | none => none
    else (p.plainDependency? known).map fun model => (model, false)

end Property

end ApiContract
