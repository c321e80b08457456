import ApiContract.Json.Record
import ApiContract.Model.Basic

/-!
# Models as stored

Compiled models are stored as JSON and read back.

## Main definitions

* `FieldType.toJson`, `FieldType.ofJson?` — types
* `Field.toJson`, `Field.ofJson?` — fields
* `Model.toJson`, `Model.ofJson?` — models
-/

namespace ApiContract

namespace FieldType

/-- A type without content. -/
def bare (kind : String) : Json := .obj [("kind", .str kind)]

/-- A type with content. -/
def holding (kind : String) (content : Json) : Json :=
  .obj [("kind", .str kind), ("of", content)]

/-- A type as stored. -/
def toJson : FieldType → Json
  | .bool => bare "bool"
  | .integer => bare "integer"
  | .number => bare "number"
  | .string => bare "string"
  | .timestamp => bare "timestamp"
  | .bytes => bare "bytes"
  | .oneOf allowed => holding "enum" (Json.ofTexts allowed)
  | .model name => holding "model" (.str name)
  | .list element => holding "collection" element.toJson

/-- The type of a name that needs no content. -/
def ofKind? : String → Option FieldType
  | "bool" => some .bool
  | "integer" => some .integer
  | "number" => some .number
  | "string" => some .string
  | "timestamp" => some .timestamp
  | "bytes" => some .bytes
  | _ => none

/-- A stored type, read to a given depth. -/
def ofJsonAt? : Nat → Json → Option FieldType
  | 0, _ => none
  | depth + 1, json => do
    let (kind, content) ← Json.tagged? "kind" "of" json
    match kind, content with
    | "enum", some content => (Json.items? Json.asStr? content).map .oneOf
    | "model", some content => content.asStr?.map .model
    | "collection", some content => (ofJsonAt? depth content).map .list
    | kind, none => ofKind? kind
    | kind, some .null => ofKind? kind
    | _, _ => none

/-- A stored type. No text nests deeper than this reads. -/
def ofJson? (json : Json) : Option FieldType :=
  ofJsonAt? 128 json

end FieldType

namespace Presence

/-- The presence of a name. -/
def ofName? : String → Option Presence
  | "mandatory" => some .mandatory
  | "nullable" => some .nullable
  | "optional" => some .optional
  | _ => none

/-- A stored presence. -/
def ofJson? (json : Json) : Option Presence :=
  (Json.bareName? json).bind ofName?

end Presence

namespace Field

/-- A field as stored. -/
def toJson (f : Field) : Json :=
  .obj ([("name", .str f.name), ("ty", f.type.toJson), ("presence", .str f.presence.describe)] ++
    (f.description.map fun d => ("description", Json.str d)).toList ++
    [("inherited", .bool f.inherited)])

/-- A stored field. -/
def ofJson? (json : Json) : Option Field := do
  let members ← Json.record? ["name", "ty", "presence", "description", "inherited"] json
  let name ← Json.required? "name" members Json.asStr?
  let type ← Json.required? "ty" members FieldType.ofJson?
  let presence ← Json.required? "presence" members Presence.ofJson?
  let description ← Json.optional? "description" members Json.asStr?
  let inherited ← Json.defaulted? "inherited" members false Json.asBool?
  return { name, type, presence, description, inherited }

end Field

namespace Model

/-- A model as stored. -/
def toJson (m : Model) : Json :=
  .obj ([("name", .str m.name), ("api", .str m.api)] ++
    (m.parent.map fun p => ("parent", Json.str p)).toList ++
    [("fields", .arr (m.fields.map Field.toJson))])

/-- A stored model. -/
def ofJson? (json : Json) : Option Model := do
  let members ← Json.record? ["name", "api", "parent", "fields"] json
  let name ← Json.required? "name" members Json.asStr?
  let api ← Json.required? "api" members Json.asStr?
  let parent ← Json.optional? "parent" members Json.asStr?
  let fields ← Json.required? "fields" members (Json.items? Field.ofJson?)
  return { name, api, parent, fields }

end Model

end ApiContract
