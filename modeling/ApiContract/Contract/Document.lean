import ApiContract.Yaml.Read
import ApiContract.Yaml.Record

/-!
# Contract documents

A contract document declares the models and the operations of one API. It is written in
YAML; only the keys below are read.

## Main definitions

* `Document` and its parts — what a document declares
* `Document.ofNode?` — a document from its YAML
* `Document.version` — the version of the format that a document claims to follow
-/

namespace ApiContract

/-- The declaration of a property, of an array's elements or of a scalar. -/
inductive Property where
  | mk (type format reference : Option String) (values : Option (List Yaml.Value))
      (items : Option Property) (isMandatory isNullable : Bool) (description : Option String)

namespace Property

/-- The declared type. -/
def type : Property → Option String
  | mk type .. => type

/-- The declared format. -/
def format : Property → Option String
  | mk _ format .. => format

/-- The reference to a model. -/
def reference : Property → Option String
  | mk _ _ reference .. => reference

/-- The allowed values. -/
def values : Property → Option (List Yaml.Value)
  | mk _ _ _ values .. => values

/-- The declaration of an array's elements. -/
def items : Property → Option Property
  | mk _ _ _ _ items .. => items

/-- Whether the property must be set. -/
def isMandatory : Property → Bool
  | mk _ _ _ _ _ isMandatory .. => isMandatory

/-- Whether the property may be set to `null`. -/
def isNullable : Property → Bool
  | mk _ _ _ _ _ _ isNullable .. => isNullable

/-- What the property is for. -/
def description : Property → Option String
  | mk _ _ _ _ _ _ _ description => description

/-- Whether the property is declared as an array. -/
def isArray (p : Property) : Bool :=
  p.type.any fun t => Text.eqIgnoreCase t "array"

/-- A property from its YAML, in which collections enclose one another at most `depth`
times. -/
def ofNode? : Nat → Yaml.Node → Option Property
  | 0, _ => none
  | depth + 1, n => do
    let ms ← Yaml.record? ["type", "format", "$ref", "enum", "items", "x-mandatory",
      "x-nullable", "description"] n
    let type ← Yaml.optional? "type" ms Yaml.Node.text?
    let format ← Yaml.optional? "format" ms Yaml.Node.text?
    let reference ← Yaml.optional? "$ref" ms Yaml.Node.text?
    let values ← Yaml.optional? "enum" ms (Yaml.list? (Yaml.Value.ofNode? (depth - 1)))
    let items ← Yaml.optional? "items" ms (ofNode? depth)
    let isMandatory ← Yaml.defaulted? "x-mandatory" ms false Yaml.bool?
    let isNullable ← Yaml.defaulted? "x-nullable" ms false Yaml.bool?
    let description ← Yaml.optional? "description" ms Yaml.Node.text?
    return .mk type format reference values items isMandatory isNullable description

end Property

/-- The declaration of a model. -/
structure Definition where
  properties : List (String × Property) := []
  parent : Option String := none

namespace Definition

/-- The name of the parent: the last part of the declared path, unless it is blank. -/
def parentName (d : Definition) : Option String :=
  (d.parent.bind fun path => ((Text.split path '.').getLast?).map Text.trim).filter (· ≠ "")

/-- A model from its YAML. -/
def ofNode? (depth : Nat) (n : Yaml.Node) : Option Definition := do
  let ms ← Yaml.record? ["type", "description", "properties", "x-parent"] n
  let _ ← Yaml.optional? "type" ms Yaml.Node.text?
  let _ ← Yaml.optional? "description" ms Yaml.Node.text?
  let properties ← Yaml.defaulted? "properties" ms []
    (Yaml.table? (Property.ofNode? (depth - 2)))
  let parent ← Yaml.optional? "x-parent" ms Yaml.Node.text?
  return { properties, parent }

end Definition

/-- A schema that refers to a model, if it does; from its YAML. -/
def schemaOfNode? (n : Yaml.Node) : Option (Option String) := do
  Yaml.optional? "$ref" (← Yaml.record? ["$ref"] n) Yaml.Node.text?

/-- The declaration of a parameter of an operation. `schema` is the model that a body's
schema refers to. -/
structure Parameter where
  name : Option String := none
  location : String
  type : Option String := none
  format : Option String := none
  required : Bool := false
  default : Option Json := none
  values : Option (List Yaml.Value) := none
  schema : Option String := none
  description : Option String := none

/-- A parameter from its YAML. -/
def Parameter.ofNode? (depth : Nat) (n : Yaml.Node) : Option Parameter := do
  let ms ← Yaml.record? ["name", "in", "type", "format", "required", "default", "enum", "schema",
    "description"] n
  let name ← Yaml.optional? "name" ms Yaml.Node.text?
  let location ← Yaml.required? "in" ms Yaml.Node.text?
  let type ← Yaml.optional? "type" ms Yaml.Node.text?
  let format ← Yaml.optional? "format" ms Yaml.Node.text?
  let required ← Yaml.defaulted? "required" ms false Yaml.bool?
  let default ← Yaml.optional? "default" ms (Yaml.jsonOf? (depth - 1))
  let values ← Yaml.optional? "enum" ms (Yaml.list? (Yaml.Value.ofNode? (depth - 2)))
  let schema ← Yaml.optional? "schema" ms schemaOfNode?
  let description ← Yaml.optional? "description" ms Yaml.Node.text?
  return { name, location, type, format, required, default, values, schema := schema.join,
           description }

/-- The model that a response's schema refers to, from the YAML of the response. -/
def responseOfNode? (n : Yaml.Node) : Option (Option String) := do
  let ms ← Yaml.record? ["description", "schema"] n
  let _ ← Yaml.optional? "description" ms Yaml.Node.text?
  let schema ← Yaml.optional? "schema" ms schemaOfNode?
  return schema.join

/-- The declaration of an operation. A response is given by its status and the model that
its schema refers to. -/
structure Operation where
  operationId : Option String := none
  bindServer : Option String := none
  decorateServer : Option String := none
  parameters : List Parameter := []
  produces : Option (List String) := none
  responses : List (String × Option String) := []

namespace Operation

/-- The name of the handler. -/
def handlerName (o : Operation) : Option String :=
  o.operationId.orElse fun _ => o.bindServer

/-- An operation from its YAML. -/
def ofNode? (depth : Nat) (n : Yaml.Node) : Option Operation := do
  let ms ← Yaml.record? ["operationId", "x-bind-server", "x-decorate-server", "summary",
    "parameters", "produces", "responses"] n
  let operationId ← Yaml.optional? "operationId" ms Yaml.Node.text?
  let bindServer ← Yaml.optional? "x-bind-server" ms Yaml.Node.text?
  let decorateServer ← Yaml.optional? "x-decorate-server" ms Yaml.Node.text?
  let _ ← Yaml.optional? "summary" ms Yaml.Node.text?
  let parameters ← Yaml.defaulted? "parameters" ms []
    (Yaml.list? (Parameter.ofNode? (depth - 2)))
  let produces ← Yaml.optional? "produces" ms (Yaml.list? Yaml.Node.text?)
  let responses ← Yaml.defaulted? "responses" ms [] (Yaml.table? responseOfNode?)
  return { operationId, bindServer, decorateServer, parameters, produces, responses }

end Operation

/-- The methods that an operation may have, in the order in which operations are bound. -/
def operationMethods : List String :=
  ["GET", "PUT", "POST", "DELETE", "PATCH", "HEAD", "OPTIONS"]

/-- The operations on a path by method, from its YAML. -/
def operationsOfNode? (depth : Nat) (n : Yaml.Node) : Option (List (String × Operation)) := do
  let ms ← Yaml.record? (operationMethods.map Text.lowerAscii) n
  let operations ← operationMethods.mapM fun method => do
    let o ← Yaml.optional? (Text.lowerAscii method) ms (Operation.ofNode? (depth - 1))
    return o.map fun o => (method, o)
  return operations.filterMap id

/-- A document: the version of its format, title and version of the API, the path that all
routes start with, the media types that operations produce, the models by name, and for each
path the operations by method. -/
structure Document where
  format : Yaml.Value
  title : Option String := none
  apiVersion : Option String := none
  basePath : Option String := none
  produces : Option (List String) := none
  definitions : List (String × Definition) := []
  paths : List (String × List (String × Operation)) := []

namespace Document

/-- Title and version of the API, from the YAML of the information about it. -/
def infoOfNode? (n : Yaml.Node) : Option (Option String × Option String) := do
  let ms ← Yaml.record? ["title", "version", "description"] n
  let title ← Yaml.optional? "title" ms Yaml.Node.text?
  let version ← Yaml.optional? "version" ms Yaml.Node.text?
  let _ ← Yaml.optional? "description" ms Yaml.Node.text?
  return (title, version)

/-- The definitions of a document, from their YAML. -/
def definitionsOfNode? (depth : Nat) (n : Yaml.Node) : Option (List (String × Definition)) :=
  Yaml.table? (Definition.ofNode? (depth - 1)) n

/-- A document from its YAML. -/
def ofNode? (n : Yaml.Node) : Option Document := do
  let depth := Yaml.maxDepth - 1
  let ms ← Yaml.record? ["swagger", "info", "basePath", "produces", "definitions", "paths"] n
  let format ← Yaml.required? "swagger" ms (Yaml.Value.ofNode? depth)
  let info ← Yaml.optional? "info" ms infoOfNode?
  let basePath ← Yaml.optional? "basePath" ms Yaml.Node.text?
  let produces ← Yaml.optional? "produces" ms (Yaml.list? Yaml.Node.text?)
  let definitions ← Yaml.defaulted? "definitions" ms [] (definitionsOfNode? depth)
  let paths ← Yaml.defaulted? "paths" ms [] (Yaml.table? (operationsOfNode? (depth - 1)))
  return { format, title := info.bind Prod.fst, apiVersion := info.bind Prod.snd, basePath,
           produces, definitions, paths }

/-- A document from its text. -/
def read? (text : String) : Option Document :=
  (Yaml.read text).bind ofNode?

/-- The version of the format that a document claims to follow; a whole number gets a
fraction. -/
def version (d : Document) : String :=
  match d.format with
  | .string s => s
  | .number n => if n.text.contains '.' then n.text else n.text ++ ".0"
  | v => v.describe

/-- The names of the declared models in order. -/
def modelNames (d : Document) : List String :=
  d.definitions.map Prod.fst

end Document

end ApiContract
