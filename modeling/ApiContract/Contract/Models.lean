import ApiContract.Contract.Order
import ApiContract.Model.Basic

/-!
# The models of a document

Models are compiled in an order in which each comes after its parent and after the models
that its fields refer to. The fields of the parent come first; a property of the same name
replaces an inherited field in its place.

## Main definitions

* `Definition.model` — one model, given those compiled before
* `compileModels` — the models of a document
-/

namespace ApiContract

/-- The field of a property. -/
def Property.field (p : Property) (model name : String) (known : List String) :
    Except ContractError Field := do
  let type ← p.fieldType known (model ++ "." ++ name)
  return { name, type, presence := .ofFlags p.isMandatory p.isNullable,
           description := p.description }

/-- A model before its own properties are added: without fields, or with those of its
parent. -/
def Definition.base (d : Definition) (name : String) (set : ModelSet) :
    Except ContractError Model :=
  let empty := Model.empty name set.api
  match d.parentName with
  | none => .ok empty
  | some parent =>
    match set.get? parent with
    | some m => .ok (empty.extend m)
    | none => .error (.invalidParent name parent)

/-- The model of a definition, given the models compiled before. -/
def Definition.model (d : Definition) (name : String) (known : List String) (set : ModelSet) :
    Except ContractError Model := do
  let base ← d.base name set
  d.properties.foldlM (fun m (property, p) => do
    return m.withField (← p.field name property known)) base

/-- The models of the definitions of an API. -/
def compileModels (api : String) (definitions : List (String × Definition)) :
    Except ContractError ModelSet := do
  let known := definitions.map Prod.fst
  let order ← orderModels definitions
  order.foldlM (fun set name =>
    match Members.lookup name definitions with
    | none => .ok set
    | some d => do return set.insert (← d.model name known set)) { api }

end ApiContract
