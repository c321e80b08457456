import ApiContract.Members
import ApiContract.Model.FieldType

/-!
# Models

A model is a list of fields, inherited ones first. Each field has a type and says how it
behaves when it is absent or `null`:

| presence    | absent | `null` | written when           |
|-------------|--------|--------|------------------------|
| `mandatory` | error  | error  | always                 |
| `nullable`  | unset  | kept   | set, also to `null`    |
| `optional`  | unset  | unset  | set                    |

## Main definitions

* `Presence`, `Field`, `Model` — a model and its parts
* `Model.extend`, `Model.withField` — inheritance and the addition of a field
* `Model.shape`, `Model.diff` — what two models are compared by, and how they differ
* `ModelSet` — the models of one API
-/

namespace ApiContract

/-- How a field behaves when it is absent or `null`. -/
inductive Presence where
  | mandatory
  | nullable
  | optional
  deriving DecidableEq, Repr

namespace Presence

/-- The presence that two flags ask for; a mandatory field is never nullable. -/
def ofFlags (isMandatory isNullable : Bool) : Presence :=
  if isMandatory then .mandatory else if isNullable then .nullable else .optional

/-- A presence in messages. -/
def describe : Presence → String
  | .mandatory => "mandatory"
  | .nullable => "nullable"
  | .optional => "optional"

end Presence

/-- A field of a model. -/
structure Field where
  name : String
  type : FieldType
  presence : Presence
  description : Option String := none
  inherited : Bool := false
  deriving DecidableEq, Repr

/-- A field on one line, as differences list it. -/
def Field.shape (f : Field) : String :=
  s!"{f.name}: {f.type.describe} ({f.presence.describe})"

/-- A model of an API: its parent's name, if it has one, and its fields. -/
structure Model where
  name : String
  api : String
  parent : Option String := none
  fields : List Field := []
  deriving DecidableEq, Repr

namespace Model

/-- A model without fields. -/
def empty (name api : String) : Model := { name, api }

/-- The field of a name. -/
def field? (m : Model) (name : String) : Option Field :=
  m.fields.find? fun f => f.name == name

/-- The model with the fields of a parent, marked inherited, before its own. -/
def extend (m : Model) (parent : Model) : Model :=
  { m with
    parent := some parent.name
    fields := parent.fields.map (fun f => { f with inherited := true }) ++ m.fields }

/-- Fields with one replaced in its place or added at the end. -/
def putField (f : Field) : List Field → List Field
  | [] => [f]
  | g :: rest => if g.name = f.name then f :: rest else g :: putField f rest

/-- The model with a field added; a field of the same name is replaced in its place. -/
def withField (m : Model) (f : Field) : Model :=
  { m with fields := putField f m.fields }

/-- The names of the fields in order. -/
def fieldNames (m : Model) : List String :=
  m.fields.map (·.name)

/-- The fields that come from the parent. -/
def baseFields (m : Model) : List Field :=
  m.fields.filter (·.inherited)

/-- The names of the fields that may hold `null`. -/
def nullableNames (m : Model) : List String :=
  (m.fields.filter fun f => f.presence = .nullable).map (·.name)

/-- What models of different APIs are compared by: the type and presence of each field,
whatever the order and the descriptions. -/
def shape (m : Model) : List (String × FieldType × Presence) :=
  Members.ofList (m.fields.map fun f => (f.name, f.type, f.presence))

/-- Whether two models have the same fields with the same types and presences. -/
def sameStructure (m other : Model) : Bool :=
  m.shape == other.shape

/-- The lines for a field of the first model: nothing when the second has it alike, both
shapes when it has it differently, else the field as missing. -/
def diffLines (other : Model) (f : Field) : List String :=
  match other.field? f.name with
  | some g =>
    if g.type = f.type ∧ g.presence = f.presence then [] else ["- " ++ f.shape, "+ " ++ g.shape]
  | none => ["- " ++ f.shape]

/-- The line for a field of the second model that the first lacks. -/
def addedLines (m : Model) (f : Field) : List String :=
  if (m.field? f.name).isSome then [] else ["+ " ++ f.shape]

/-- How a model differs from another, one line for each field and side. -/
def diff (m other : Model) : String :=
  Text.join "\n" (m.fields.flatMap (diffLines other) ++ other.fields.flatMap (addedLines m))

end Model

/-- The models of one API in the order of their compilation, no two of one name. -/
structure ModelSet where
  api : String
  models : List Model := []
  deriving DecidableEq, Repr

namespace ModelSet

/-- The model of a name. -/
def get? (s : ModelSet) (name : String) : Option Model :=
  s.models.find? fun m => m.name == name

/-- Whether the set has a model of the name. -/
def contains (s : ModelSet) (name : String) : Bool :=
  (s.get? name).isSome

/-- Models with one replaced in its place or added at the end. -/
def putModel (m : Model) : List Model → List Model
  | [] => [m]
  | n :: rest => if n.name = m.name then m :: rest else n :: putModel m rest

/-- The set with a model added; a model of the same name is replaced. -/
def insert (s : ModelSet) (m : Model) : ModelSet :=
  { s with models := putModel m s.models }

/-- The names of the models in order. -/
def names (s : ModelSet) : List String :=
  s.models.map (·.name)

end ModelSet

end ApiContract
