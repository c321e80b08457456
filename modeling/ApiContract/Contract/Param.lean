import ApiContract.Json.Value
import ApiContract.Model.Stored

/-!
# Parameters of operations

## Main definitions

* `ParamLocation` — where a parameter is read from
* `ParamSpec` — what is declared of a parameter
-/

namespace ApiContract

/-- Where a parameter is read from. -/
inductive ParamLocation where
  | path
  | query
  | body
  | form
  deriving DecidableEq, Repr

namespace ParamLocation

/-- A location as documents write it. -/
def name : ParamLocation → String
  | path => "path"
  | query => "query"
  | body => "body"
  | form => "formData"

/-- The location that documents write so. -/
def ofName? : String → Option ParamLocation
  | "path" => some path
  | "query" => some query
  | "body" => some body
  | "formData" => some form
  | _ => none

end ParamLocation

/-- What is declared of a parameter. The default is taken when the parameter is absent. -/
structure ParamSpec where
  name : String
  location : ParamLocation
  type : FieldType
  required : Bool
  default : Option Json := none
  description : Option String := none

namespace ParamSpec

/-- Whether the parameter is an uploaded file. -/
def isFile (p : ParamSpec) : Bool :=
  p.location = .form && p.type = .bytes

/-- A declaration as stored. -/
def toJson (p : ParamSpec) : Json :=
  .obj ([("name", .str p.name), ("location", .str p.location.name), ("ty", p.type.toJson),
      ("required", .bool p.required)] ++
    (p.default.map fun d => ("default", d)).toList ++
    (p.description.map fun d => ("description", Json.str d)).toList)

end ParamSpec

end ApiContract
