import ApiContract.Contract.Param
import ApiContract.Decimal.Shortest
import ApiContract.Request.Payload

/-!
# Parameters of a request

Each declared parameter is read from its own place and coerced to its type: a segment of
the path, which is percent-decoded, the query, a form field or an uploaded file. A parameter
that is absent takes its default, or is left out, unless it is required.

## Main definitions

* `ParamSources` — the places that parameters are read from
* `ParamSpec.extract` — the value of one parameter
* `extractParams` — the values of all declared parameters
-/

namespace ApiContract

/-- The places that parameters are read from. -/
structure ParamSources where
  path : List (String × String) := []
  query : List (String × Json) := []
  payload : Option Payload := none

/-- A JSON value that is no collection as plain text. -/
def Json.plainText? : Json → Option String
  | .str s => some s
  | .bool b => some (toString b)
  | .int n => some (toString n)
  | .float x => some (Decimal.text x)
  | .null | .arr _ | .obj _ => none

namespace ParamSpec

/-- A text coerced to the type of a parameter. -/
def coerce (p : ParamSpec) (source : ExtractionSource) (raw : String) :
    Except ExtractionError Value :=
  match Value.readScalar p.type raw with
  | .ok v => .ok v
  | .error details => .error (.invalidType source p.name details)

/-- The value of a parameter whose text may be absent. -/
def orDefault (p : ParamSpec) (source : ExtractionSource) (raw : Option String) :
    Except ExtractionError (Option Value) :=
  match raw.orElse fun _ => p.default.bind Json.plainText? with
  | some raw => (p.coerce source raw).map some
  | none => if p.required then .error (.missing source p.name) else .ok none

/-- The value of a parameter in the path. -/
def fromPath (p : ParamSpec) (path : List (String × String)) : Except ExtractionError Value :=
  match Members.lookup p.name path with
  | none => .error (.missing .path p.name)
  | some raw =>
    match Percent.decode raw with
    | .ok decoded => p.coerce .path decoded
    | .error fault => .error (.invalidType .path p.name fault.message)

/-- The file that a parameter is. -/
def fromFiles (p : ParamSpec) (payload : Option Payload) :
    Except ExtractionError (Option Value) :=
  match payload.bind fun b => Members.lookup p.name b.files with
  | some content => .ok (some (.bytes content))
  | none => if p.required then .error (.missing .form p.name) else .ok none

/-- The value of a parameter, from its own place; a body is not read here. -/
def extract (p : ParamSpec) (sources : ParamSources) : Except ExtractionError (Option Value) :=
  match p.location with
  | .path => (p.fromPath sources.path).map some
  | .query => p.orDefault .query ((Members.lookup p.name sources.query).bind Json.plainText?)
  | .form =>
    if p.isFile then p.fromFiles sources.payload
    else p.orDefault .form
      ((sources.payload.bind fun b => b.fields.member? p.name).bind Json.plainText?)
  | .body => .ok none

end ParamSpec

/-- The values of the declared parameters that have one, in order; of two parameters of one
name the later counts, in the place of the first. -/
def extractParams (specs : List ParamSpec) (sources : ParamSources) :
    Except ExtractionError (List (String × Value)) :=
  specs.foldlM (fun values p => do
    match ← p.extract sources with
    | some v => return Members.put p.name v values
    | none => return values) []

end ApiContract
