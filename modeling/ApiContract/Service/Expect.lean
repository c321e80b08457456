import ApiContract.Failure
import ApiContract.Http.Response
import ApiContract.Json.Read

/-!
# Expectations on responses

## Main definitions

* `BodyError` — why a body is not what was asked for
* `Response.text`, `Response.json`, `Response.envelope` — a body as text, JSON or envelope
* `Response.expectStatus` and the like — whether a response is as expected, and if not, why
-/

namespace ApiContract

/-- Why a body is not what was asked for. -/
inductive BodyError where
  | notUtf8
  | success (status : Status)
  | notJson
  deriving DecidableEq, Repr

/-- The wording of an error. -/
def BodyError.message : BodyError → String
  | .notUtf8 => "body read error: invalid UTF-8: *"
  | .success status => s!"body read error: status {status.describe} carries no error envelope"
  | .notJson => "JSON error: *"

namespace Response

/-- The body as text. -/
def text (r : Response) : Except BodyError String :=
  match Utf8.decode? r.body with
  | some s => .ok s
  | none => .error .notUtf8

/-- The body as JSON. -/
def json (r : Response) : Except BodyError Json :=
  match (Utf8.decode? r.body).bind Json.read with
  | some json => .ok json
  | none => .error .notJson

/-- The body as the envelope of a failure. -/
def envelope (r : Response) : Except BodyError Envelope :=
  if r.status.isSuccess then .error (.success r.status)
  else match ((Utf8.decode? r.body).bind Json.readAsWritten).bind Envelope.ofJson? with
    | some e => .ok e
    | none => .error .notJson

/-- A header as text. -/
def header? (r : Response) (name : String) : Option String := r.headers.text? name

/-- Checks the status. -/
def expectStatus (r : Response) (expected : Nat) : Except String Unit :=
  if r.status.code = expected then .ok ()
  else .error (s!"expected status {expected}, got {r.status.describe}: " ++
    Utf8.decodeLossy r.body)

/-- Checks that the response is an envelope with a status and a code. -/
def expectError (r : Response) (status : Nat) (code : String) : Except String Unit := do
  r.expectStatus status
  match r.envelope with
  | .error e => throw s!"expected an error envelope: {e.message}"
  | .ok e =>
    if e.error ≠ code then throw "error code mismatch"
    else if e.status ≠ status then throw "envelope status differs from HTTP status"

/-- Checks a header. -/
def expectHeader (r : Response) (name expected : String) : Except String Unit :=
  match r.header? name with
  | none => .error s!"header '{name}' not found"
  | some actual => if actual = expected then .ok () else .error s!"header '{name}' mismatch"

/-- Checks the body against JSON; whole numbers differ from floats. -/
def expectJson (r : Response) (expected : Json) : Except String Unit :=
  match r.json with
  | .error e => .error s!"body is not JSON: {e.message}"
  | .ok actual => if actual == expected then .ok () else .error "JSON body mismatch"

end Response

end ApiContract
