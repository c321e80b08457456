import ApiContract.Http.Status
import ApiContract.Json.Record
import ApiContract.Model.Instance
import ApiContract.Uuid

/-!
# Failures

Every failure that reaches a client has a kind, which fixes the HTTP status and the code of
the envelope, and a description. The built-in kinds have one code and status each; a custom
kind names its own.

## Main definitions

* `FailureKind`, `Failure` — kinds and failures
* `Failure.ensureId` — an identifier is given once
* `Envelope` — what a client sees
* `Failure.toEnvelope`, `Failure.ofEnvelope` — forwarding a failure
-/

namespace ApiContract

/-- The kind of a failure. -/
inductive FailureKind where
  | invalidParameter
  | authorizationHeaderMissing
  | tokenInvalid
  | tokenExpired
  | requestTimeout
  | badResponse
  | internalValidation
  | unhandledServer
  | custom (code : String) (status : Status)
  deriving DecidableEq, Repr

namespace FailureKind

/-- The kind of a path without route. -/
def notFound : FailureKind := .custom "NOT_FOUND" .notFound

/-- The kind of a path whose routes have other methods. -/
def methodNotAllowed : FailureKind := .custom "METHOD_NOT_ALLOWED" .methodNotAllowed

/-- The HTTP status of a kind. -/
def status : FailureKind → Status
  | .invalidParameter => .badRequest
  | .authorizationHeaderMissing | .tokenInvalid | .tokenExpired => .unauthorized
  | .requestTimeout => .requestTimeout
  | .badResponse | .internalValidation | .unhandledServer => .internalServerError
  | .custom _ status => status

/-- The code of a kind in envelopes. -/
def code : FailureKind → String
  | .invalidParameter => "INVALID_PARAMETER"
  | .authorizationHeaderMissing => "AUTHORIZATION_HEADER_MISSING"
  | .tokenInvalid => "TOKEN_INVALID"
  | .tokenExpired => "TOKEN_EXPIRED"
  | .requestTimeout => "REQUEST_TIMEOUT"
  | .badResponse => "BAD_RESPONSE"
  | .internalValidation => "INTERNAL_VALIDATION_ERROR"
  | .unhandledServer => "UNHANDLED_SERVER_ERROR"
  | .custom code _ => code

/-- The kind of a code: the built-in one that has it, else a custom one. -/
def ofCode (code : String) (status : Status) : FailureKind :=
  match code with
  | "INVALID_PARAMETER" => .invalidParameter
  | "AUTHORIZATION_HEADER_MISSING" => .authorizationHeaderMissing
  | "TOKEN_INVALID" => .tokenInvalid
  | "TOKEN_EXPIRED" => .tokenExpired
  | "REQUEST_TIMEOUT" => .requestTimeout
  | "BAD_RESPONSE" => .badResponse
  | "INTERNAL_VALIDATION_ERROR" => .internalValidation
  | "UNHANDLED_SERVER_ERROR" => .unhandledServer
  | other => .custom other status

end FailureKind

/-- A failure: what a client is told, and what only a report says. -/
structure Failure where
  kind : FailureKind
  description : String
  id : Option Uuid := none
  userMessage : Option String := none
  caught : Option String := none
  trace : Option String := none
  reportable : Bool := false
  deriving DecidableEq, Repr

/-- What a client sees of a failure. -/
structure Envelope where
  status : Nat
  error : String
  description : String
  id : Option String := none
  userMessage : Option String := none
  deriving DecidableEq, Repr

namespace Failure

/-- A failure of bad input. -/
def invalidParameter (description : String) : Failure :=
  { kind := .invalidParameter, description }

/-- A failure of a handler that no kind foresees. -/
def unhandled (description : String) : Failure :=
  { kind := .unhandledServer, description }

/-- A failure of a value that its own model refuses. -/
def ofModelError (e : ModelError) : Failure :=
  { kind := .internalValidation, description := e.message, caught := some e.message }

/-- The HTTP status of a failure. -/
def status (f : Failure) : Status := f.kind.status

/-- The code of a failure in envelopes. -/
def code (f : Failure) : String := f.kind.code

/-- A failure in one line. -/
def message (f : Failure) : String := f.code ++ ": " ++ f.description

/-- Whether the failure is the server's. -/
def isFatal (f : Failure) : Bool := f.status.isServerError

/-- Whether the failure is worth a report. -/
def shouldReport (f : Failure) : Bool := f.isFatal || f.reportable

/-- The failure with an identifier: its own if it has one, else the fresh one. -/
def ensureId (f : Failure) (fresh : Uuid) : Failure :=
  { f with id := some (f.id.getD fresh) }

/-- What a client sees of the failure. -/
def toEnvelope (f : Failure) : Envelope :=
  { status := f.status.code
    error := f.code
    description := f.description
    id := f.id.map Uuid.toText
    userMessage := f.userMessage }

/-- The failure that an envelope tells of. A status that is none counts as 500, and an
identifier that is none is dropped. -/
def ofEnvelope (e : Envelope) : Failure :=
  { kind := .ofCode e.error ((Status.of? e.status).getD .internalServerError)
    description := e.description
    id := e.id.bind Uuid.read?
    userMessage := e.userMessage }

end Failure

namespace Envelope

/-- An envelope as JSON, its members in the order in which they are written. -/
def toJson (e : Envelope) : Json :=
  .obj ([("status", .int e.status), ("error", .str e.error),
      ("error_description", .str e.description)] ++
    (e.id.map fun id => ("error_id", Json.str id)).toList ++
    (e.userMessage.map fun m => ("user_message", Json.str m)).toList)

/-- The envelope that JSON holds. -/
def ofJson? (json : Json) : Option Envelope := do
  let members ← Json.record?
    ["status", "error", "error_description", "error_id", "user_message"] json
  let status ← Json.required? "status" members (Json.natBelow? (Decimal.bound 16))
  let error ← Json.required? "error" members Json.asStr?
  let description ← Json.required? "error_description" members Json.asStr?
  let id ← Json.optional? "error_id" members Json.asStr?
  let userMessage ← Json.optional? "user_message" members Json.asStr?
  return { status, error, description, id, userMessage }

end Envelope

end ApiContract
