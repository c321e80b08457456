import ApiContract.Failure

/-!
# Extraction errors

What a client sent may be missing, of the wrong type, malformed or too large, or may not
arrive in time. All but the last are bad parameters.

## Main definitions

* `ExtractionError` — why a request cannot be turned into the input of a handler
* `ExtractionError.message`, `ExtractionError.toFailure` — what the client is told
-/

namespace ApiContract

/-- The part of a request that data is extracted from. -/
inductive ExtractionSource where
  | path
  | query
  | body
  | form
  | contentType
  deriving DecidableEq, Repr

/-- A part of a request in messages. -/
def ExtractionSource.name : ExtractionSource → String
  | path => "path"
  | query => "query"
  | body => "body"
  | form => "form"
  | contentType => "content-type"

/-- Why a request cannot be turned into the input of a handler. -/
inductive ExtractionError where
  | missing (source : ExtractionSource) (field : String)
  | invalidType (source : ExtractionSource) (field details : String)
  | malformed (source : ExtractionSource) (details : String)
  | tooLarge (max actual : Nat)
  | disconnected (details : String)
  deriving DecidableEq, Repr

namespace ExtractionError

/-- The part of the request at fault. -/
def source : ExtractionError → ExtractionSource
  | missing source _ => source
  | invalidType source .. => source
  | malformed source _ => source
  | tooLarge .. => .body
  | disconnected _ => .body

/-- The parameter at fault. -/
def field? : ExtractionError → Option String
  | missing _ field => some field
  | invalidType _ field _ => some field
  | _ => none

/-- The wording of an error. -/
def message : ExtractionError → String
  | missing source field => s!"missing required {source.name} parameter '{field}'"
  | invalidType source field details => s!"invalid {source.name} parameter '{field}': {details}"
  | malformed source details => s!"malformed {source.name}: {details}"
  | tooLarge max actual => s!"payload too large: max {max} bytes, got {actual} bytes"
  | disconnected details => s!"failed to read request body: {details}"

/-- Whether the body did not arrive in time. -/
def isDisconnect : ExtractionError → Bool
  | disconnected _ => true
  | _ => false

/-- The failure that the client is told of. -/
def toFailure (e : ExtractionError) : Failure :=
  { kind := if e.isDisconnect then .requestTimeout else .invalidParameter
    description := e.message }

/-- The HTTP status of an error. -/
def status (e : ExtractionError) : Status := e.toFailure.status

/-- Text that a reader of a format would give in detail. -/
def unspecified : String := "*"

end ExtractionError

end ApiContract
