import ApiContract.Http.Uri
import ApiContract.Request.Caller
import ApiContract.Uuid

/-!
# Request contexts

A context holds all that is known of a request while it is answered.

## Main definitions

* `EndpointId` — which operation a request was routed to
* `Progress` — how far an answer has come
* `RequestContext` — a request with what is known of it
-/

namespace ApiContract

/-- Which operation a request was routed to. -/
structure EndpointId where
  api : String
  method : String
  path : String
  handler : String
  deriving DecidableEq, Repr

/-- An operation in reports. -/
def EndpointId.describe (e : EndpointId) : String :=
  s!"{e.api} {e.method} {e.path}"

/-- How far the answer to a request has come. -/
inductive Progress where
  | received
  | parsing
  | invoking
  | validatingResult
  | serializing
  | done
  | error
  deriving DecidableEq, Repr

namespace Progress

/-- The name of a progress. -/
def name : Progress → String
  | received => "received"
  | parsing => "parsing"
  | invoking => "invoking"
  | validatingResult => "validating_result"
  | serializing => "serializing"
  | done => "done"
  | error => "error"

/-- All of them in order. -/
def all : List Progress :=
  [received, parsing, invoking, validatingResult, serializing, done, error]

/-- The progress of a name. -/
def ofName? (name : String) : Option Progress :=
  all.find? fun p => p.name == name

end Progress

/-- A request with what is known of it. Parameters of the path are kept as written. -/
structure RequestContext where
  id : Uuid
  method : String := "GET"
  uri : Uri := .root
  headers : Headers := []
  body : List UInt8 := []
  pathParams : List (String × String) := []
  caller : Caller := {}
  endpoint : Option EndpointId := none
  progress : Progress := .received

namespace RequestContext

/-- The path of the target. -/
def path (c : RequestContext) : String := c.uri.path

/-- The query of the target. -/
def query (c : RequestContext) : Option String := c.uri.query

/-- A header as text. -/
def header? (c : RequestContext) (name : String) : Option String := c.headers.text? name

/-- The type of the body. -/
def contentType (c : RequestContext) : Option String := c.header? "content-type"

/-- The context further on, or back. -/
def moveTo (c : RequestContext) (progress : Progress) : RequestContext := { c with progress }

end RequestContext

end ApiContract
