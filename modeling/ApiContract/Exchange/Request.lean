import ApiContract.Exchange.Value
import ApiContract.Service.Client

/-!
# Requests in exchange

## Main definitions

* `Failure.ofDescription` — a failure in exchange
* `RequestContext.ofDescription` — a request that has been received, in exchange
* `Draft.ofDescription` — a request of a client, in exchange
* `ParamSpec.ofDescription`, `Payload.ofDescription` — parameters and bodies in exchange
-/

namespace ApiContract

/-- A status in exchange, if the member is one. -/
def Status.ofDescription? (key : String) (j : Json) : Option Status :=
  (j.natAt? key).bind Status.of?

/-- The kind of failure of a code; a code without status may be one of those that have their
own. -/
def FailureKind.ofDescription (code : String) (status : Option Status) : FailureKind :=
  match code, status with
  | "NOT_FOUND", none => .notFound
  | "METHOD_NOT_ALLOWED", none => .methodNotAllowed
  | code, status => .ofCode code (status.getD .internalServerError)

/-- A failure in exchange. -/
def Failure.ofDescription (j : Json) : Failure where
  kind := .ofDescription (j.textAt "code") (Status.ofDescription? "status" j)
  description := j.textAt "description"
  id := (j.textAt? "error_id").bind Uuid.read?
  userMessage := j.textAt? "user_message"
  caught := j.textAt? "caught"
  trace := j.textAt? "trace"
  reportable := j.flagAt "reportable"

/-- Headers in exchange, added one after another; those that are none are left out. -/
def Headers.ofDescription (j : Json) : Headers :=
  (j.pairsAt "headers").foldl (fun hs h => (Headers.append? hs h.1 h.2).getD hs) []

/-- The address of a peer in exchange. -/
def SocketAddress.ofDescription? (j : Json) : Option SocketAddress :=
  (j.textAt? "remote").bind SocketAddress.read?

/-- A caller in exchange, by headers, address and user. -/
def Caller.ofDescription (j : Json) : Caller :=
  let c := Caller.ofRequest (Headers.ofDescription j) (SocketAddress.ofDescription? j)
  match j.textAt? "user_id" with
  | some user => c.withUser user
  | none => c

/-- An operation in exchange: its API, method, path and handler. -/
def EndpointId.ofDescription (j : Json) : EndpointId where
  api := j.word 0
  method := j.word 1
  path := j.word 2
  handler := j.word 3

/-- A request that has been received, in exchange. -/
def RequestContext.ofDescription (j : Json) (id : Uuid) : RequestContext where
  id := id
  method := (j.textAt? "method").getD "GET"
  uri := ((j.textAt? "uri").bind Uri.read?).getD .root
  headers := Headers.ofDescription j
  body := j.bodyBytes
  caller := Caller.ofDescription j
  endpoint := (j.given? "endpoint").map EndpointId.ofDescription

/-- A client in exchange. -/
def Client.ofDescription (j : Json) : Client where
  headers := j.pairsAt "default_headers"
  remote := SocketAddress.ofDescription? j

/-- A request of a client, in exchange. -/
def Draft.ofDescription (c : Client) (j : Json) : Draft :=
  let d := c.draft ((j.textAt? "method").getD "GET") ((j.textAt? "uri").getD "/")
  let d := { d with body := j.bodyBytes }
  let d := match j.given? "json" with
    | some json => d.withJson json
    | none => d
  let d := match j.given? "form" with
    | some _ => d.withForm (j.pairsAt "form")
    | none => d
  let d := match j.textAt? "bearer" with
    | some token => d.withBearer token
    | none => d
  (j.pairsAt "headers").foldl (fun d h => d.withHeader h.1 h.2) d

/-- The limits of a form in exchange. -/
def MultipartLimits.ofDescription (j : Json) : MultipartLimits :=
  let limits : MultipartLimits := {}
  { maxFields := (j.natAt? "max_fields").getD limits.maxFields
    maxFieldSize := (j.natAt? "max_field_size").getD limits.maxFieldSize }

/-- A body in exchange. -/
def Payload.ofDescription (j : Json) : Except ExtractionError Payload :=
  readPayload (j.textAt? "content_type") j.bodyBytes (.ofDescription j)

/-- The declaration of a parameter in exchange; one in the path is required unless it says
otherwise. -/
def ParamSpec.ofDescription (j : Json) : ParamSpec :=
  let location := (ParamLocation.ofName? (j.textAt "in")).getD .query
  { name := j.textAt "name"
    location
    type := .ofDescription (j.get "type")
    required := ((j.given? "required").bind Json.asBool?).getD (location = .path)
    default := j.member? "default"
    description := j.textAt? "description" }

end ApiContract
