import ApiContract.Service.Dispatch

/-!
# A client in memory

A client builds requests and hands them to a dispatcher without a connection. What is wrong
with a request is remembered while it is built, and the first fault wins.

## Main definitions

* `Draft` — a request that is being built
* `Draft.build` — the context in which it is dispatched
* `Client` — headers and peer address that all requests have
-/

namespace ApiContract

/-- Why a request cannot be built. -/
inductive DraftFault where
  | headerName
  | headerValue
  | uri
  deriving DecidableEq, Repr

/-- The wording of a fault. -/
def DraftFault.message : DraftFault → String
  | .headerName => "request build error: invalid header name: *"
  | .headerValue => "request build error: invalid header value: *"
  | .uri => "request build error: invalid URI: *"

/-- A request that is being built, and the first fault found. -/
structure Draft where
  method : String := "GET"
  uri : String := "/"
  headers : Headers := []
  body : List UInt8 := []
  remote : Option SocketAddress := none
  fault : Option DraftFault := none
  deriving Repr

namespace Draft

/-- The draft with a fault, unless it has one already. -/
def withFault (d : Draft) (fault : DraftFault) : Draft :=
  { d with fault := some (d.fault.getD fault) }

/-- The draft with a header in place of all others of its name. -/
def withHeader (d : Draft) (name value : String) : Draft :=
  match Http.headerName? name with
  | none => d.withFault .headerName
  | some name =>
    if Http.isHeaderValue (Utf8.encode value) then
      { d with headers := d.headers.set name value }
    else d.withFault .headerValue

/-- The draft with a bearer token. -/
def withBearer (d : Draft) (token : String) : Draft :=
  d.withHeader "authorization" ("Bearer " ++ token)

/-- The draft with a JSON body. -/
def withJson (d : Draft) (json : Json) : Draft :=
  { d with body := Utf8.encode json.compact }.withHeader "content-type" "application/json"

/-- The draft with a URL-encoded form as body. -/
def withForm (d : Draft) (pairs : List (String × String)) : Draft :=
  { d with body := Utf8.encode (Urlencoded.encode pairs) }.withHeader "content-type"
    "application/x-www-form-urlencoded"

/-- The context in which the request is dispatched, under an identifier. -/
def build (d : Draft) (id : Uuid) : Except DraftFault RequestContext :=
  match d.fault, Uri.read? d.uri with
  | some fault, _ => .error fault
  | none, none => .error .uri
  | none, some uri =>
    .ok { id, method := d.method, uri, headers := d.headers, body := d.body,
          caller := Caller.ofRequest d.headers d.remote }

end Draft

/-- What all requests of a client have: headers, and an address. -/
structure Client where
  headers : List (String × String) := []
  remote : Option SocketAddress := none
  deriving Repr

/-- The draft of a request of the client. -/
def Client.draft (c : Client) (method uri : String) : Draft :=
  c.headers.foldl (fun d h => d.withHeader h.1 h.2) { method, uri, remote := c.remote }

end ApiContract
