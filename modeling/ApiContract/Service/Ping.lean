import ApiContract.Contract.Compile

/-!
# The ping API

Every service can answer two operations of its own: one that only says that it is alive, and
one that says what is running.

## Main definitions

* `PingInfo` — what is running, and how many hooks each ping runs
* `pingContract` — the contract of the API
* `PingInfo.handlers` — its handlers
-/

namespace ApiContract

/-- What is running: a service, its version and environment, and its APIs; and how many
hooks each ping runs. -/
structure PingInfo where
  name : String
  version : String
  env : String := ""
  apis : List String := []
  hooks : Nat := 0
  deriving DecidableEq, Repr

/-- The name of the API. -/
def pingApi : String := "ping"

namespace Ping

/-- A text property. -/
def textProperty (isMandatory : Bool) (description : String) : Property :=
  .mk (some "string") none none none none isMandatory false (some description)

/-- The models of the API. -/
def definitions : List (String × Definition) :=
  [("Ok", {}),
    ("Version", { properties := [
      ("name", textProperty true "Service name"),
      ("version", textProperty true "Service version"),
      ("apis", .mk (some "array") none none none
        (some (.mk (some "string") none none none none false false none)) false false
        (some "Names of the loaded APIs")),
      ("env", textProperty false "Deployment environment")] })]

/-- An operation that is answered with a model. -/
def operation (handler model : String) : Operation :=
  { operationId := some handler, responses := [("200", some ("#/definitions/" ++ model))] }

/-- The document of the API. -/
def document : Document where
  format := .string "2.0"
  title := some pingApi
  apiVersion := some "1.0.0"
  produces := some [jsonMediaType]
  definitions := definitions
  paths := [("/ping", [("GET", operation "ping.do_ping" "Ok")]),
    ("/version", [("GET", operation "ping.do_version" "Version")])]

end Ping

/-- The contract of the API. -/
def pingContract : Contract := { api := pingApi, document := Ping.document }

namespace PingInfo

/-- The answer to a ping. -/
def ping (i : Invocation) : Except ModelError Instance := i.instance? "Ok"

/-- What is running, as an instance. -/
def describeIn (info : PingInfo) (i : Invocation) : Except ModelError Instance := do
  let v ← i.instance? "Version"
  let v ← v.set "name" (.string info.name)
  let v ← v.set "version" (.string info.version)
  let v ← v.set "apis" (.list (info.apis.map .string))
  v.set "env" (.string info.env)

/-- How a handler ends that builds an instance. -/
def ending : Except ModelError Instance → Ending
  | .ok i => .answered (.instance i)
  | .error e => .failed (.model e)

/-- The handlers of the API. -/
def handlers (info : PingInfo) : HandlerTable :=
  (HandlerTable.empty.withHandler "ping.do_ping" fun i =>
      { ending := ending (ping i), hooks := info.hooks }).withHandler
    "ping.do_version" fun i => { ending := ending (info.describeIn i) }

/-- What is running, in logs. -/
def describe (info : PingInfo) : String :=
  "PingInfo \x7b name: " ++ Text.quoted info.name ++ ", version: " ++
    Text.quoted info.version ++ ", env: " ++ Text.quoted info.env ++ ", apis: " ++
    Text.listed (info.apis.map Text.quoted) ++ s!", hooks: {info.hooks} \x7d"

end PingInfo

end ApiContract
