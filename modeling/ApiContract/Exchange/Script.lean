import ApiContract.Exchange.Request
import ApiContract.Exchange.View
import ApiContract.Service.Auth

/-!
# Scripts

A service can be tried out before its handlers are written: scripts in JSON stand for
handlers, decorators and stages.

## Main definitions

* `Script.handler`, `Script.decorator`, `Script.table` — scripted handlers and decorators
* `Script.preStage`, `Script.postStage`, `Script.auth`, `Script.chain` — scripted stages
-/

namespace ApiContract.Script

/-! ### Expressions -/

/-- A value in a script. -/
def literal (i : Invocation) (j : Json) : Except HandlerFailure (Option Value) :=
  match Value.ofTagged i.models j with
  | .ok v => .ok (some v)
  | .error e => .error (.model e)

/-- The value of a parameter that must have one. -/
def must {α : Type} (wrap : α → Value) (name : String) (value : Except Failure (Option α)) :
    Except HandlerFailure (Option Value) :=
  match Invocation.required name value with
  | .ok a => .ok (some (wrap a))
  | .error f => .error (.failure f)

/-- The value of a parameter, or the default in the script. -/
def may {α : Type} (i : Invocation) (wrap : α → Value) (default : Json)
    (value : Except Failure (Option α)) : Except HandlerFailure (Option Value) :=
  match value with
  | .ok (some a) => .ok (some (wrap a))
  | .ok none => if default.isNull then .ok none else literal i default
  | .error f => .error (.failure f)

/-- The value of an expression, if it has one. -/
def eval (i : Invocation) (e : Json) : Except HandlerFailure (Option Value) :=
  let name := e.word 1
  match e.word 0 with
  | "lit" => literal i (e.item 1)
  | "param_i64" => must .integer name (i.integer? name)
  | "param_f64" => must .number name (i.number? name)
  | "param_bool" => must .bool name (i.bool? name)
  | "param_str" => must .string name (i.string? name)
  | "param_bytes" => must (fun b => .string (Utf8.decodeLossy b)) name (i.file? name)
  | "opt_i64" => may i .integer (e.item 2) (i.integer? name)
  | "opt_f64" => may i .number (e.item 2) (i.number? name)
  | "opt_bool" => may i .bool (e.item 2) (i.bool? name)
  | "opt_str" => may i .string (e.item 2) (i.string? name)
  | "param" => .ok (i.param? name)
  | "body" => .ok (i.body.bind fun b => b.get? name)
  | "header" => .ok ((i.context.header? name).map .string)
  | "user" => .ok (i.context.caller.user.map .string)
  | _ => .ok none

/-! ### Handlers -/

/-- What a handler was given, as JSON. -/
def inspect (i : Invocation) : Json :=
  .ofMembers [
    ("params", .arr (i.params.map fun p => .arr [.str p.1, p.2.toTagged])),
    ("body", (i.body.map fun b => Json.arr [.str b.model.name, b.taggedFields]).getD .null),
    ("path_params", .arr (i.context.pathParams.map fun p => .ofTexts [p.1, p.2])),
    ("endpoint", .ofText? (i.context.endpoint.map EndpointId.describe)),
    ("state", .str i.context.progress.name),
    ("caller", i.context.caller.view),
    ("query", .ofText? i.context.query)]

/-- An instance whose fields are set to the values of expressions. -/
def build (i : Invocation) (model : String) (fields : List Json) :
    Except HandlerFailure Instance := do
  let start ← (i.instance? model).mapError HandlerFailure.model
  fields.foldlM (fun k f => do
    match ← eval i (f.item 1) with
    | none => return k
    | some v => (k.set (f.word 0) v).mapError HandlerFailure.model) start

/-- How a handler ends that comes to an instance. -/
def ofInstance : Except HandlerFailure Instance → Ending
  | .ok i => .answered (.instance i)
  | .error e => .failed e

/-- How a handler ends by a script. -/
def ending (script : Json) (i : Invocation) : Ending :=
  match script.textAt "return" with
  | "value" => .answered (.value (script.get "value"))
  | "text" => .answered (.value (script.get "text"))
  | "reply" =>
    .answered (.reply {
      status := (Status.ofDescription? "status" script).getD .ok
      headers := Headers.ofDescription script
      body := script.bodyBytes })
  | "inspect" => .answered (.reply { body := Utf8.encode (Json.sorted (inspect i)).compact })
  | "body" =>
    match i.body with
    | some b => .answered (.instance b)
    | none => .failed (.failure (.unhandled "no body"))
  | "decode" =>
    ofInstance ((i.decode (script.textAt "model") (script.get "json")).mapError .model)
  | "build" => ofInstance (build i (script.textAt "model") (script.itemsAt "fields"))
  | "error" => .failed (.failure (.ofDescription script))
  | "envelope" =>
    match Envelope.ofJson? (script.get "envelope") with
    | some e => .failed (.failure (.ofEnvelope e))
    | none => .answered .nothing
  | "other" =>
    match (script.textsAt "chain").reverse with
    | message :: causes => .failed (.other message causes)
    | [] => .failed (.other "" [])
  | "panic" => .panicked (script.textAt? "message")
  | "panic_static" => .panicked (some "static boom")
  | "sleep" => ofInstance ((i.instance? (script.textAt "model")).mapError .model)
  | _ => .answered .nothing

/-- What a handler does by a script before it ends. -/
def steps (script : Json) : List Step :=
  if script.textAt "return" = "sleep" then
    match (script.natAt? "ms").getD 1 with
    | 0 => []
    | ms => [.waits ms]
  else []

/-- A scripted handler. The clock of deadlines stands still while it is blocked, and that of slow
calls while it sleeps. -/
def handler (script : Json) : Handler := fun i =>
  { ending := ending script i
    steps := steps script
    elapsed := (script.natAt? "block_ms").getD 0 * 1000000 + 1 }

/-- An object with a member added or replaced; other JSON stays. -/
def insertMember (key : String) (value : Json) : Json → Json
  | .obj members => .obj (Members.insert key value members)
  | j => j

/-- A scripted decorator, which inserts members. -/
def decorator (inserts : List Json) : Decorator := fun ctx body =>
  inserts.foldl (fun body insert =>
    let value := match insert.item 1 with
      | .str "$path" => .str ctx.path
      | .str "$state" => .str ctx.progress.name
      | v => v
    insertMember (insert.word 0) value body) body

/-- Scripted handlers and decorators. -/
def table (j : Json) : HandlerTable :=
  let t := (j.itemsAt "handlers").foldl
    (fun t h => t.withHandler (h.word 0) (handler (h.item 1))) HandlerTable.empty
  (j.itemsAt "decorators").foldl
    (fun t d => t.withDecorator (d.word 0) (decorator (d.item 1).items)) t

/-! ### Stages -/

/-- A scripted stage before a call, which adds to the user's name or refuses a path. -/
def preStage (script : Json) : PreStage where
  name := "pre"
  before ctx :=
    let ctx := match script.textAt? "user" with
      | some text => { ctx with caller := ctx.caller.withUser (ctx.caller.user.getD "" ++ text) }
      | none => ctx
    match script.given? "deny" with
    | none => .ok ctx
    | some failure =>
      if (script.textAt? "path").all (· == ctx.path) then .error (.ofDescription failure)
      else .ok ctx

/-- A scripted stage after a call, which adds a header or sets the status. -/
def postStage (script : Json) : PostStage where
  name := "post"
  after ctx r :=
    let r := match script.given? "header" with
      | none => r
      | some header =>
        let value := match header.word 1 with
          | "$state" => ctx.progress.name
          | "$user" => ctx.caller.logId
          | v => v
        { r with headers := (r.headers.append? (header.word 0) value).getD r.headers }
    { r with status := (Status.ofDescription? "status" script).getD r.status }

/-- Authentication by tokens in a script. -/
def auth (script : Json) : BearerAuth :=
  let tokens : TokenTable := (script.pairsAt "tokens").foldl
    (fun t p => Members.put p.1 (some p.2) t) []
  let tokens : TokenTable := (script.textsAt "expired").foldl
    (fun t token => Members.put token none t) tokens
  { verifier := tokens.verifier, exempt := script.textsAt "exempt" }

/-- A chain in a script: the identifier of the request, authentication, and further
stages. -/
def chain (script : Json) : Chain :=
  let id := script.textAt? "request_id"
  let before := (id.map fun mode => requestIdBefore (mode == "trust")).toList
  let after := (id.map fun _ => requestIdAfter).toList
  let auth := ((script.given? "auth").map fun a => (auth a).stage).toList
  let log := if script.flagAt "access_log" then [accessLog] else []
  { pre := before ++ auth ++ (script.itemsAt "pre").map preStage
    post := after ++ (script.itemsAt "post").map postStage ++ log }

end ApiContract.Script
