import ApiContract.Contract.Compile
import ApiContract.Crash
import ApiContract.Request.Params
import ApiContract.Service.Chain
import ApiContract.Service.Routes
import ApiContract.Time.Span

/-!
# Dispatch

A dispatcher answers requests: it runs the stages before the call, finds the binding, reads
what the handler is given, runs the handler, checks its result against the models that the
operation declares, and runs the stages after the call. Whatever fails on the way becomes an
envelope.

## Main definitions

* `Dispatcher` — what requests are answered with
* `Dispatcher.invocation` — what the handler of a binding is given for a request
* `Binding.check` — the result of a handler, if the operation may have it
* `Dispatcher.answer`, `Dispatcher.dispatch` — the answer to a request before and after the
  last stages
* `Dispatcher.reject` — the answer to a request that could not be received
-/

namespace ApiContract

/-! ### How handlers end -/

/-- The failure that a client is told of when a handler fails. -/
def HandlerFailure.toFailure : HandlerFailure → Failure
  | .failure f => f
  | .model e => .ofModelError e
  | .other message causes =>
    { Failure.unhandled message with caught := some (Text.join ": " (message :: causes)) }

/-- What a handler has produced, or the failure that a client is told of instead. -/
def Ending.outcome : Ending → Except Failure Outcome
  | .answered o => .ok o
  | .failed e => .error e.toFailure
  | .panicked message =>
    let message := message.getD "handler panicked"
    .error { Failure.unhandled message with caught := some s!"panic: {message}" }

/-! ### Results -/

/-- A result that the operation may have. -/
inductive Verified where
  | instance (i : Instance)
  | reply (r : Response)

namespace Binding

/-- Whether a model, or one of its ancestors in at most `steps` steps, is a result that the
operation declares. -/
def acceptsWithin (b : Binding) (models : ModelSet) : Nat → String → Bool
  | 0, _ => false
  | steps + 1, name =>
    b.results.contains name ||
      match (models.get? name).bind (·.parent) with
      | some parent => acceptsWithin b models steps parent
      | none => false

/-- Whether a model or one of its ancestors is a result that the operation declares. -/
def accepts (b : Binding) (models : ModelSet) (name : String) : Bool :=
  b.acceptsWithin models (models.models.length + 1) name

/-- A failure of a handler to keep to what its operation declares. -/
def badResponse {α : Type} (description : String) : Except Failure α :=
  .error { kind := .badResponse, description }

/-- The result of a handler, if the operation may have it. -/
def check (b : Binding) (models : ModelSet) : Outcome → Except Failure Verified
  | .instance i =>
    if b.accepts models i.model.name then
      match i.validate with
      | .ok () => .ok (.instance i)
      | .error e => .error (.ofModelError e)
    else
      badResponse (s!"{b.handlerName} returned model {i.model.name}, expected one of: " ++
        Text.join ", " b.results)
  | .reply r => .ok (.reply r)
  | .nothing => badResponse "Nothing to return in response"
  | .value j =>
    badResponse s!"{b.handlerName} returned a {(Outcome.value j).describe} instead of a model"

/-- JSON as the decorator of the operation leaves it. -/
def decorate (b : Binding) (ctx : RequestContext) (body : Json) : Json :=
  match b.decorator with
  | some decorator => decorator ctx body
  | none => body

end Binding

/-! ### The dispatcher -/

/-- What requests are answered with. Times are in milliseconds; calls that took longer than
`slowCall` are reported. -/
structure Dispatcher where
  routes : RouteTable := {}
  registry : Registry := {}
  chain : Chain := {}
  codec : Codec := {}
  desk : CrashDesk := {}
  timeout : Nat := 30000
  slowCall : Option Nat := some 1000
  multipart : MultipartLimits := {}

/-- An answer, the context at its end, what is reported of it, and how many hooks were
run. -/
structure Answer where
  context : RequestContext
  response : Response
  reports : List CrashReport := []
  hooks : Nat := 0

namespace Dispatcher

/-- The body of a request, if the operation reads one. -/
def payload (d : Dispatcher) (ctx : RequestContext) (b : Binding) :
    Except Failure (Option Payload) :=
  if b.bodyModel.isSome || b.takesForm then
    match readPayload ctx.contentType ctx.body d.multipart with
    | .ok p => .ok (some p)
    | .error e => .error e.toFailure
  else .ok none

/-- The instance that a body holds, if the operation takes a model. -/
def bodyInstance (d : Dispatcher) (models : ModelSet) (b : Binding) (payload : Option Payload) :
    Except Failure (Option Instance) :=
  match b.bodyModel, payload with
  | some name, some p =>
    let decoded :=
      if p.kind.isForm then models.decodeForm d.codec name p.fields p.files
      else models.decode d.codec name p.fields
    match decoded with
    | .ok i => .ok (some i)
    | .error e => .error (.invalidParameter e.message)
  | _, _ => .ok none

/-- The values of the parameters of an operation. -/
def params (ctx : RequestContext) (b : Binding) (payload : Option Payload) :
    Except Failure (List (String × Value)) :=
  let query := (Urlencoded.query ctx.query).map fun p => (p.1, Json.str p.2)
  match extractParams b.params { path := ctx.pathParams, query, payload } with
  | .ok values => .ok values
  | .error e => .error e.toFailure

/-- What the handler of a binding is given for a request. -/
def invocation (d : Dispatcher) (models : ModelSet) (ctx : RequestContext) (b : Binding) :
    Except Failure Invocation := do
  let payload ← d.payload ctx b
  let body ← d.bodyInstance models b payload
  let values ← params ctx b payload
  let declared := (b.params.filter fun p => p.location ≠ .body).map (·.name)
  let i := declared.foldl Invocation.declare { context := ctx, models, codec := d.codec, body }
  return values.foldl (fun i v => i.withParam v.1 v.2) i

/-- What a run of a handler has produced in time. -/
def outcome (d : Dispatcher) (b : Binding) (run : Run) : Except Failure Outcome :=
  if run.overruns d.timeout then
    .error { kind := .requestTimeout,
             description := s!"{b.handlerName} did not complete within {d.timeout} ms" }
  else run.ending.outcome

/-- The response to a request by a binding, with the run of its handler. -/
def execute (d : Dispatcher) (ctx : RequestContext) (b : Binding) :
    Except Failure (Response × Run) := do
  let some models := d.registry.get? b.api
    | throw (.unhandled s!"no models registered for api '{b.api}'")
  let i ← d.invocation models (ctx.moveTo .parsing) b
  let run := b.handler i
  let outcome ← d.outcome b run
  match ← b.check models outcome with
  | .reply r => return (r, run)
  | .instance i =>
    let body := b.decorate (ctx.moveTo .serializing) (i.toJson d.codec)
    return (Response.ofJson .ok body, run)

/-- The answer to a request that has failed. A failure without identifier gets the fresh
one. -/
def fail (d : Dispatcher) (ctx : RequestContext) (b : Option Binding) (f : Failure)
    (fresh : Uuid) : Answer :=
  let ctx := ctx.moveTo .error
  let f := f.ensureId fresh
  let envelope := Json.sorted f.toEnvelope.toJson
  let body := match b with
    | some b => b.decorate ctx envelope
    | none => envelope
  { context := ctx
    response := Response.ofJson f.status body
    reports := if f.shouldReport && d.desk.enabled then [d.desk.ofFailure ctx f] else [] }

/-- What is reported of a call that succeeded. -/
def slowReports (d : Dispatcher) (ctx : RequestContext) (status : Status) (run : Run) :
    List CrashReport :=
  if d.desk.enabled && d.slowCall.any (fun limit => limit * 1000000 < run.elapsed) then
    [d.desk.ofSlowCall ctx status (run.elapsed / 1000000)]
  else []

/-- The answer to a request by a binding. -/
def call (d : Dispatcher) (ctx : RequestContext) (b : Binding) (fresh : Uuid) : Answer :=
  match d.execute ctx b with
  | .error f => d.fail ctx (some b) f fresh
  | .ok (response, run) =>
    let ctx := ctx.moveTo .done
    { context := ctx, response, reports := d.slowReports ctx response.status run,
      hooks := run.hooks }

/-- The answer to a request that no binding has the method of. -/
def refuseMethod (d : Dispatcher) (ctx : RequestContext) (allowed : List String)
    (fresh : Uuid) : Answer :=
  let f : Failure := {
    kind := .methodNotAllowed, description := s!"{ctx.method} is not allowed on {ctx.path}" }
  let a := d.fail ctx none f fresh
  { a with response := a.response.withHeader "allow" (Text.join ", " allowed) }

/-- The answer to a request that has passed the stages before the call. -/
def route (d : Dispatcher) (ctx : RequestContext) (fresh : Uuid) : Answer :=
  match d.routes.resolve ctx.method ctx.path with
  | .matched b params =>
    d.call { ctx with pathParams := params, endpoint := some b.endpoint } b fresh
  | .methodNotAllowed allowed => d.refuseMethod ctx allowed fresh
  | .notFound =>
    let f : Failure := {
      kind := .notFound, description := s!"no route for {ctx.method} {ctx.path}" }
    d.fail ctx none f fresh

/-- The answer to a request before the stages after the call. A request that is refused by a
stage is answered with the context in which it came. -/
def answer (d : Dispatcher) (ctx : RequestContext) (fresh : Uuid) : Answer :=
  match d.chain.runPre ctx with
  | .error f => d.fail ctx none f fresh
  | .ok ctx => d.route ctx fresh

/-- An answer after the stages after the call. -/
def finish (d : Dispatcher) (a : Answer) : Answer :=
  { a with response := d.chain.runPost a.context a.response }

/-- The answer to a request. -/
def dispatch (d : Dispatcher) (ctx : RequestContext) (fresh : Uuid) : Answer :=
  d.finish (d.answer ctx fresh)

/-- The answer to a request that could not be received. -/
def reject (d : Dispatcher) (ctx : RequestContext) (f : Failure) (fresh : Uuid) : Answer :=
  d.finish (d.fail ctx none f fresh)

/-- A dispatcher for compiled APIs. -/
def withApis (d : Dispatcher) (apis : List CompiledApi) : Except RouteConflict Dispatcher := do
  return { d with routes := ← RouteTable.ofBindings (apis.flatMap (·.bindings)) }

/-- A dispatcher in logs. -/
def describe (d : Dispatcher) : String :=
  let slow := match d.slowCall with
    | some limit => s!"Some({Span.describe limit})"
    | none => "None"
  "Dispatcher \x7b routes: " ++ d.routes.describe ++ ", chain: " ++ d.chain.describe ++
    s!", handler_timeout: {Span.describe d.timeout}, slow_call: " ++ slow ++ ", .. \x7d"

end Dispatcher

end ApiContract
