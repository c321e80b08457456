import ApiContract.Proofs.Contract.Compile
import ApiContract.Proofs.Members
import ApiContract.Proofs.Request.Extraction
import ApiContract.Proofs.Service.Exits

/-!
# What a client is told

A dispatcher answers every request, and the way in which the request ends decides the answer:
the reply of the handler as it is, the JSON of the instance that it has returned, or the
envelope of a failure. The same error of a model is the client's fault while the request is
read and the server's fault afterwards.

## Main definitions

* `Origin.verdict`, `Origin.Tells` — the code and the status of a failure, and the failure
  itself, by where it arises
* `Response.IsEnvelopeOf` — a response that tells of a failure
* `Exit.Gives` — the response at an exit
* `Dispatcher.withHandlers` — a dispatcher with other handlers

## Main results

* `Dispatcher.invocation_error` — what cannot be read is a bad parameter
* `Dispatcher.registered_of_withApis` — every binding has its models in the registry
* `Dispatcher.dispatch_outcome` — the answer to every request
-/

namespace ApiContract

/-! ### What is told -/

/-- The code and the status that a client is told, by where the failure arises. -/
def Origin.verdict : Origin → String × Nat
  | .stage f | .handler f => (f.code, f.status.code)
  | .noRoute => ("NOT_FOUND", 404)
  | .wrongMethod => ("METHOD_NOT_ALLOWED", 405)
  | .input _ => ("INVALID_PARAMETER", 400)
  | .deadline => ("REQUEST_TIMEOUT", 408)
  | .handlerModel _ | .invalidResult _ => ("INTERNAL_VALIDATION_ERROR", 500)
  | .badResult => ("BAD_RESPONSE", 500)
  | .handlerOther | .panic => ("UNHANDLED_SERVER_ERROR", 500)

/-- A failure that a client is told of: it has the code and the status of its origin, is the
very failure that a stage, the input or the handler has come to, and describes the error of a
model in the words of that error. -/
def Origin.Tells (o : Origin) (f : Failure) : Prop :=
  (f.code, f.status.code) = o.verdict ∧
    match o with
    | .stage g | .input g | .handler g => f = g
    | .handlerModel e | .invalidResult e => f.description = e.message
    | .noRoute | .wrongMethod | .deadline | .handlerOther | .panic | .badResult => True

/-- A response that tells of a failure: JSON with the status of the response, and with the
code, the description and the user message of the failure, under its own identifier or else
the fresh one. -/
structure Response.IsEnvelopeOf (r : Response) (f : Failure) (fresh : Uuid) : Prop where
  status : r.status = f.status
  contentType : r.headers.get? "content-type" = some (Utf8.encode "application/json")
  body : ∃ members, r.body = Utf8.encode (Json.obj members).compact ∧
    Members.lookup "status" members = some (.int r.status.code) ∧
    Members.lookup "error" members = some (.str f.code) ∧
    Members.lookup "error_description" members = some (.str f.description) ∧
    Members.lookup "error_id" members = some (.str (f.id.getD fresh).toText) ∧
    Members.lookup "user_message" members = f.userMessage.map Json.str

/-- The response at an exit. -/
def Exit.Gives (codec : Codec) (fresh : Uuid) (r : Response) : Exit → Prop
  | .replied reply => r = reply
  | .returned i => r = Response.ofJson .ok (i.toJson codec)
  | .failed o => ∃ f, o.Tells f ∧ r.IsEnvelopeOf f fresh

/-! ### Envelopes -/

theorem Headers.get?_set_of_ne {headers : Headers} {name other : String}
    (differ : Text.lowerAscii other ≠ name) (value : String) :
    (headers.set name value).get? other = headers.get? other := by
  have last : (Text.lowerAscii other == name) = false := beq_eq_false_iff_ne.mpr differ
  rw [get?, get?, set, append]
  induction headers with
  | nil => simp [List.lookup_cons, last]
  | cons h rest ih =>
    -- Setting drops the headers of the name, and none of them is the one looked for.
    by_cases own : h.1 = name
    · have first : (Text.lowerAscii other == h.1) = false := by rwa [own]
      rw [List.filter_cons_of_neg (by simp [own]), ih, List.lookup_cons, first]
    · rw [List.filter_cons_of_pos (by simp [own]), List.cons_append, List.lookup_cons,
        List.lookup_cons, ih]

/-- The members of an envelope. -/
def Failure.envelopeMembers (f : Failure) (id : Uuid) : List (String × Json) :=
  [("status", .int f.status.code), ("error", .str f.code),
    ("error_description", .str f.description), ("error_id", .str id.toText)] ++
    (f.userMessage.map fun m => ("user_message", Json.str m)).toList

theorem Failure.sorted_toEnvelope (f : Failure) (fresh : Uuid) :
    Json.sorted (f.ensureId fresh).toEnvelope.toJson =
      .obj (Members.ofList (f.envelopeMembers (f.id.getD fresh))) := by
  cases told : f.userMessage with
  | none =>
    simp [ensureId, toEnvelope, Envelope.toJson, envelopeMembers, told, Json.sorted,
      Json.sortedValues, status, code]
  | some m =>
    simp [ensureId, toEnvelope, Envelope.toJson, envelopeMembers, told, Json.sorted,
      Json.sortedValues, status, code]

theorem Failure.lookup_envelopeMembers (f : Failure) (id : Uuid) (key : String) :
    Members.lookup key (Members.ofList (f.envelopeMembers id)) =
      Members.lookup key (f.envelopeMembers id) := by
  apply Members.lookup_ofList
  rw [envelopeMembers]
  cases f.userMessage with
  | none => simp [Members.keys]
  | some m => simp [Members.keys]

/-- The members are sorted for writing, which moves them but keeps what they hold. -/
theorem Failure.lookups_envelopeMembers (f : Failure) (id : Uuid) :
    let members := Members.ofList (f.envelopeMembers id)
    Members.lookup "status" members = some (.int f.status.code) ∧
      Members.lookup "error" members = some (.str f.code) ∧
      Members.lookup "error_description" members = some (.str f.description) ∧
      Members.lookup "error_id" members = some (.str id.toText) ∧
      Members.lookup "user_message" members = f.userMessage.map .str := by
  simp only [f.lookup_envelopeMembers]
  cases told : f.userMessage with
  | none => simp [envelopeMembers, told, Members.lookup]
  | some m => simp [envelopeMembers, told, Members.lookup]

/-- The response to a failure is the envelope of the failure. -/
theorem Response.IsEnvelopeOf.ofJson (f : Failure) (fresh : Uuid) :
    (Response.ofJson f.status (Json.sorted (f.ensureId fresh).toEnvelope.toJson)).IsEnvelopeOf f
      fresh := by
  constructor
  · rfl
  · rfl
  · exact ⟨_, by rw [f.sorted_toEnvelope]; rfl, f.lookups_envelopeMembers (f.id.getD fresh)⟩

theorem Response.IsEnvelopeOf.withHeader {r : Response} {f : Failure} {fresh : Uuid}
    (envelope : r.IsEnvelopeOf f fresh) {name : String}
    (other : Text.lowerAscii "content-type" ≠ name) (value : String) :
    (r.withHeader name value).IsEnvelopeOf f fresh :=
  ⟨envelope.status, (Headers.get?_set_of_ne other value).trans envelope.contentType,
    envelope.body⟩

/-! ### Reading what a handler is given -/

namespace Dispatcher

variable {d : Dispatcher} {b : Binding} {models : ModelSet} {ctx : RequestContext}
  {payload : Option Payload} {f : Failure} {exit : Exit}

theorem payload_error (failed : d.payload ctx b = .error f) : f.kind = .invalidParameter := by
  rw [Dispatcher.payload] at failed
  by_cases reads : b.bodyModel.isSome || b.takesForm
  · rw [if_pos reads] at failed
    cases read : readPayload ctx.contentType ctx.body d.multipart with
    | ok p => simp [read] at failed
    | error e =>
      rw [read] at failed
      obtain rfl := Except.error.inj failed
      exact readPayload_blamesInput _ _ _ e read
  · rw [if_neg reads] at failed
    cases failed

/-- A body that its model refuses is a bad parameter, while a result that its model refuses
is not. -/
theorem bodyInstance_error (failed : d.bodyInstance models b payload = .error f) :
    f.kind = .invalidParameter := by
  unfold bodyInstance at failed
  cases named : b.bodyModel with
  | none =>
    rw [named] at failed
    cases failed
  | some name =>
    rw [named] at failed
    cases payload with
    | none => cases failed
    | some p =>
      dsimp only at failed
      split at failed
      · cases failed
      · obtain rfl := Except.error.inj failed
        rfl

theorem params_error (failed : params ctx b payload = .error f) :
    f.kind = .invalidParameter := by
  rw [params] at failed
  split at failed
  · cases failed
  · rename_i e extracted
    obtain rfl := Except.error.inj failed
    exact extractParams_blamesInput _ _ e extracted

/-- What cannot be read is a bad parameter, whatever part of the request it is. -/
theorem invocation_error (failed : d.invocation models ctx b = .error f) :
    f.kind = .invalidParameter := by
  rw [invocation] at failed
  rcases bind_eq_error.mp failed with failed | ⟨payload, _, failed⟩
  · exact payload_error failed
  · rcases bind_eq_error.mp failed with failed | ⟨body, _, failed⟩
    · exact bodyInstance_error failed
    · rcases bind_eq_error.mp failed with failed | ⟨values, _, failed⟩
      · exact params_error failed
      · cases failed

end Dispatcher

/-! ### From the handler's end to the response -/

/-- What is sent of a verified result. -/
def Verified.response (codec : Codec) : Verified → Response
  | .instance i => Response.ofJson .ok (i.toJson codec)
  | .reply r => r

/-- What a computation comes to at an exit: what is sent, or the failure that is told. -/
def Exit.Explains (codec : Codec) (x : Except Failure Response) : Exit → Prop
  | .replied r => x = .ok r
  | .returned i => x = .ok (Response.ofJson .ok (i.toJson codec))
  | .failed o => ∃ f, x = .error f ∧ o.Tells f

namespace Binding

variable {b : Binding} {models : ModelSet} {i : Instance}

theorem check_of_declared (declared : b.Declares models i.model.name) :
    b.check models (.instance i) =
      match i.validate with
      | .ok () => .ok (.instance i)
      | .error e => .error (.ofModelError e) := by
  rw [check]
  exact if_pos (accepts_of_declares declared)

theorem check_of_undeclared (undeclared : ¬ b.Declares models i.model.name) :
    ∃ description,
      b.check models (.instance i) = .error { kind := .badResponse, description } := by
  have refused : ¬ b.accepts models i.model.name = true := fun accepted =>
    undeclared (declares_of_accepts accepted)
  rw [check, if_neg refused]
  exact ⟨_, rfl⟩

/-- Every end of a handler leads to an exit. -/
theorem exists_concludes (b : Binding) (models : ModelSet) (codec : Codec) (ending : Ending) :
    ∃ exit, b.Concludes models ending exit ∧
      exit.Explains codec ((ending.outcome >>= b.check models).map (Verified.response codec)) := by
  cases ending with
  | answered outcome =>
    show ∃ exit : Exit, _ ∧
      exit.Explains codec ((b.check models outcome).map (Verified.response codec))
    cases outcome with
    | reply r => exact ⟨_, .reply r, rfl⟩
    | value j => exact ⟨_, .value j, _, rfl, rfl, trivial⟩
    | nothing => exact ⟨_, .nothing, _, rfl, rfl, trivial⟩
    | «instance» i =>
      by_cases declared : b.Declares models i.model.name
      · rw [check_of_declared declared]
        cases valid : i.validate with
        | ok => exact ⟨_, .returned declared valid, rfl⟩
        | error e => exact ⟨_, .invalid declared valid, .ofModelError e, rfl, rfl, rfl⟩
      · obtain ⟨description, refused⟩ := check_of_undeclared declared
        rw [refused]
        exact ⟨_, .undeclared declared, { kind := .badResponse, description }, rfl, rfl, trivial⟩
  | failed e =>
    cases e with
    | failure f => exact ⟨_, .failure f, f, rfl, rfl, rfl⟩
    | model e => exact ⟨_, .model e, .ofModelError e, rfl, rfl, rfl⟩
    | other message causes => exact ⟨_, .other message causes, _, rfl, rfl, trivial⟩
  | panicked message => exact ⟨_, .panicked message, _, rfl, rfl, trivial⟩

end Binding

namespace Dispatcher

variable {d base : Dispatcher} {b : Binding} {models : ModelSet} {ctx : RequestContext}
  {exit : Exit} {apis : List CompiledApi}

/-- Every run of a handler leads to an exit. -/
theorem exists_completes (d : Dispatcher) (b : Binding) (models : ModelSet) (run : Run) :
    ∃ exit, d.Completes b models run exit ∧
      exit.Explains d.codec
        ((d.outcome b run >>= b.check models).map (Verified.response d.codec)) := by
  rw [outcome]
  by_cases late : run.overruns d.timeout
  · rw [if_pos late]
    exact ⟨_, .late late, _, rfl, rfl, trivial⟩
  · rw [if_neg late]
    obtain ⟨exit, concludes, explains⟩ := b.exists_concludes models d.codec run.ending
    exact ⟨exit, .inTime late concludes, explains⟩

/-- Calling a binding without decorator is reading, running and verifying. -/
theorem execute_eq (known : d.registry.get? b.api = some models) (plain : b.decorator = none) :
    (d.execute ctx b).map Prod.fst =
      d.invocation models (ctx.moveTo .parsing) b >>= fun i =>
        (d.outcome b (b.handler i) >>= b.check models).map (Verified.response d.codec) := by
  simp only [execute, known, bind, Except.bind]
  cases d.invocation models (ctx.moveTo .parsing) b with
  | error f => rfl
  | ok i =>
    cases came : d.outcome b (b.handler i) with
    | error f => simp [came, Except.map]
    | ok o =>
      cases checked : b.check models o with
      | error f => simp [came, checked, Except.map]
      | ok v =>
        cases v with
        | «instance» i =>
          simp [came, checked, Except.map, Binding.decorate, plain, Verified.response, pure,
            Except.pure]
        | reply r => simp [came, checked, Except.map, Verified.response, pure, Except.pure]

/-- Every call leads to an exit. -/
theorem exists_executes (known : d.registry.get? b.api = some models)
    (plain : b.decorator = none) (ctx : RequestContext) :
    ∃ exit, d.Executes ctx b exit ∧
      exit.Explains d.codec ((d.execute ctx b).map Prod.fst) := by
  rw [execute_eq known plain]
  cases read : d.invocation models (ctx.moveTo .parsing) b with
  | error f =>
    have kind : f.kind = .invalidParameter := invocation_error read
    refine ⟨_, .unread known read, f, rfl, ?_, rfl⟩
    rw [Failure.code, Failure.status, kind]
    rfl
  | ok i =>
    obtain ⟨exit, completes, explains⟩ := d.exists_completes b models (b.handler i)
    exact ⟨exit, .called known read completes, explains⟩

theorem fail_isEnvelopeOf (d : Dispatcher) (ctx : RequestContext) (b : Option Binding)
    (plain : ∀ x ∈ b, x.decorator = none) (f : Failure) (fresh : Uuid) :
    (d.fail ctx b f fresh).response.IsEnvelopeOf f fresh := by
  cases b with
  | none => exact .ofJson f fresh
  | some b =>
    -- Without decorator the binding has no say in the envelope.
    have bare : (d.fail ctx (some b) f fresh).response = (d.fail ctx none f fresh).response := by
      simp [fail, Binding.decorate, plain b rfl]
    rw [bare]
    exact .ofJson f fresh

theorem call_gives (plain : b.decorator = none) (fresh : Uuid)
    (explains : exit.Explains d.codec ((d.execute ctx b).map Prod.fst)) :
    exit.Gives d.codec fresh (d.call ctx b fresh).response := by
  rw [call]
  cases executed : d.execute ctx b with
  | error f =>
    rw [executed] at explains
    cases exit with
    | replied r => cases explains
    | returned i => cases explains
    | failed o =>
      obtain ⟨g, same, tells⟩ := explains
      obtain rfl := Except.error.inj same
      exact ⟨f, tells, d.fail_isEnvelopeOf ctx (some b) (by simpa using plain) f fresh⟩
  | ok result =>
    rw [executed] at explains
    cases exit with
    | replied r => exact Except.ok.inj explains
    | returned i => exact Except.ok.inj explains
    | failed o =>
      obtain ⟨g, same, _⟩ := explains
      cases same

/-! ### From the request to the response -/

/-- The models of every binding are registered, and no binding has a decorator. -/
def Serves (d : Dispatcher) : Prop :=
  ∀ b ∈ d.routes.bindings, (∃ models, d.registry.get? b.api = some models) ∧ b.decorator = none

/-- Every routed request leads to an exit. -/
theorem exists_routes (serves : d.Serves) (ctx : RequestContext) (fresh : Uuid) :
    ∃ exit, d.Routes ctx exit ∧ exit.Gives d.codec fresh (d.route ctx fresh).response := by
  rw [route]
  have same := d.routes.resolve_eq ctx.method ctx.path
  cases resolved : d.routes.resolve ctx.method ctx.path with
  | matched b params =>
    have matched := RouteTable.resolution_matched (same.symm.trans resolved)
    obtain ⟨⟨models, known⟩, plain⟩ := serves b matched.1
    obtain ⟨exit, executes, explains⟩ := exists_executes known plain
      { ctx with pathParams := params, endpoint := some b.endpoint }
    exact ⟨exit, .routed resolved executes, call_gives plain fresh explains⟩
  | methodNotAllowed allowed =>
    obtain ⟨somewhere, otherwise⟩ :=
      RouteTable.resolution_methodNotAllowed (same.symm.trans resolved)
    refine ⟨_, .wrongMethod somewhere otherwise, _, ⟨?_, trivial⟩,
      (d.fail_isEnvelopeOf ctx none (by simp) _ fresh).withHeader (by decide) _⟩
    rfl
  | notFound =>
    have nowhere := RouteTable.resolution_notFound (same.symm.trans resolved)
    refine ⟨_, .noRoute nowhere, _, ⟨?_, trivial⟩,
      d.fail_isEnvelopeOf ctx none (by simp) _ fresh⟩
    rfl

/-- Every request to a dispatcher without stages after the call leads to an exit. -/
theorem exists_ends (serves : d.Serves) (bare : d.chain.post = []) (ctx : RequestContext)
    (fresh : Uuid) :
    ∃ exit, d.Ends ctx exit ∧ exit.Gives d.codec fresh (d.dispatch ctx fresh).response := by
  have unchanged : (d.dispatch ctx fresh).response = (d.answer ctx fresh).response := by
    simp [dispatch, finish, Chain.runPost, bare]
  rw [unchanged, answer]
  cases passed : d.chain.runPre ctx with
  | error f =>
    exact ⟨_, .refused passed, f, ⟨rfl, rfl⟩, d.fail_isEnvelopeOf ctx none (by simp) f fresh⟩
  | ok entered =>
    obtain ⟨exit, routes, gives⟩ := exists_routes serves entered fresh
    exact ⟨exit, .entered passed routes, gives⟩

/-! ### Handlers that are not run -/

/-- The dispatcher with other handlers. -/
def withHandlers (d : Dispatcher) (handler : Binding → Handler) : Dispatcher :=
  { d with routes := d.routes.withHandlers handler }

/-- A call that ends early ends so whatever the handler is. -/
theorem Executes.call_withHandler (executes : d.Executes ctx b exit) (early : exit.isEarly)
    (handler : Handler) (fresh : Uuid) :
    d.call ctx (b.withHandler handler) fresh = d.call ctx b fresh := by
  cases executes with
  | @unread models f known refused =>
    have here : d.execute ctx b = .error f := by
      simp [execute, known, refused, bind, Except.bind]
    have known' : d.registry.get? (b.withHandler handler).api = some models := known
    have refused' : d.invocation models (ctx.moveTo .parsing) (b.withHandler handler) = .error f :=
      refused
    have there : d.execute ctx (b.withHandler handler) = .error f := by
      simp [execute, known', refused', bind, Except.bind]
    rw [call, call, here, there]
    rfl
  | called _ _ completes =>
    -- Once a handler is run, no exit is early.
    rw [completes.not_early] at early
    cases early

/-- A request that ends early ends so whatever the handlers are. -/
theorem Ends.dispatch_withHandlers (ends : d.Ends ctx exit) (early : exit.isEarly)
    (handler : Binding → Handler) (fresh : Uuid) :
    (d.withHandlers handler).dispatch ctx fresh = d.dispatch ctx fresh := by
  have same : (d.withHandlers handler).answer ctx fresh = d.answer ctx fresh := by
    cases ends with
    | refused refusal =>
      have refusal' : (d.withHandlers handler).chain.runPre ctx = .error _ := refusal
      rw [answer, answer, refusal, refusal']
      rfl
    | @entered entered _ passed routes =>
      have passed' : (d.withHandlers handler).chain.runPre ctx = .ok entered := passed
      rw [answer, answer, passed, passed']
      show (d.withHandlers handler).route entered fresh = d.route entered fresh
      -- Other handlers are found at the same place with the same parameters.
      have alike := d.routes.resolve_withHandlers handler entered.method entered.path
      have found := routes.of_resolve
      rw [route, route, withHandlers, alike]
      cases resolved : d.routes.resolve entered.method entered.path with
      | matched b params =>
        simp only [resolved] at found
        exact found.call_withHandler early (handler b) fresh
      | methodNotAllowed allowed => rfl
      | notFound => rfl
  rw [dispatch, dispatch, same]
  rfl

/-! ### Dispatchers of compiled APIs -/

/-- Every binding of a dispatcher over the registry that its APIs were compiled into has its
models registered. -/
theorem registered_of_withApis (built : base.withApis apis = .ok d)
    (compiled : ∀ api ∈ apis, api.CompiledInto d.registry) {b : Binding}
    (member : b ∈ d.routes.bindings) :
    ∃ api ∈ apis, b ∈ api.bindings ∧ d.registry.get? b.api = some api.models := by
  obtain ⟨routes, ok, built⟩ := bind_eq_ok.mp built
  obtain rfl := Except.ok.inj built
  obtain ⟨api, served, listed⟩ := List.mem_flatMap.mp (RouteTable.mem_of_ofBindings ok b member)
  have into := compiled api served
  refine ⟨api, served, listed, ?_⟩
  -- The registry keeps models by API, and the binding carries the name of its own.
  rw [into.api_of_mem b listed]
  exact into.get?

/-- Every request to a dispatcher of compiled APIs ends in exactly one way, and so is it
answered. When that is before a handler is run, no handler has a part in the answer. -/
theorem dispatch_outcome (built : base.withApis apis = .ok d)
    (compiled : ∀ api ∈ apis, api.CompiledInto d.registry)
    (plain : ∀ api ∈ apis, ∀ b ∈ api.bindings, b.decorator = none)
    (bare : d.chain.post = []) (ctx : RequestContext) (fresh : Uuid) :
    ∃ exit, d.Ends ctx exit ∧ (∀ other, d.Ends ctx other → other = exit) ∧
      exit.Gives d.codec fresh (d.dispatch ctx fresh).response ∧
      (exit.isEarly → ∀ handler,
        (d.withHandlers handler).dispatch ctx fresh = d.dispatch ctx fresh) := by
  have serves : d.Serves := by
    intro b member
    obtain ⟨api, served, listed, found⟩ := registered_of_withApis built compiled member
    exact ⟨⟨api.models, found⟩, plain api served b listed⟩
  obtain ⟨exit, ends, gives⟩ := exists_ends serves bare ctx fresh
  refine ⟨exit, ends, fun other again => again.unique ends, gives, ?_⟩
  intro early handler
  exact ends.dispatch_withHandlers early handler fresh

end Dispatcher

/-! ### A service of items -/

/-- The operation that reads an item by its number. -/
def getItem : Operation where
  operationId := some "get_item"
  parameters := [{ name := some "id", location := "path", type := some "integer" }]
  responses := [("200", some "#/definitions/Item")]

/-- A contract with one model and one operation. -/
def itemContract : Contract where
  api := "items"
  document := {
    format := .string "2.0"
    definitions := [("Item",
      { properties := [("name", .mk (some "string") none none none none true false none)] })]
    paths := [("/items/\x7bid\x7d", [("GET", getItem)])] }

/-- A handler that finds nothing. -/
def findNothing : Handler := fun _ => { ending := .answered .nothing }

/-- The handlers of items. -/
def itemHandlers : HandlerTable := HandlerTable.empty.withHandler "get_item" findNothing

/-- The models of the contract. -/
def itemModels : ModelSet where
  api := "items"
  models := [{ name := "Item", api := "items",
               fields := [⟨"name", .string, .mandatory, none, false⟩] }]

/-- The binding of the operation. -/
def itemBinding : Binding where
  api := "items"
  method := "GET"
  route := "/items/\x7bid\x7d"
  params := [{ name := "id", location := .path, type := .integer, required := true }]
  bodyModel := none
  handlerName := "get_item"
  handler := findNothing
  decoratorName := none
  decorator := none
  results := ["Item"]
  produces := "application/json"

/-- The compiled contract. -/
def itemApi : CompiledApi :=
  { name := "items", version := none, models := itemModels, bindings := [itemBinding] }

/-- A dispatcher without routes over the registry of the contract. -/
def itemBase : Dispatcher :=
  { registry := { sets := [itemModels] } }

/-- The dispatcher of the contract. -/
def itemService : Dispatcher :=
  { itemBase with routes := { bindings := [itemBinding] } }

/-- A request for an item whose number is a word. -/
def itemSeven : RequestContext :=
  { id := ⟨1⟩, uri := { rawPath := "/items/seven" } }

theorem compile_items :
    ({} : Compiler).compile itemContract itemHandlers {} =
      ({ registry := itemBase.registry }, .ok itemApi) := by
  have needs : dependencies itemContract.document.definitions = .ok [("Item", [])] := rfl
  have order : orderModels itemContract.document.definitions = .ok ["Item"] := by
    rw [orderModels, needs]
    simp [bind, Except.bind, placeAll, placeReady]
  have models : itemContract.models = .ok itemModels := by
    rw [Contract.models, compileModels, order]
    rfl
  have loaded : ({} : Compiler).models itemContract ({} : Workspace).files =
      .ok (itemModels, {}) := by
    show itemContract.models.map _ = _
    rw [models]
    rfl
  rw [Compiler.compile, loaded]
  rfl

theorem itemService_ends : ∃ f, itemService.Ends itemSeven (.failed (.input f)) := by
  have resolved : itemService.routes.resolve itemSeven.method itemSeven.path =
      .matched itemBinding [("id", "seven")] := RouteTable.resolve_eq _ _ _
  have known : itemService.registry.get? itemBinding.api = some itemModels := rfl
  have refused : (itemService.invocation itemModels (({ itemSeven with
      pathParams := [("id", "seven")],
      endpoint := some itemBinding.endpoint } : RequestContext).moveTo .parsing)
      itemBinding).isOk = false := by
    decide +kernel
  cases read : itemService.invocation itemModels _ itemBinding with
  | ok i =>
    rw [read] at refused
    cases refused
  | error f => exact ⟨f, .entered rfl (.routed resolved (.unread known read))⟩

/-- A number that is a word is a bad parameter, and no handler can change that. -/
theorem Dispatcher.dispatch_outcome_items :
    itemBase.withApis [itemApi] = .ok itemService ∧
      (∀ api ∈ [itemApi], api.CompiledInto itemService.registry) ∧
      (∀ api ∈ [itemApi], ∀ b ∈ api.bindings, b.decorator = none) ∧
      itemService.chain.post = [] ∧
      ∃ f, (f.code, f.status.code) = ("INVALID_PARAMETER", 400) ∧
        (itemService.dispatch itemSeven ⟨2⟩).response.IsEnvelopeOf f ⟨2⟩ ∧
        ∀ handler, (itemService.withHandlers handler).dispatch itemSeven ⟨2⟩ =
          itemService.dispatch itemSeven ⟨2⟩ := by
  have built : itemBase.withApis [itemApi] = .ok itemService := by
    show (RouteTable.ofBindings [itemBinding] >>= _) = _
    rw [RouteTable.ofBindings_of_nodup (by decide)]
    rfl
  have into : itemApi.CompiledInto
      (({} : Compiler).compile itemContract itemHandlers {}).1.registry :=
    .compiled (by rw [compile_items])
  have compiled : ∀ api ∈ [itemApi], api.CompiledInto itemService.registry := by
    intro api listed
    obtain rfl := List.mem_singleton.mp listed
    rwa [compile_items] at into
  have plain : ∀ api ∈ [itemApi], ∀ b ∈ api.bindings, b.decorator = none := by
    simp [itemApi, itemBinding]
  obtain ⟨exit, _, only, gives, early⟩ :=
    dispatch_outcome built compiled plain rfl itemSeven ⟨2⟩
  obtain ⟨input, ends⟩ := itemService_ends
  obtain rfl := only _ ends
  obtain ⟨f, tells, envelope⟩ := gives
  exact ⟨built, compiled, plain, rfl, f, tells.1, envelope, early rfl⟩

end ApiContract
