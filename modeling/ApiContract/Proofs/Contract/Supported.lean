import ApiContract.Proofs.Contract.Assembly
import ApiContract.Proofs.Contract.Signature
import ApiContract.Proofs.Service.Captures

/-!
# Operations that can be bound

Which operations of a document are bound is said by rules on what the operation declares: on
its parameters one by one and on all of them together, on its path, on the media types and the
responses, and on the names of its handler and its decorator. A document is compiled exactly
when all of its operations keep the rules, and then each of them has one binding, which has what
the operation declares.

The rule on media types is weaker than the others. Only the first type that is listed has to be
the one that is supported, whatever stands behind it.

## Main definitions

* `Operation.Answers` — the models of the responses
* `Route.Supported` — the rules
* `Route.Bound` — what is bound

## Main results

* `Route.bind_require_iff` — an operation is bound when it keeps the rules, to what it declares
* `compileEndpoints_supported` — a document is compiled exactly when it keeps the rules
-/

namespace ApiContract

/-! ### What an operation produces and answers with -/

namespace Operation

variable {known : List String} {label : String} {o : Operation}

/-- The media type is that of the first one listed, by the operation or else by its document. -/
theorem mediaType_eq_ok_iff {d : Document} {type : String} : o.mediaType d label = .ok type ↔
    (∀ listed, o.produces.or d.produces = some listed →
        ∀ first ∈ listed.head?, first = jsonMediaType) ∧
      type = jsonMediaType := by
  have same : (o.produces.orElse fun _ => d.produces) = o.produces.or d.produces := by
    cases o.produces <;> rfl
  rw [mediaType, same]
  have first : ((o.produces.or d.produces).bind List.head?).getD jsonMediaType = jsonMediaType ↔
      ∀ listed, o.produces.or d.produces = some listed →
        ∀ first ∈ listed.head?, first = jsonMediaType := by
    cases o.produces.or d.produces with
    | none => simp
    | some listed => cases listed <;> simp
  rw [← first]
  split
  · rename_i plain
    rw [and_iff_right plain, plain, Except.ok.injEq, eq_comm]
  · rename_i other
    exact ⟨fun failed => (nomatch failed), fun there => absurd there.1 other⟩

/-- The responses of an operation refer to models, one after another. -/
def Answers (known : List String) (o : Operation) (models : List String) : Prop :=
  List.Forall₂ (fun response model => HasModel known response.2 model) o.responses models

theorem resultModels_eq_ok_iff {results : List String} :
    o.resultModels known label = .ok results ↔
      o.responses ≠ [] ∧ ∃ models, o.Answers known models ∧ results = Members.distinct models := by
  rw [resultModels]
  split
  · rename_i none
    constructor
    · intro failed
      cases failed
    · rintro ⟨some, _⟩
      exact absurd (List.isEmpty_iff.mp none) some
  · rename_i some
    rw [List.isEmpty_iff] at some
    rw [and_iff_right some, bind_eq_ok]
    refine exists_congr fun models => and_congr ?_ ?_
    · rw [mapM_eq_ok_iff, Answers]
      constructor
      · refine fun paired => paired.imp fun response model given => ?_
        obtain ⟨status, schema⟩ := response
        cases schema with
        | none => cases given
        | some reference => exact ⟨reference, rfl, resolveReference_eq_ok.mp given⟩
      · refine fun paired => paired.imp fun response model has => ?_
        obtain ⟨status, schema⟩ := response
        obtain ⟨reference, rfl, refers⟩ := has
        exact resolveReference_eq_ok.mpr refers
    · exact ⟨fun done => (Except.ok.inj done).symm, fun same => congrArg Except.ok same.symm⟩

end Operation

/-! ### What an operation is bound to -/

/-- The rules on an operation: each of its parameters is allowed, with at most one body and no
form beside it; its path has a token for each parameter in the path, and no other; the first
media type that is listed is the supported one; it has responses, all with known models; and the
table has its handler and its decorator, if it names one. -/
structure Route.Supported (r : Route) (d : Document) (t : HandlerTable) : Prop where
  parameters : ∀ p ∈ r.operation.parameters, p.Allowed d.modelNames
  single : (r.operation.parameters.filter fun p => p.At .body).length ≤ 1
  unmixed : (∃ p ∈ r.operation.parameters, p.At .body) →
    ∀ p ∈ r.operation.parameters, ¬ p.At .form
  tokens : ∀ name, Template.token name ∈ Text.split r.path '/' ↔
    ∃ p ∈ r.operation.parameters, p.At .path ∧ p.name = some name
  produces : ∀ listed, r.operation.produces.or d.produces = some listed →
    ∀ first ∈ listed.head?, first = jsonMediaType
  answers : r.operation.responses ≠ []
  modelled : ∀ response ∈ r.operation.responses, ∃ model,
    HasModel d.modelNames response.2 model
  handler : ∃ name, r.operation.handlerName = some name ∧ (t.handler? name).isSome
  decorator : ∀ name, r.operation.decorateServer = some name → (t.decorator? name).isSome

/-- What is bound of an operation: its parameters as they are declared, the models that it may
answer with, each once, and the functions that the table has for its names. -/
structure Route.Bound (r : Route) (api : String) (d : Document) (t : HandlerTable)
    (b : Binding) : Prop where
  api : b.api = api
  method : b.method = r.method
  route : b.route = d.base ++ r.path
  reads : Operation.Reads d.modelNames r.operation.parameters b.params b.bodyModel
  handlerName : r.operation.handlerName = some b.handlerName
  handler : t.handler? b.handlerName = some b.handler
  decoratorName : b.decoratorName = r.operation.decorateServer
  decorator : b.decorator = b.decoratorName.bind t.decorator?
  results : ∃ models, r.operation.Answers d.modelNames models ∧
    b.results = Members.distinct models
  produces : b.produces = jsonMediaType

section Compile

variable {r : Route} {api : String} {d : Document} {t : HandlerTable} {b : Binding}

/-- What is read of the parameters has the names of the path. -/
theorem Route.tokens_iff {params : List ParamSpec} {body : Option String}
    (reads : Operation.Reads d.modelNames r.operation.parameters params body) :
    Operation.checkRoute r.path r.label params = .ok () ↔
      ∀ name, Template.token name ∈ Text.split r.path '/' ↔
        ∃ p ∈ r.operation.parameters, p.At .path ∧ p.name = some name := by
  rw [Operation.checkRoute_eq_ok_iff]
  exact forall_congr' fun name => iff_congr Iff.rfl (reads.exists_at_iff (by decide) name)

/-- An operation is bound when it keeps the rules, to what it declares. -/
theorem Route.bind_require_iff :
    r.bind api d t .require = .ok b ↔ r.Supported d t ∧ r.Bound api d t b := by
  rw [bind_eq_ok_iff]
  constructor
  · rintro ⟨params, body, produces, results, name, handler, decorator, signature, checked, type,
      answered, named, found, decorated, rfl⟩
    obtain ⟨reads, unmixed⟩ := Operation.signature_eq_ok_iff.mp signature
    obtain ⟨allowed, single⟩ := Operation.exists_reads_iff.mp ⟨params, body, reads⟩
    obtain ⟨first, rfl⟩ := Operation.mediaType_eq_ok_iff.mp type
    obtain ⟨some, models, answers, rfl⟩ := Operation.resultModels_eq_ok_iff.mp answered
    obtain ⟨known, rfl⟩ := HandlerPolicy.mapM_decorator_require.mp decorated
    have found := HandlerPolicy.handler_require.mp found
    refine ⟨⟨allowed, single, reads.unmixed_iff.mp unmixed, (tokens_iff reads).mp checked, first,
      some, exists_forall₂_iff.mp ⟨models, answers⟩, ⟨name, named, by rw [found]; rfl⟩, known⟩, ?_⟩
    exact ⟨rfl, rfl, rfl, reads, named, found, rfl, rfl, ⟨models, answers, rfl⟩, rfl⟩
  · rintro ⟨supported, bound⟩
    obtain ⟨models, answered, results⟩ := bound.results
    refine ⟨b.params, b.bodyModel, _, b.results, b.handlerName, b.handler, b.decorator,
      Operation.signature_eq_ok_iff.mpr
        ⟨bound.reads, bound.reads.unmixed_iff.mpr supported.unmixed⟩,
      (tokens_iff bound.reads).mpr supported.tokens,
      Operation.mediaType_eq_ok_iff.mpr ⟨supported.produces, rfl⟩,
      Operation.resultModels_eq_ok_iff.mpr ⟨supported.answers, models, answered, results⟩,
      bound.handlerName, HandlerPolicy.handler_require.mpr bound.handler,
      HandlerPolicy.mapM_decorator_require.mpr ⟨supported.decorator, ?_⟩, ?_⟩
    · rw [bound.decorator, bound.decoratorName]
    · rw [← bound.api, ← bound.method, ← bound.route, ← bound.decoratorName, ← bound.produces]

theorem Route.Supported.exists_bound (supported : r.Supported d t) (api : String) :
    ∃ b, r.Bound api d t b := by
  obtain ⟨params, body, reads⟩ :=
    Operation.exists_reads_iff.mpr ⟨supported.parameters, supported.single⟩
  obtain ⟨models, answers⟩ := exists_forall₂_iff.mpr supported.modelled
  obtain ⟨name, named, known⟩ := supported.handler
  obtain ⟨h, found⟩ := Option.isSome_iff_exists.mp known
  exact ⟨⟨api, r.method, d.base ++ r.path, params, body, name, h, r.operation.decorateServer,
    r.operation.decorateServer.bind t.decorator?, Members.distinct models, jsonMediaType⟩,
    rfl, rfl, rfl, reads, named, found, rfl, rfl, ⟨models, answers, rfl⟩, rfl⟩

/-- A document is compiled exactly when all of its operations keep the rules. What it is compiled
to is one binding for each of them, in their order, of what the operation declares. -/
theorem compileEndpoints_supported (api : String) (d : Document) (t : HandlerTable) :
    ((∃ bindings, compileEndpoints api d t .require = .ok bindings) ↔
      ∀ r ∈ d.routes, r.Supported d t) ∧
    ∀ bindings, compileEndpoints api d t .require = .ok bindings ↔
      (∀ r ∈ d.routes, r.Supported d t) ∧
        List.Forall₂ (fun r b => r.Bound api d t b) d.routes bindings := by
  have bound (bindings : List Binding) : compileEndpoints api d t .require = .ok bindings ↔
      (∀ r ∈ d.routes, r.Supported d t) ∧
        List.Forall₂ (fun r b => r.Bound api d t b) d.routes bindings := by
    -- What is required of an operation alone can be told apart from what is bound of it.
    rw [compileEndpoints, mapM_eq_ok_iff, ← List.forall₂_and_left]
    simp only [Route.bind_require_iff]
  refine ⟨⟨fun ⟨bindings, compiled⟩ => ((bound bindings).mp compiled).1, ?_⟩, bound⟩
  intro supported
  obtain ⟨bindings, paired⟩ :=
    exists_forall₂_iff.mpr fun r member => (supported r member).exists_bound api
  exact ⟨bindings, (bound bindings).mpr ⟨supported, paired⟩⟩

end Compile

/-- A page of an item, as data or as a text for browsers. -/
def itemPage : Operation where
  operationId := some "get_page"
  produces := some [jsonMediaType, "text/html"]
  responses := [("200", some "#/definitions/Item")]

/-- A document of items with that operation. -/
def pages : Document where
  format := .string "2.0"
  definitions := [("Item", {})]
  paths := [("/page", [("GET", itemPage)])]

/-- Only the first type that is listed is looked at. Behind the one that is supported, any other
type is overlooked. -/
theorem compileEndpoints_pages :
    (∃ r ∈ pages.routes, ∃ listed, r.operation.produces.or pages.produces = some listed ∧
      ∃ type ∈ listed, type ≠ jsonMediaType) ∧
    ∃ b, compileEndpoints "pages" pages
        { handlers := [("get_page", HandlerPolicy.stubHandler "get_page")] } .require = .ok [b] ∧
      b.produces = jsonMediaType :=
  ⟨⟨⟨"GET", "/page", itemPage⟩, List.mem_singleton.mpr rfl, _, rfl, "text/html", by decide,
    by decide⟩, _, rfl, rfl⟩

end ApiContract
