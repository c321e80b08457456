import ApiContract.Proofs.Contract.Compile
import ApiContract.Proofs.Contract.Signature
import ApiContract.Proofs.Model.Form
import ApiContract.Proofs.Request.Extraction
import ApiContract.Proofs.Request.Params

/-!
# Defaults of parameters

A default is kept as the document has it, of whatever type, and no operation is refused for it:
without its defaults, a document is compiled to the same bindings without theirs. It is first
read when a request leaves the parameter out, and then as a text that stands at its place would
be. A value of the type that the parameter has does no harm there. Any other value may be of no
use, and then there is no request which leaves the parameter out and can be read.

## Main definitions

* `Document.withoutDefaults`, `Binding.withoutDefaults` — all but the defaults
* `ParamSpec.LeftOut` — a request has nothing for a parameter
* `ParamSpec.Usable` — the default stands for a value of the type
* `ParamSpec.substitute` — what a parameter has when it is left out

## Main results

* `compileEndpoints_withoutDefaults` — defaults do not matter to what is compiled
* `ParamSpec.extract_of_leftOut` — a parameter that is left out has its default
* `ParamSpec.usable_of_strictScalar?` — values of the type are of use
* `defaults_of_compileEndpoints` — what leaving out a parameter of a document does
-/

namespace ApiContract

/-! ### Documents without defaults -/

/-- The declaration of a parameter without its default. -/
def Parameter.withoutDefault (p : Parameter) : Parameter := { p with default := none }

/-- What is declared of a parameter but for its default. -/
def ParamSpec.withoutDefault (s : ParamSpec) : ParamSpec := { s with default := none }

/-- An operation without the defaults of its parameters. -/
def Operation.withoutDefaults (o : Operation) : Operation :=
  { o with parameters := o.parameters.map Parameter.withoutDefault }

/-- An operation with its path, without the defaults of its parameters. -/
def Route.withoutDefaults (r : Route) : Route :=
  { r with operation := r.operation.withoutDefaults }

/-- What is read of parameters, without their defaults. -/
def Operation.dropDefaults (read : List ParamSpec × Option String) :
    List ParamSpec × Option String :=
  (read.1.map ParamSpec.withoutDefault, read.2)

/-- A document without the defaults of its parameters. -/
def Document.withoutDefaults (d : Document) : Document :=
  { d with paths := d.paths.map fun path =>
      (path.1, path.2.map fun operation => (operation.1, operation.2.withoutDefaults)) }

/-- A binding without the defaults of its parameters. -/
def Binding.withoutDefaults (b : Binding) : Binding :=
  { b with params := b.params.map ParamSpec.withoutDefault }

section Compile

variable {p : Parameter} {o : Operation} {r : Route} {d : Document} {t : HandlerTable}
  {policy : HandlerPolicy} {known : List String} {label api : String}

theorem Parameter.spec_withoutDefault {location : ParamLocation} :
    p.withoutDefault.spec location known label =
      (p.spec location known label).map ParamSpec.withoutDefault := by
  have same : p.withoutDefault.name = p.name := rfl
  rw [spec, spec, same]
  cases p.name with
  | none => rfl
  | some name => exact bind_map rfl fun type => rfl

theorem Operation.addParameter_withoutDefault (read : List ParamSpec × Option String) :
    addParameter known label (dropDefaults read) p.withoutDefault =
      (addParameter known label read p).map dropDefaults := by
  have added (location : ParamLocation) :
      (do
        let s ← p.withoutDefault.spec location known label
        return ((dropDefaults read).1 ++ [s], read.2)) =
      Except.map dropDefaults (do
        let s ← p.spec location known label
        return (read.1 ++ [s], read.2)) := by
    refine bind_map_of_each Parameter.spec_withoutDefault fun s => congrArg Except.ok ?_
    rw [dropDefaults, dropDefaults, List.map_append, List.map_singleton]
  have same : p.withoutDefault.location = p.location := rfl
  rw [addParameter, addParameter, same]
  cases ParamLocation.ofName? p.location with
  | none => rfl
  | some location =>
    cases location with
    | path => exact added .path
    | query => exact added .query
    | form => exact added .form
    | body =>
      have schema : p.withoutDefault.schema = p.schema := rfl
      obtain ⟨specs, body⟩ := read
      cases body with
      | some model => rfl
      | none =>
        dsimp only [dropDefaults]
        rw [schema]
        cases p.schema with
        | none => rfl
        | some reference => exact bind_map rfl fun model => rfl

theorem Operation.signature_withoutDefaults :
    o.withoutDefaults.signature known label = (o.signature known label).map dropDefaults := by
  have all : o.withoutDefaults.parameters.foldlM (addParameter known label) ([], none) =
      (o.parameters.foldlM (addParameter known label) ([], none)).map dropDefaults := by
    rw [withoutDefaults, List.foldlM_map]
    change o.parameters.foldlM _ (dropDefaults ([], none)) = _
    exact foldlM_map_state fun read p => addParameter_withoutDefault read
  refine bind_map_of_each all fun ⟨specs, body⟩ => ?_
  have forms : (specs.map ParamSpec.withoutDefault).any (fun s => s.location = .form) =
      specs.any fun s => s.location = .form := by
    rw [List.any_map]
    rfl
  dsimp only [dropDefaults]
  rw [forms]
  split <;> rfl

theorem Operation.checkRoute_withoutDefault {path : String} {params : List ParamSpec} :
    checkRoute path label (params.map ParamSpec.withoutDefault) = checkRoute path label params := by
  have declared : (((params.map ParamSpec.withoutDefault).filter fun s => s.location = .path).map
      (·.name)) = (params.filter fun s => s.location = .path).map (·.name) := by
    rw [List.filter_map, List.map_map]
    rfl
  rw [checkRoute, checkRoute, declared]

theorem Route.bind_withoutDefaults :
    r.withoutDefaults.bind api d.withoutDefaults t policy =
      (r.bind api d t policy).map Binding.withoutDefaults := by
  rw [bind, bind]
  refine bind_map_of_each Operation.signature_withoutDefaults fun ⟨params, body⟩ => ?_
  refine bind_map Operation.checkRoute_withoutDefault fun _ => ?_
  -- Nothing else is read of the parameters.
  refine bind_map rfl fun produces => bind_map rfl fun results => ?_
  have named : r.withoutDefaults.operation.handlerName = r.operation.handlerName := rfl
  rw [named]
  cases r.operation.handlerName with
  | none => rfl
  | some name => exact bind_map rfl fun handler => bind_map rfl fun decorator => rfl

theorem Document.routes_withoutDefaults : d.withoutDefaults.routes =
    d.routes.map Route.withoutDefaults := by
  rw [routes, routes, withoutDefaults, List.flatMap_map, List.map_flatMap]
  simp only [List.map_map]
  rfl

/-- Without its defaults, a document is compiled to the same bindings without theirs, and refused
for the same reason. -/
theorem compileEndpoints_withoutDefaults :
    compileEndpoints api d.withoutDefaults t policy =
      (compileEndpoints api d t policy).map (List.map Binding.withoutDefaults) := by
  rw [compileEndpoints, compileEndpoints, Document.routes_withoutDefaults, List.mapM_map]
  exact mapM_map_of_each fun r _ => Route.bind_withoutDefaults

/-- Of two documents that differ in their defaults only, both are compiled or none is. -/
theorem exists_compileEndpoints_of_withoutDefaults {d' : Document} {bindings : List Binding}
    (same : d'.withoutDefaults = d.withoutDefaults)
    (compiled : compileEndpoints api d t policy = .ok bindings) :
    ∃ bindings', compileEndpoints api d' t policy = .ok bindings' ∧
      bindings'.map Binding.withoutDefaults = bindings.map Binding.withoutDefaults := by
  have plain : compileEndpoints api d'.withoutDefaults t policy =
      (compileEndpoints api d' t policy).map (List.map Binding.withoutDefaults) :=
    compileEndpoints_withoutDefaults
  rw [same, compileEndpoints_withoutDefaults, compiled] at plain
  exact map_eq_ok.mp plain.symm

/-- The parameters of a binding are declared by one of the operations. -/
theorem exists_declares_of_compileEndpoints {bindings : List Binding} {b : Binding} {s : ParamSpec}
    (compiled : compileEndpoints api d t policy = .ok bindings) (member : b ∈ bindings)
    (listed : s ∈ b.params) : ∃ r ∈ d.routes, ∃ p ∈ r.operation.parameters, p.Declares s := by
  obtain ⟨r, routed, bound⟩ := (mem_mapM_iff compiled).mp member
  obtain ⟨_, _, _, _, _, _, _, read, _, _, _, _, _, _, rfl⟩ := Route.bind_eq_ok_iff.mp bound
  exact ⟨r, routed, (Operation.signature_eq_ok_iff.mp read).1.exists_of_mem listed⟩

end Compile

/-! ### Parameters that are left out -/

/-- The part of a request that a location is in. -/
def ParamLocation.source : ParamLocation → ExtractionSource
  | path => .path
  | query => .query
  | body => .body
  | form => .form

namespace ParamSpec

variable {p : ParamSpec} {ctx : RequestContext} {payload : Option Payload}

/-- A request leaves a parameter out: there is no text at its place, or no file. -/
def LeftOut (p : ParamSpec) (ctx : RequestContext) (payload : Option Payload) : Prop :=
  if p.isFile then p.upload? payload = none else p.text? ctx payload = none

/-- The text that stands for a parameter that is left out. There is none for a file. -/
def fallback? (p : ParamSpec) : Option String :=
  if p.isFile then none else p.defaultText?

/-- The default of a parameter is of use: its text is that of a value of the type. -/
def Usable (p : ParamSpec) : Prop :=
  ∀ raw, p.fallback? = some raw → ∃ v, Value.readScalar p.type raw = .ok v

/-- What a parameter has when it is left out: the value of its default, or no value. -/
def substitute (p : ParamSpec) : Except ExtractionError (Option Value) :=
  match p.fallback? with
  | none => .ok none
  | some raw => (p.coerce p.location.source raw).map some

theorem exists_substitute_iff : (∃ v?, p.substitute = .ok v?) ↔ p.Usable := by
  rw [substitute, Usable]
  cases p.fallback? with
  | none => simp
  | some raw =>
    constructor
    · rintro ⟨v?, done⟩ _ same
      obtain rfl := Option.some.inj same
      obtain ⟨v, read, _⟩ := map_eq_ok.mp done
      exact ⟨v, coerce_eq_ok_iff.mp read⟩
    · intro usable
      obtain ⟨v, read⟩ := usable raw rfl
      exact ⟨some v, map_eq_ok.mpr ⟨v, coerce_eq_ok_iff.mpr read, rfl⟩⟩

/-- An optional parameter that is left out has its default, whatever else is in the request. -/
theorem extract_of_leftOut (optional : p.required = false)
    (outside : p.location = .query ∨ p.location = .form) (left : p.LeftOut ctx payload) :
    p.extract (.ofRequest ctx payload) = p.substitute := by
  rw [LeftOut] at left
  rw [substitute, fallback?]
  have orDefault_eq (plain : p.isFile = false) (source : ExtractionSource) :
      p.orDefault source (p.text? ctx payload) =
        match p.defaultText? with
        | none => .ok none
        | some raw => (p.coerce source raw).map some := by
    rw [plain] at left
    rw [orDefault, left, Option.orElse_none, optional, defaultText?]
    cases p.default.bind Json.plainText? <;> rfl
  rcases outside with here | here
  · have plain : p.isFile = false := by simp [isFile, here]
    rw [extract_of_query here, orDefault_eq plain, here, plain]
    rfl
  · cases file : p.isFile with
    | true =>
      rw [file] at left
      rw [extract_of_file here file, fromFiles, ← upload?, left, optional]
      rfl
    | false =>
      rw [extract_of_field here file, orDefault_eq file, here]
      rfl

theorem plainText?_of_fallback? {raw : String} {json : Json} (declared : p.default = some json)
    (stands : p.fallback? = some raw) : json.plainText? = some raw := by
  rw [fallback?] at stands
  split at stands
  · cases stands
  · rwa [defaultText?, declared, Option.bind_some] at stands

/-- A default that is a value of the type is of use. -/
theorem usable_of_strictScalar? {json : Json} {v : Value} (declared : p.default = some json)
    (typed : ModelSet.strictScalar? json p.type = some v) : p.Usable := by
  intro raw stands
  have plain := plainText?_of_fallback? declared stands
  by_cases float : ∃ x, json = .float x
  · obtain ⟨x, rfl⟩ := float
    obtain rfl := Option.some.inj plain
    -- Of all types, only numbers have floats as their values.
    have number : p.type = .number := by
      revert typed
      cases p.type <;> first | exact fun _ => rfl | exact fun other => (nomatch other)
    obtain ⟨y, read⟩ := Option.isSome_iff_exists.mp (Decimal.isSome_readFloat?_text x)
    refine ⟨.number y, ModelSet.readScalar_eq_ok_iff.mpr ?_⟩
    rw [number, ModelSet.plainScalar?, Text.trim_of_unspaced (Decimal.unspaced_text x), read]
    rfl
  · obtain ⟨text, written, read⟩ :=
      ModelSet.plainScalar?_of_strictScalar? (fun x same => absurd ⟨x, same⟩ float) typed
    obtain rfl := Option.some.inj (plain.symm.trans written)
    exact ⟨v, ModelSet.readScalar_eq_ok_iff.mpr read⟩

/-- A float is of no use where an integer belongs, even if it is whole. -/
theorem not_usable_of_float {x : Float} (declared : p.default = some (.float x))
    (integer : p.type = .integer) : ¬ p.Usable := by
  intro usable
  have stands : p.fallback? = some (Decimal.text x) := by
    have plain : p.isFile = false := by simp [isFile, integer]
    rw [fallback?, plain, defaultText?, declared]
    rfl
  obtain ⟨v, read⟩ := usable _ stands
  rw [ModelSet.readScalar_eq_ok_iff, integer, ModelSet.plainScalar?,
    Text.trim_of_unspaced (Decimal.unspaced_text x), Decimal.readInt64?,
    Decimal.readInteger?_text] at read
  cases read

end ParamSpec

/-- No operation is refused for its defaults: of two documents that differ in nothing else, both
are compiled, to bindings that differ in nothing else. A default that is a value of the type of
its parameter is of use, but a float for an integer, say, is of no use.

What is declared as a default is first looked at when a request leaves the parameter out. An
optional parameter then has the value of its default, or none when it has no default or is a
file, whatever else is in the request. So leaving it out does no harm when its default is of use,
and else no such request can be read, which its sender is blamed for. -/
theorem defaults_of_compileEndpoints {api : String} {d : Document} {t : HandlerTable}
    {policy : HandlerPolicy} {bindings : List Binding} {b : Binding} {p : ParamSpec}
    (compiled : compileEndpoints api d t policy = .ok bindings) (member : b ∈ bindings)
    (listed : p ∈ b.params) (optional : p.required = false) :
    (∃ r ∈ d.routes, ∃ q ∈ r.operation.parameters, q.Declares p) ∧
    (∀ d' : Document, d'.withoutDefaults = d.withoutDefaults →
      ∃ bindings', compileEndpoints api d' t policy = .ok bindings' ∧
        bindings'.map Binding.withoutDefaults = bindings.map Binding.withoutDefaults) ∧
    (∀ json v, p.default = some json → ModelSet.strictScalar? json p.type = some v → p.Usable) ∧
    (∀ x, p.default = some (.float x) → p.type = .integer → ¬ p.Usable) ∧
    ∀ ctx payload, p.LeftOut ctx payload →
      p.extract (.ofRequest ctx payload) = p.substitute ∧
      ((∃ values, extractParams b.params (.ofRequest ctx payload) = .ok values) ↔
        p.Usable ∧ ∀ q ∈ b.params, q ≠ p → ∃ v?, q.extract (.ofRequest ctx payload) = .ok v?) ∧
      (¬ p.Usable → ∃ e, extractParams b.params (.ofRequest ctx payload) = .error e ∧
        e.toFailure.kind = .invalidParameter) := by
  obtain ⟨r, routed, q, among, declares⟩ :=
    exists_declares_of_compileEndpoints compiled member listed
  refine ⟨⟨r, routed, q, among, declares⟩,
    fun d' same => exists_compileEndpoints_of_withoutDefaults same compiled,
    fun json v => ParamSpec.usable_of_strictScalar?, fun x => ParamSpec.not_usable_of_float,
    fun ctx payload left => ?_⟩
  have extracted :=
    ParamSpec.extract_of_leftOut optional (declares.location_of_optional optional) left
  have all : (∃ values, extractParams b.params (.ofRequest ctx payload) = .ok values) ↔
      p.Usable ∧ ∀ q ∈ b.params, q ≠ p → ∃ v?, q.extract (.ofRequest ctx payload) = .ok v? := by
    rw [exists_extractParams_iff, ← ParamSpec.exists_substitute_iff, ← extracted]
    refine ⟨fun each => ⟨each p listed, fun q other _ => each q other⟩, ?_⟩
    rintro ⟨here, others⟩ q other
    by_cases same : q = p
    · rw [same]
      exact here
    · exact others q other same
  refine ⟨extracted, all, fun useless => ?_⟩
  cases read : extractParams b.params (.ofRequest ctx payload) with
  | ok values => exact absurd (all.mp ⟨values, read⟩).1 useless
  | error e => exact ⟨e, rfl, extractParams_blamesInput _ _ e read⟩

/-! ### A catalogue in pages -/

/-- The operation that lists a page of a catalogue, with what is declared to be the first. -/
def listPage (first : Json) : Operation where
  operationId := some "list_page"
  parameters := [{ name := some "page", location := "query", type := some "integer",
                   default := some first }]
  responses := [("200", some "#/definitions/Page")]

/-- A document with that operation. -/
def catalogue (first : Json) : Document where
  format := .string "2.0"
  definitions := [("Page", {})]
  paths := [("/catalogue", [("GET", listPage first)])]

/-- The number of the page. -/
def pageNumber (first : Json) : ParamSpec :=
  { name := "page", location := .query, type := .integer, required := false,
    default := some first }

/-- The binding of the operation, without a handler. -/
def catalogueBinding (first : Json) : Binding where
  api := "catalogue"
  method := "GET"
  route := "/catalogue"
  params := [pageNumber first]
  bodyModel := none
  handlerName := "list_page"
  handler := HandlerPolicy.stubHandler "list_page"
  decoratorName := none
  decorator := none
  results := ["Page"]
  produces := jsonMediaType

/-- A request that leaves the page out. -/
def anyPage : RequestContext where
  id := ⟨1⟩
  uri := { rawPath := "/catalogue" }

theorem leftOut_anyPage (first : Json) : (pageNumber first).LeftOut anyPage none := rfl

/-- A number in the place of an integer is read for every request that leaves it out. -/
theorem defaults_of_compileEndpoints_catalogue :
    compileEndpoints "catalogue" (catalogue (.int 1)) {} .stub =
        .ok [catalogueBinding (.int 1)] ∧
      (pageNumber (.int 1)).LeftOut anyPage none ∧
      (pageNumber (.int 1)).Usable ∧
      ∃ values, extractParams (catalogueBinding (.int 1)).params (.ofRequest anyPage none) =
        .ok values := by
  have compiled : compileEndpoints "catalogue" (catalogue (.int 1)) {} .stub =
      .ok [catalogueBinding (.int 1)] := rfl
  obtain ⟨_, _, typed, _, leaves⟩ := defaults_of_compileEndpoints compiled List.mem_cons_self
    (List.mem_singleton_self (pageNumber (.int 1))) rfl
  have usable : (pageNumber (.int 1)).Usable := typed (.int 1) (.integer 1) rfl rfl
  refine ⟨compiled, leftOut_anyPage _, usable, ?_⟩
  refine (leaves anyPage none (leftOut_anyPage _)).2.1.mpr ⟨usable, fun q other different => ?_⟩
  exact absurd (List.mem_singleton.mp other) different

/-- A word in the place of an integer is compiled as well, and every request that leaves it out
is refused. -/
theorem refused_catalogue :
    compileEndpoints "catalogue" (catalogue (.str "first")) {} .stub =
        .ok [catalogueBinding (.str "first")] ∧
      (pageNumber (.str "first")).LeftOut anyPage none ∧
      extractParams (catalogueBinding (.str "first")).params (.ofRequest anyPage none) =
        .error (.invalidType .query "page" "expected integer, got 'first'") ∧
      (ExtractionError.invalidType .query "page" "expected integer, got 'first'").toFailure.kind =
        .invalidParameter :=
  ⟨rfl, leftOut_anyPage _, rfl, rfl⟩

end ApiContract
