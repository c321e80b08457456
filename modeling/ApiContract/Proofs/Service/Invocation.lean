import ApiContract.Proofs.Contract.Compile
import ApiContract.Proofs.Contract.Signature
import ApiContract.Proofs.Model.Reading
import ApiContract.Proofs.Request.Params
import ApiContract.Service.Dispatch

/-!
# What handlers are given

A handler finds the value of each declared parameter under its name: what the request has at
the parameter's own place, be it the route, the query or the body, or else the default. Names
are all that values are kept by, so this is about parameters with a name of their own. The
accessor of a parameter's type gives what is found.

## Main definitions

* `Accessor`, `FieldType.accessor?` — the accessors of parameters, by type
* `Accessor.reads` — the types whose values an accessor gives
* `Invocation.access` — an accessor for optional parameters

## Main results

* `ParamSpec.Holds.read` — what a parameter holds is given by the accessors that read its type
* `compileEndpoints_outside` — parameters of compiled operations are outside of the body
* `Dispatcher.payload_eq_ok` — forms are read from the body of the request
* `Dispatcher.invocation_eq_ok` — what is read of a request
* `Dispatcher.invocation_params` — the values that a handler finds, and its accessors
-/

namespace ApiContract

/-! ### Accessors -/

/-- The accessors of parameters, by what they give. -/
inductive Accessor where
  | integer
  | number
  | boolean
  | text
  | file
  deriving DecidableEq, Repr

namespace Accessor

/-- What an accessor gives of a value; an integer counts as a number. -/
def read : Accessor → Value → Option Value
  | .integer, v => v.asInt64?.map .integer
  | .number, v => v.asFloat?.map .number
  | .boolean, v => v.asBool?.map .bool
  | .text, v => v.asStr?.map .string
  | .file, v => v.asBytes?.map .bytes

/-- Whether an accessor gives the values of a type. -/
def reads : Accessor → FieldType → Bool
  | .integer, .integer => true
  | .number, .number => true
  | .number, .integer => true
  | .boolean, .bool => true
  | .text, .string => true
  | .text, .oneOf _ => true
  | .file, .bytes => true
  | _, _ => false

end Accessor

/-- The accessor of a type; there is none for timestamps. -/
def FieldType.accessor? : FieldType → Option Accessor
  | .integer => some .integer
  | .number => some .number
  | .bool => some .boolean
  | .string | .oneOf _ => some .text
  | .bytes => some .file
  | .timestamp | .model _ | .list _ => none

/-- An accessor gives the values of its own type. -/
theorem Accessor.reads_of_accessor? {a : Accessor} {type : FieldType}
    (typed : type.accessor? = some a) : a.reads type := by
  cases type <;> cases typed <;> rfl

namespace Invocation

variable {i : Invocation} {name : String}

/-- An accessor for optional parameters. -/
def access (i : Invocation) (name : String) : Accessor → Except Failure (Option Value)
  | .integer => (i.integer? name).map (Option.map .integer)
  | .number => (i.number? name).map (Option.map .number)
  | .boolean => (i.bool? name).map (Option.map .bool)
  | .text => (i.string? name).map (Option.map .string)
  | .file => (i.file? name).map (Option.map .bytes)

theorem typed_eq {α : Type} {expected : String} {read : Value → Option α}
    (declared : name ∈ i.declared)
    (fits : ∀ v, i.param? name = some v → (read v).isSome) :
    i.typed name expected read = .ok ((i.param? name).bind read) := by
  rw [typed, if_neg (by simpa using declared)]
  cases held : i.param? name with
  | none => rfl
  | some v =>
    obtain ⟨a, given⟩ := Option.isSome_iff_exists.mp (fits v held)
    simp [given]

/-- An accessor of a declared parameter gives what it makes of the value. -/
theorem access_eq {a : Accessor} (declared : name ∈ i.declared)
    (fits : ∀ v, i.param? name = some v → (a.read v).isSome) :
    i.access name a = .ok ((i.param? name).bind a.read) := by
  have typed : ∀ {α : Type} {expected : String} {read : Value → Option α} (wrap : α → Value),
      (a.read = fun v => (read v).map wrap) →
        (i.typed name expected read).map (Option.map wrap) =
          .ok ((i.param? name).bind a.read) := by
    intro α expected read wrap same
    rw [typed_eq declared fun v held => by simpa [same] using fits v held, same]
    cases i.param? name <;> rfl
  cases a with
  | integer => exact typed _ rfl
  | number => exact typed _ rfl
  | boolean => exact typed _ rfl
  | text => exact typed _ rfl
  | file => exact typed _ rfl

/-- What is declared and what has a value, of an invocation that is filled. -/
theorem mem_declare {other : String} :
    other ∈ (i.declare name).declared ↔ other = name ∨ other ∈ i.declared := by
  rw [declare]
  split
  · rename_i known
    have there : name ∈ i.declared := by simpa using known
    exact ⟨.inr, fun either => either.elim (fun same => same ▸ there) id⟩
  · simp [or_comm]

theorem params_declare : (i.declare name).params = i.params := by
  rw [declare]
  split <;> rfl

theorem foldl_declare (names : List String) (i : Invocation) :
    (names.foldl declare i).params = i.params ∧
      ∀ name, name ∈ (names.foldl declare i).declared ↔ name ∈ names ∨ name ∈ i.declared := by
  induction names generalizing i with
  | nil => simp
  | cons first rest ih =>
    obtain ⟨params, declared⟩ := ih (i.declare first)
    refine ⟨params.trans params_declare, fun name => ?_⟩
    rw [List.foldl_cons, declared, mem_declare, List.mem_cons]
    tauto

theorem foldl_withParam (values : List (String × Value)) (i : Invocation) :
    (values.foldl (fun i v => i.withParam v.1 v.2) i).params =
        values.foldl (fun params v => Members.put v.1 v.2 params) i.params ∧
      ∀ name ∈ i.declared, name ∈ (values.foldl (fun i v => i.withParam v.1 v.2) i).declared := by
  induction values generalizing i with
  | nil => exact ⟨rfl, fun _ => id⟩
  | cons v rest ih =>
    obtain ⟨params, declared⟩ := ih (i.withParam v.1 v.2)
    exact ⟨params, fun name member => declared name (mem_declare.mpr (.inr member))⟩

end Invocation

/-! ### What parameters hold -/

/-- A text that is read as a value of a type is given by the accessors that read the type. -/
theorem Accessor.read_of_readScalar {a : Accessor} {type : FieldType} {raw : String} {v : Value}
    (reads : a.reads type) (ok : Value.readScalar type raw = .ok v) : (a.read v).isSome := by
  have plain := ModelSet.readScalar_eq_ok_iff.mp ok
  cases type with
  | model name => cases plain
  | list element => cases plain
  | string =>
    cases plain
    cases a <;> cases reads
    rfl
  | bytes =>
    cases plain
    cases a <;> cases reads
    rfl
  | oneOf allowed =>
    obtain ⟨_, same⟩ := Option.ite_none_right_eq_some.mp plain
    cases same
    cases a <;> cases reads
    rfl
  | _ =>
    rw [ModelSet.plainScalar?, Option.map_eq_some_iff] at plain
    obtain ⟨w, _, rfl⟩ := plain
    cases a <;> cases reads <;> rfl

/-- What a parameter holds is given by the accessors that read its type. -/
theorem ParamSpec.Holds.read {p : ParamSpec} {ctx : RequestContext} {payload : Option Payload}
    {v : Value} {a : Accessor} (holds : p.Holds ctx payload (some v)) (reads : a.reads p.type) :
    (a.read v).isSome := by
  have bytes : p.isFile = true → ∀ content, (a.read (.bytes content)).isSome := by
    intro file content
    have type : p.type = .bytes := by
      rw [isFile] at file
      exact (by simpa using file : _ ∧ _).2
    rw [type] at reads
    cases a <;> cases reads
    rfl
  generalize same : some v = v? at holds
  cases holds with
  | given raw w plain found read =>
    obtain rfl := Option.some.inj same
    exact Accessor.read_of_readScalar reads read
  | default raw w plain absent declared read =>
    obtain rfl := Option.some.inj same
    exact Accessor.read_of_readScalar reads read
  | nothing => cases same
  | uploaded content file found =>
    obtain rfl := Option.some.inj same
    exact bytes file content
  | notUploaded => cases same

/-! ### Parameters of compiled operations -/

/-- The parameters of compiled operations are outside of the body. -/
theorem compileEndpoints_outside {api : String} {doc : Document} {table : HandlerTable}
    {policy : HandlerPolicy} {bindings : List Binding} {b : Binding}
    (compiled : compileEndpoints api doc table policy = .ok bindings) (member : b ∈ bindings) :
    ∀ p ∈ b.params, p.location ≠ .body := by
  obtain ⟨r, _, bound⟩ := (mem_mapM_iff compiled).mp member
  obtain ⟨_, _, _, _, _, _, _, read, _, _, _, _, _, _, rfl⟩ := Route.bind_eq_ok_iff.mp bound
  intro p listed
  obtain ⟨_, _, declares⟩ := (Operation.signature_eq_ok_iff.mp read).1.exists_of_mem listed
  exact declares.type.ne_body

/-! ### What is read of a request -/

namespace Dispatcher

variable {d : Dispatcher} {models : ModelSet} {ctx : RequestContext} {b : Binding}
  {payload : Option Payload} {values : List (String × Value)} {i : Invocation}

theorem params_eq_ok_iff :
    params ctx b payload = .ok values ↔
      extractParams b.params (.ofRequest ctx payload) = .ok values := by
  rw [params, ParamSources.ofRequest]
  split
  · rename_i read extracted
    simp [extracted]
  · rename_i e refused
    simp [refused]

/-- The values are found under the names that they are read for, and every parameter outside
of the body is declared. -/
theorem invocation_eq_ok (parsed : d.invocation models ctx b = .ok i) :
    ∃ payload values, d.payload ctx b = .ok payload ∧
      extractParams b.params (.ofRequest ctx payload) = .ok values ∧
      (∀ name, i.param? name = Members.lookup name values) ∧
      ∀ p ∈ b.params, p.location ≠ .body → p.name ∈ i.declared := by
  obtain ⟨payload, received, parsed⟩ := bind_eq_ok.mp parsed
  obtain ⟨body, _, parsed⟩ := bind_eq_ok.mp parsed
  obtain ⟨values, read, parsed⟩ := bind_eq_ok.mp parsed
  obtain rfl := Except.ok.inj parsed
  have extracted := params_eq_ok_iff.mp read
  refine ⟨payload, values, received, extracted, fun name => ?_, fun p member outside => ?_⟩
  · rw [Invocation.param?, (Invocation.foldl_withParam values _).1,
      (Invocation.foldl_declare _ _).1]
    have distinct := (lookup_extractParams extracted).2.2
    exact (Members.lookup_putAll name values).trans (Members.lookup_reverse distinct name)
  · refine (Invocation.foldl_withParam values _).2 _ ?_
    refine ((Invocation.foldl_declare _ _).2 _).mpr (.inl (List.mem_map_of_mem ?_))
    exact List.mem_filter.mpr ⟨member, by simpa using outside⟩

/-- Forms are read from the body of the request, as its content type says. -/
theorem payload_eq_ok (received : d.payload ctx b = .ok payload) {p : ParamSpec}
    (listed : p ∈ b.params) (form : p.location = .form) :
    payload = (readPayload ctx.contentType ctx.body d.multipart).toOption := by
  have takesForm : b.takesForm = true := List.any_eq_true.mpr ⟨p, listed, by simpa using form⟩
  rw [Dispatcher.payload, takesForm, Bool.or_true, if_pos rfl] at received
  cases read : readPayload ctx.contentType ctx.body d.multipart with
  | error e =>
    rw [read] at received
    cases received
  | ok given =>
    rw [read] at received
    exact (Except.ok.inj received).symm

/-- When a request of a compiled operation can be read, the handler finds under the name of a
parameter, if no other parameter has this name, the value that the request has at the
parameter's own place, or else the default. The accessor of the parameter's type gives what is
found, and finds something when the parameter is required. -/
theorem invocation_params {api : String} {doc : Document} {table : HandlerTable}
    {policy : HandlerPolicy} {bindings : List Binding}
    (compiled : compileEndpoints api doc table policy = .ok bindings) (member : b ∈ bindings)
    (parsed : d.invocation models ctx b = .ok i) {p : ParamSpec} (listed : p ∈ b.params)
    (own : ∀ q ∈ b.params, q.name = p.name → q = p) :
    p.Holds ctx (readPayload ctx.contentType ctx.body d.multipart).toOption (i.param? p.name) ∧
      ∀ a, p.type.accessor? = some a →
        i.access p.name a = .ok ((i.param? p.name).bind a.read) ∧
          (p.required → ∃ v, Invocation.required p.name (i.access p.name a) = .ok v) := by
  obtain ⟨payload, values, received, extracted, found, declared⟩ := invocation_eq_ok parsed
  obtain ⟨all, last, _⟩ := lookup_extractParams extracted
  have outside := compileEndpoints_outside compiled member p listed
  have holds : p.Holds ctx (readPayload ctx.contentType ctx.body d.multipart).toOption
      (i.param? p.name) := by
    obtain ⟨v?, read⟩ := all p listed
    have value : i.param? p.name = v? := by
      rw [found, last, lastValue?_eq_value? listed own, ParamSpec.value?, read]
      rfl
    rw [ParamSpec.extract_of_payload (payload_eq_ok received listed)] at read
    rw [value]
    exact ParamSpec.holds_of_extract outside read
  refine ⟨holds, fun a typed => ?_⟩
  have reads : a.reads p.type := Accessor.reads_of_accessor? typed
  have fits : ∀ v, i.param? p.name = some v → (a.read v).isSome := by
    intro v held
    rw [held] at holds
    exact holds.read reads
  have given := Invocation.access_eq (declared p listed outside) fits
  refine ⟨given, fun required => ?_⟩
  obtain ⟨v, held⟩ := Option.isSome_iff_exists.mp (holds.isSome_of_required required)
  obtain ⟨w, read⟩ := Option.isSome_iff_exists.mp (fits v held)
  refine ⟨w, ?_⟩
  rw [given, held, Option.bind_some, read]
  rfl

end Dispatcher

/-! ### An operation with a form -/

/-- The number of an item, in the path. -/
def itemNumber : ParamSpec :=
  { name := "id", location := .path, type := .integer, required := true }

/-- Sizes, with an array as their default. -/
def itemSizes : ParamSpec :=
  { name := "sizes", location := .query, type := .integer, required := false,
    default := some (.arr [.int 1]) }

/-- How many items are lent, in the form. -/
def itemCount : ParamSpec :=
  { name := "count", location := .form, type := .integer, required := true }

/-- A picture of the item in the form, with a text as its default. -/
def itemPicture : ParamSpec :=
  { name := "picture", location := .form, type := .bytes, required := false,
    default := some (.str "x") }

/-- The declaration of the operation. -/
def lendItem : Operation :=
  { operationId := some "lend_item"
    parameters := [
      { name := some "id", location := "path", type := some "integer" },
      { name := some "sizes", location := "query", type := some "integer",
        default := some (.arr [.int 1]) },
      { name := some "count", location := "formData", type := some "integer", required := true },
      { name := some "picture", location := "formData", type := some "file",
        default := some (.str "x") }]
    responses := [("200", some "#/definitions/Item")] }

/-- The document of the operation. -/
def lendingDocument : Document :=
  { format := .string "2.0"
    definitions := [("Item", {})]
    paths := [("/items/\x7bid\x7d", [("POST", lendItem)])] }

/-- A handler that has nothing to give. -/
def lendNothing : Handler := fun _ => { ending := .answered .nothing }

/-- The binding of the operation. -/
def lending : Binding where
  api := "lending"
  method := "POST"
  route := "/items/\x7bid\x7d"
  params := [itemNumber, itemSizes, itemCount, itemPicture]
  bodyModel := none
  handlerName := "lend_item"
  handler := lendNothing
  decoratorName := none
  decorator := none
  results := ["Item"]
  produces := "application/json"

/-- The handlers of the operation. -/
def lendingHandlers : HandlerTable := HandlerTable.empty.withHandler "lend_item" lendNothing

theorem compileEndpoints_lending :
    compileEndpoints "lending" lendingDocument lendingHandlers .require = .ok [lending] :=
  rfl

/-- A request to lend item 7 twice. -/
def lendSeven : RequestContext :=
  { id := ⟨1⟩, method := "POST", uri := { rawPath := "/items/7" },
    headers := [("content-type", Utf8.encode "application/x-www-form-urlencoded")],
    body := Utf8.encode "count=2", pathParams := [("id", "7")] }

/-- What the handler is given for the request. -/
def lendingSeven : Except Failure Invocation :=
  ({} : Dispatcher).invocation { api := "lending" } lendSeven lending

theorem payload_lendSeven : ({} : Dispatcher).payload lendSeven lending =
    .ok (some { kind := .urlencoded, fields := .obj [("count", .str "2")] }) := by
  have type : lendSeven.contentType = some "application/x-www-form-urlencoded" := by
    decide +kernel
  have kind : BodyKind.ofContentType (some "application/x-www-form-urlencoded") = .urlencoded := by
    simp [BodyKind.ofContentType, MediaType.read?, MediaType.withoutSuffix, Http.isTokenChar,
      Text.lowerAscii]
  have fields : Urlencoded.fields lendSeven.body = [("count", "2")] := by decide +kernel
  have written : lendSeven.body.all isBlankByte = false := by decide
  rw [Dispatcher.payload, if_pos (by decide)]
  simp only [readPayload, type, kind, fields, written, Payload.ofFields, Bool.false_eq_true,
    if_false, List.map_cons, List.map_nil]

theorem exists_lendingSeven : ∃ i, lendingSeven = .ok i := by
  have readable : lendingSeven.isOk := by
    rw [lendingSeven, Dispatcher.invocation, payload_lendSeven]
    decide +kernel
  cases parsed : lendingSeven with
  | error f =>
    rw [parsed] at readable
    cases readable
  | ok i => exact ⟨i, rfl⟩

/-- The count is read from the body, and the accessor of integers gives it. -/
theorem invocation_params_lending_count :
    compileEndpoints "lending" lendingDocument lendingHandlers .require = .ok [lending] ∧
      lending ∈ [lending] ∧ itemCount ∈ lending.params ∧
      (∀ q ∈ lending.params, q.name = itemCount.name → q = itemCount) ∧
      ∃ i, lendingSeven = .ok i ∧
        itemCount.Holds lendSeven (readPayload lendSeven.contentType lendSeven.body {}).toOption
          (i.param? "count") ∧
        ∃ v, Invocation.required "count" (i.access "count" .integer) = .ok v := by
  have own : ∀ q ∈ lending.params, q.name = itemCount.name → q = itemCount := by
    simp [lending, itemNumber, itemSizes, itemCount, itemPicture]
  have listed : itemCount ∈ lending.params := by simp [lending]
  obtain ⟨i, parsed⟩ := exists_lendingSeven
  obtain ⟨holds, access⟩ := Dispatcher.invocation_params compileEndpoints_lending
    (List.mem_singleton_self lending) parsed listed own
  exact ⟨compileEndpoints_lending, List.mem_singleton_self lending, listed, own, i, parsed, holds,
    (access .integer rfl).2 rfl⟩

/-- Defaults that are no text, number or truth value are left aside, and so are those of files:
nothing is found under the names of two parameters that have a default. -/
theorem invocation_params_lending_defaults :
    compileEndpoints "lending" lendingDocument lendingHandlers .require = .ok [lending] ∧
      itemSizes ∈ lending.params ∧ itemSizes.default = some (.arr [.int 1]) ∧
      itemPicture ∈ lending.params ∧ itemPicture.default = some (.str "x") ∧
      ∃ i, lendingSeven = .ok i ∧
        (i.param? itemSizes.name).isNone ∧ (i.param? itemPicture.name).isNone := by
  have given : lendingSeven.toOption.map (fun i =>
      (i.param? itemSizes.name).isNone && (i.param? itemPicture.name).isNone) = some true := by
    rw [lendingSeven, Dispatcher.invocation, payload_lendSeven]
    decide +kernel
  obtain ⟨i, parsed⟩ := exists_lendingSeven
  rw [parsed] at given
  have none := Bool.and_eq_true_iff.mp (Option.some.inj given)
  exact ⟨compileEndpoints_lending, by simp [lending], rfl, by simp [lending], rfl, i, parsed,
    none.1, none.2⟩

end ApiContract
