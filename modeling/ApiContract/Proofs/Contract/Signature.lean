import ApiContract.Contract.Endpoint
import ApiContract.Proofs.Contract.Dependency

/-!
# What operations declare

The parameters of an operation are read one after another. Each of them is checked by itself,
for its location, its name and its type, and the body, which may come at any place among them,
has a model. So what is read is a relation on the list of parameters, which has one case for a
body and one for any other parameter, and reading succeeds exactly when each parameter is
allowed and there is at most one body.

## Main definitions

* `HasModel` — a schema that is a reference to a known model
* `Parameter.Typed`, `Parameter.Declares` — what a parameter outside of the body declares
* `Parameter.Allowed` — the rules on a single parameter
* `Operation.Reads` — what the parameters of an operation declare

## Main results

* `Operation.signature_eq_ok_iff` — what is read is what the parameters declare
* `Operation.Reads.exists_at_iff` — what is read of one location
* `Operation.exists_reads_iff` — when the parameters can be read
-/

namespace ApiContract

/-- A reference names a model, which is one of those that are known. -/
def RefersTo (known : List String) (reference model : String) : Prop :=
  modelOfReference? reference = some model ∧ model ∈ known

/-- A schema is a reference to a known model. -/
def HasModel (known : List String) (schema : Option String) (model : String) : Prop :=
  ∃ reference, schema = some reference ∧ RefersTo known reference model

theorem resolveReference_eq_ok {known : List String} {context reference model : String} :
    resolveReference reference known context = .ok model ↔ RefersTo known reference model := by
  rw [resolveReference_eq_ok_iff, Option.filter_eq_some_iff, RefersTo, List.contains_iff_mem]

/-! ### What a parameter declares -/

theorem ParamLocation.name_injective : Function.Injective ParamLocation.name := by
  intro location other same
  cases location <;> cases other <;> first | rfl | exact absurd same (by decide)

theorem ParamLocation.ofName?_eq_some_iff {text : String} {location : ParamLocation} :
    ofName? text = some location ↔ text = location.name := by
  constructor
  · intro read
    unfold ofName? at read
    split at read <;> cases read <;> rfl
  · rintro rfl
    cases location <;> rfl

namespace Parameter

/-- A parameter is declared for a location. -/
def At (p : Parameter) (location : ParamLocation) : Prop := p.location = location.name

instance (p : Parameter) (location : ParamLocation) : Decidable (p.At location) :=
  inferInstanceAs (Decidable (p.location = location.name))

/-- The name that a parameter gives to its type: its format, or else its type. -/
def token? (p : Parameter) : Option String := p.format.or p.type

/-- A parameter is declared as a file. -/
def IsUpload (p : Parameter) : Prop := p.type = some "file"

/-- A parameter is a plain field at a location: one in the query, or one in a form that is no
file. -/
def IsField (p : Parameter) (location : ParamLocation) : Prop :=
  location = .query ∨ location = .form ∧ ¬ p.IsUpload

/-- The type that a parameter declares for a location outside of the body. In a path it is a
text, an integer or a number, and a text when it is not named; in a form it may be a file; and
for a field it is one of the listed values, or else the primitive type that is named. -/
inductive Typed (p : Parameter) : ParamLocation → FieldType → Prop
  | path (type : FieldType) (named : FieldType.primitive? (p.token?.getD "string") = some type)
      (plain : type = .string ∨ type = .integer ∨ type = .number) : Typed p .path type
  | upload (file : p.IsUpload) : Typed p .form .bytes
  | oneOf (location : ParamLocation) (values : List Yaml.Value) (field : p.IsField location)
      (listed : p.values = some values) : Typed p location (.oneOf (values.map Yaml.Value.text))
  | primitive (location : ParamLocation) (token : String) (type : FieldType)
      (field : p.IsField location) (unlisted : p.values = none) (given : p.token? = some token)
      (named : FieldType.primitive? token = some type) : Typed p location type

/-- What a parameter outside of the body declares. One in the path is always required. -/
structure Declares (p : Parameter) (s : ParamSpec) : Prop where
  location : p.At s.location
  name : p.name = some s.name
  type : p.Typed s.location s.type
  required : s.required = (s.location = .path || p.required)
  default : s.default = p.default
  description : s.description = p.description

variable {p : Parameter} {s : ParamSpec} {known : List String} {label context name : String}
  {type : FieldType} {location : ParamLocation}

theorem IsField.ne_path (field : p.IsField location) : location ≠ .path := by
  rcases field with rfl | ⟨rfl, _⟩ <;> decide

theorem IsField.ne_body (field : p.IsField location) : location ≠ .body := by
  rcases field with rfl | ⟨rfl, _⟩ <;> decide

theorem IsField.not_upload (field : p.IsField .form) : ¬ p.IsUpload :=
  field.resolve_left (by decide) |>.2

theorem orElse_type (p : Parameter) : (p.format.orElse fun _ => p.type) = p.token? := by
  rw [token?]
  cases p.format <;> rfl

theorem isScalar_of_primitive? {token : String} (named : FieldType.primitive? token = some type) :
    type.isScalar := by
  unfold FieldType.primitive? at named
  split at named <;> cases named <;> rfl

/-- Without known models, only primitive types have names. -/
theorem ofToken_nil {token : String} :
    FieldType.ofToken token [] context = .ok type ↔ FieldType.primitive? token = some type := by
  rw [FieldType.ofToken]
  cases FieldType.primitive? token with
  | some found => simp
  | none => simp

theorem pathType_eq_ok_iff : p.pathType name label context = .ok type ↔ p.Typed .path type := by
  rw [pathType, orElse_type, bind_eq_ok]
  simp only [ofToken_nil]
  constructor
  · rintro ⟨found, named, done⟩
    split at done
    · obtain rfl := Except.ok.inj done
      exact .path _ named (.inl rfl)
    · obtain rfl := Except.ok.inj done
      exact .path _ named (.inr (.inl rfl))
    · obtain rfl := Except.ok.inj done
      exact .path _ named (.inr (.inr rfl))
    · cases done
  · intro typed
    cases typed with
    | path _ named plain => rcases plain with rfl | rfl | rfl <;> exact ⟨_, named, rfl⟩
    | oneOf _ _ field => exact absurd rfl field.ne_path
    | primitive _ _ _ field => exact absurd rfl field.ne_path

theorem Typed.ne_body (typed : p.Typed location type) : location ≠ .body := by
  cases typed with
  | path => decide
  | upload => decide
  | oneOf _ _ field => exact field.ne_body
  | primitive _ _ _ field => exact field.ne_body

theorem Declares.at_iff (declares : p.Declares s) : p.At location ↔ s.location = location := by
  rw [At, declares.location, ParamLocation.name_injective.eq_iff]

theorem Declares.not_body (declares : p.Declares s) : ¬ p.At .body := fun here =>
  declares.type.ne_body (declares.at_iff.mp here)

/-- A parameter in the path cannot be left out, so one that can is in the query or the form. -/
theorem Declares.location_of_optional (declares : p.Declares s) (optional : s.required = false) :
    s.location = .query ∨ s.location = .form := by
  have required := declares.required.symm.trans optional
  have outside := declares.type.ne_body
  cases place : s.location with
  | path => simp [place] at required
  | query => exact .inl rfl
  | form => exact .inr rfl
  | body => exact absurd place outside

/-- A field is one of the listed values, or of the primitive type that is named. -/
theorem typed_iff (field : p.IsField location) :
    p.Typed location type ↔
      (∃ values, p.values = some values ∧ type = .oneOf (values.map Yaml.Value.text)) ∨
        p.values = none ∧ ∃ token, p.token? = some token ∧
          FieldType.primitive? token = some type := by
  constructor
  · intro typed
    cases typed with
    | path => exact absurd rfl field.ne_path
    | upload file => exact absurd file field.not_upload
    | oneOf _ values _ listed => exact .inl ⟨values, listed, rfl⟩
    | primitive _ token _ _ unlisted given named => exact .inr ⟨unlisted, token, given, named⟩
  · rintro (⟨values, listed, rfl⟩ | ⟨unlisted, token, given, named⟩)
    · exact .oneOf location values field listed
    · exact .primitive location token type field unlisted given named

/-- A token names a scalar when it names a primitive type: what else it may name is a model. -/
theorem scalarOfToken_eq_ok_iff {token : String} :
    (do let type ← FieldType.ofToken token known context
        if type.isScalar then return type else throw (ContractError.unknownType token context)) =
      Except.ok type ↔ FieldType.primitive? token = some type := by
  rw [FieldType.ofToken, bind_eq_ok]
  cases named : FieldType.primitive? token with
  | some found => simp [isScalar_of_primitive? named, pure, Except.pure]
  | none =>
    dsimp only
    constructor
    · rintro ⟨found, model, done⟩
      split at model
      · obtain rfl := Except.ok.inj model
        cases done
      · cases model
    · intro other
      cases other

theorem scalarType_eq_ok_iff (field : p.IsField location) :
    p.scalarType known context = .ok type ↔ p.Typed location type := by
  rw [typed_iff field, scalarType, orElse_type]
  cases listed : p.values with
  | some values => simp [eq_comm]
  | none =>
    cases given : p.token? with
    | none => simp
    | some token => simpa using scalarOfToken_eq_ok_iff

theorem typeAt_eq_ok_iff (outside : location ≠ .body) :
    p.typeAt location known name label = .ok type ↔ p.Typed location type := by
  cases location with
  | path => exact pathType_eq_ok_iff
  | query => exact scalarType_eq_ok_iff (.inl rfl)
  | form =>
    rw [typeAt]
    by_cases file : p.type = some "file"
    · rw [if_pos file]
      constructor
      · intro same
        obtain rfl := Except.ok.inj same
        exact .upload file
      · intro typed
        cases typed with
        | upload _ => rfl
        | oneOf _ _ field => exact absurd file field.not_upload
        | primitive _ _ _ field => exact absurd file field.not_upload
    · rw [if_neg file]
      exact scalarType_eq_ok_iff (.inr ⟨rfl, file⟩)
  | body => exact absurd rfl outside

theorem spec_eq_ok_iff (outside : location ≠ .body) (here : p.At location) :
    p.spec location known label = .ok s ↔ s.location = location ∧ p.Declares s := by
  rw [spec]
  cases named : p.name with
  | none =>
    refine ⟨fun failed => (nomatch failed), fun ⟨_, declares⟩ => ?_⟩
    have given := declares.name
    rw [named] at given
    cases given
  | some name =>
    constructor
    · intro read
      obtain ⟨type, typed, done⟩ := bind_eq_ok.mp read
      obtain rfl := Except.ok.inj done
      exact ⟨rfl, here, named, (typeAt_eq_ok_iff outside).mp typed, rfl, rfl, rfl⟩
    · rintro ⟨rfl, declares⟩
      obtain rfl := Option.some.inj (named.symm.trans declares.name)
      refine bind_eq_ok.mpr ⟨s.type, (typeAt_eq_ok_iff outside).mpr declares.type, ?_⟩
      rw [← declares.required, ← declares.default, ← declares.description]
      rfl

/-- The rules on a single parameter: the body has a known model, and any other parameter has a
name and a type. -/
inductive Allowed (known : List String) (p : Parameter) : Prop
  | body (here : p.At .body) (modelled : ∃ model, HasModel known p.schema model)
  | other (location : ParamLocation) (here : p.At location) (named : p.name.isSome)
      (typed : ∃ type, p.Typed location type)

theorem Declares.allowed (declares : p.Declares s) : p.Allowed known :=
  .other s.location declares.location (by rw [declares.name]; rfl) ⟨s.type, declares.type⟩

theorem exists_declares {type : FieldType} (here : p.At location) (named : p.name.isSome)
    (typed : p.Typed location type) : ∃ s, p.Declares s := by
  obtain ⟨name, named⟩ := Option.isSome_iff_exists.mp named
  exact ⟨⟨name, location, type, location = .path || p.required, p.default, p.description⟩,
    here, named, typed, rfl, rfl, rfl⟩

end Parameter

/-! ### What all parameters declare -/

namespace Operation

/-- What parameters declare one after another: at most one of them is a body, for which there is
a model, and each of the others adds to what is outside of it. -/
inductive Reads (known : List String) : List Parameter → List ParamSpec → Option String → Prop
  | nil : Reads known [] [] none
  | body {p : Parameter} {rest : List Parameter} {specs : List ParamSpec} {model : String}
      (here : p.At .body) (has : HasModel known p.schema model)
      (later : Reads known rest specs none) :
      Reads known (p :: rest) specs (some model)
  | spec {p : Parameter} {rest : List Parameter} {s : ParamSpec} {specs : List ParamSpec}
      {body : Option String} (declares : p.Declares s) (later : Reads known rest specs body) :
      Reads known (p :: rest) (s :: specs) body

variable {known : List String} {label : String} {p : Parameter} {parameters : List Parameter}
  {specs : List ParamSpec} {body : Option String} {read next : List ParamSpec × Option String}
  {location : ParamLocation} {o : Operation}

theorem addParameter_eq_ok_iff : addParameter known label read p = .ok next ↔
    (p.At .body ∧ read.2 = none ∧
        ∃ model, HasModel known p.schema model ∧ next = (read.1, some model)) ∨
      ∃ s, p.Declares s ∧ next = (read.1 ++ [s], read.2) := by
  rw [addParameter]
  cases located : ParamLocation.ofName? p.location with
  | none =>
    have nowhere (location : ParamLocation) : ¬ p.At location := fun here => by
      rw [ParamLocation.ofName?_eq_some_iff.mpr here] at located
      cases located
    refine ⟨fun failed => (nomatch failed), ?_⟩
    rintro (⟨here, _⟩ | ⟨s, declares, _⟩)
    · exact absurd here (nowhere .body)
    · exact absurd declares.location (nowhere s.location)
  | some location =>
    have here : p.At location := ParamLocation.ofName?_eq_some_iff.mp located
    -- Outside of the body, all locations are read alike.
    have elsewhere (outside : location ≠ .body) :
        (do return (read.1 ++ [← p.spec location known label], read.2)) = Except.ok next ↔
          (p.At .body ∧ read.2 = none ∧
              ∃ model, HasModel known p.schema model ∧ next = (read.1, some model)) ∨
            ∃ s, p.Declares s ∧ next = (read.1 ++ [s], read.2) := by
      rw [bind_eq_ok]
      constructor
      · rintro ⟨s, declared, done⟩
        exact .inr ⟨s, ((Parameter.spec_eq_ok_iff outside here).mp declared).2,
          (Except.ok.inj done).symm⟩
      · rintro (⟨there, _⟩ | ⟨s, declares, rfl⟩)
        · exact absurd (ParamLocation.name_injective (here.symm.trans there)) outside
        · exact ⟨s, (Parameter.spec_eq_ok_iff outside here).mpr
            ⟨declares.at_iff.mp here, declares⟩, rfl⟩
    cases location with
    | path => exact elsewhere (by decide)
    | query => exact elsewhere (by decide)
    | form => exact elsewhere (by decide)
    | body =>
      constructor
      · intro done
        dsimp only at done
        split at done
        · cases done
        · rename_i first
          split at done
          · rename_i reference given
            obtain ⟨model, resolved, done⟩ := bind_eq_ok.mp done
            exact .inl ⟨here, by simpa using first, model,
              ⟨reference, given, resolveReference_eq_ok.mp resolved⟩, (Except.ok.inj done).symm⟩
          · cases done
      · rintro (⟨_, first, model, ⟨reference, given, refers⟩, rfl⟩ | ⟨s, declares, _⟩)
        · rw [first, given]
          exact bind_eq_ok.mpr ⟨model, resolveReference_eq_ok.mpr refers, rfl⟩
        · exact absurd here declares.not_body

/-- Reading on from what is there adds what the parameters declare. There is no second body. -/
theorem foldlM_addParameter_eq_ok_iff :
    parameters.foldlM (addParameter known label) read = .ok next ↔
      ∃ specs body, Reads known parameters specs body ∧ (read.2 = none ∨ body = none) ∧
        next = (read.1 ++ specs, read.2.or body) := by
  -- On the parameters that are left, from whatever was read before them.
  induction parameters generalizing read with
  | nil =>
    constructor
    · intro done
      obtain rfl := Except.ok.inj done
      exact ⟨[], none, .nil, .inr rfl, by simp⟩
    · rintro ⟨specs, body, reads, _, rfl⟩
      cases reads
      rw [List.append_nil, Option.or_none]
      rfl
  | cons p rest ih =>
    rw [List.foldlM_cons, bind_eq_ok]
    constructor
    · rintro ⟨middle, step, later⟩
      obtain ⟨specs, body, reads, single, rfl⟩ := ih.mp later
      rcases addParameter_eq_ok_iff.mp step with
        ⟨here, first, model, has, rfl⟩ | ⟨s, declares, rfl⟩
      · obtain rfl : body = none := single.resolve_left (fun second => (nomatch second))
        exact ⟨specs, some model, .body here has reads, .inl first, by rw [first]; rfl⟩
      · exact ⟨s :: specs, body, .spec declares reads, single, by simp⟩
    · rintro ⟨specs, body, reads, single, rfl⟩
      cases reads with
      | body here has later =>
        have first : read.2 = none := single.resolve_right (fun none => (nomatch none))
        exact ⟨_, addParameter_eq_ok_iff.mpr (.inl ⟨here, first, _, has, rfl⟩),
          ih.mpr ⟨specs, none, later, .inr rfl, by rw [first]; rfl⟩⟩
      | spec declares later =>
        exact ⟨_, addParameter_eq_ok_iff.mpr (.inr ⟨_, declares, rfl⟩),
          ih.mpr ⟨_, body, later, single, by simp⟩⟩

/-- The parameters of an operation are read, unless there is a form beside a body. -/
theorem signature_eq_ok_iff : o.signature known label = .ok (specs, body) ↔
    Reads known o.parameters specs body ∧
      (body = none ∨ ∀ s ∈ specs, s.location ≠ .form) := by
  rw [signature, bind_eq_ok]
  simp only [foldlM_addParameter_eq_ok_iff, List.nil_append, Option.none_or]
  constructor
  · rintro ⟨_, ⟨specs', body', reads, _, rfl⟩, done⟩
    dsimp only at done
    split at done
    · cases done
    · rename_i unmixed
      obtain ⟨rfl, rfl⟩ := Prod.mk.inj (Except.ok.inj done)
      refine ⟨reads, ?_⟩
      cases body' with
      | none => exact .inl rfl
      | some model => exact .inr (by simpa using unmixed)
  · rintro ⟨reads, unmixed⟩
    refine ⟨_, ⟨specs, body, reads, .inl trivial, rfl⟩, ?_⟩
    have apart : ¬ (body.isSome && specs.any fun s => s.location = .form) = true := by
      rcases unmixed with rfl | none
      · simp
      · simpa using fun _ => none
    dsimp only
    rw [if_neg apart]
    rfl

namespace Reads

/-- What was declared outside of the body is of one of the parameters. -/
theorem exists_of_mem (reads : Reads known parameters specs body) {s : ParamSpec}
    (member : s ∈ specs) : ∃ p ∈ parameters, p.Declares s := by
  induction reads with
  | nil => cases member
  | body here has later ih =>
    obtain ⟨p, among, declares⟩ := ih member
    exact ⟨p, List.mem_cons_of_mem _ among, declares⟩
  | spec declares later ih =>
    rcases List.mem_cons.mp member with rfl | later
    · exact ⟨_, List.mem_cons_self, declares⟩
    · obtain ⟨p, among, declares⟩ := ih later
      exact ⟨p, List.mem_cons_of_mem _ among, declares⟩

/-- Each parameter outside of the body declares something. -/
theorem exists_declared (reads : Reads known parameters specs body) (member : p ∈ parameters)
    (outside : ¬ p.At .body) : ∃ s ∈ specs, p.Declares s := by
  induction reads with
  | nil => cases member
  | body here has later ih =>
    rcases List.mem_cons.mp member with rfl | later
    · exact absurd here outside
    · exact ih later
  | spec declares later ih =>
    rcases List.mem_cons.mp member with rfl | later
    · exact ⟨_, List.mem_cons_self, declares⟩
    · obtain ⟨s, among, declares⟩ := ih later
      exact ⟨s, List.mem_cons_of_mem _ among, declares⟩

/-- There is a model of a body when one of the parameters is a body. -/
theorem body_ne_none_iff (reads : Reads known parameters specs body) :
    body ≠ none ↔ ∃ p ∈ parameters, p.At .body := by
  induction reads with
  | nil => simp
  | body here has later ih => simp [here]
  | @spec p rest s specs body declares later ih =>
    rw [ih, List.exists_mem_cons_iff, or_iff_right declares.not_body]

/-- Of a location outside of the body, the declared parameters are those of the operation. -/
theorem exists_at_iff (reads : Reads known parameters specs body) (outside : location ≠ .body)
    (name : String) : (∃ s ∈ specs, s.location = location ∧ s.name = name) ↔
      ∃ p ∈ parameters, p.At location ∧ p.name = some name := by
  constructor
  · rintro ⟨s, member, rfl, rfl⟩
    obtain ⟨p, among, declares⟩ := reads.exists_of_mem member
    exact ⟨p, among, declares.location, declares.name⟩
  · rintro ⟨p, among, here, named⟩
    have other : ¬ p.At .body := fun there =>
      outside (ParamLocation.name_injective (here.symm.trans there))
    obtain ⟨s, member, declares⟩ := reads.exists_declared among other
    exact ⟨s, member, declares.at_iff.mp here, Option.some.inj (declares.name.symm.trans named)⟩

end Reads

theorem Reads.body_eq_none_iff (reads : Reads known parameters specs body) :
    body = none ↔ (parameters.filter fun p => p.At .body) = [] := by
  rw [← not_iff_not, ← ne_eq, reads.body_ne_none_iff, List.filter_eq_nil_iff]
  simp

/-- There is no form beside a body among what is read when there is none among the parameters. -/
theorem Reads.unmixed_iff (reads : Reads known parameters specs body) :
    (body = none ∨ ∀ s ∈ specs, s.location ≠ .form) ↔
      ((∃ p ∈ parameters, p.At .body) → ∀ p ∈ parameters, ¬ p.At .form) := by
  rw [← reads.body_ne_none_iff, ← or_iff_not_imp_left]
  refine or_congr_right ⟨fun none p member here => ?_, fun none s member here => ?_⟩
  · have outside : ¬ p.At .body := fun there =>
      absurd (ParamLocation.name_injective (here.symm.trans there)) (by decide)
    obtain ⟨s, among, declares⟩ := reads.exists_declared member outside
    exact none s among (declares.at_iff.mp here)
  · obtain ⟨p, among, declares⟩ := reads.exists_of_mem member
    exact none p among (declares.at_iff.mpr here)

/-- Parameters can be read when each of them is allowed and at most one of them is a body. -/
theorem exists_reads_iff : (∃ specs body, Reads known parameters specs body) ↔
    (∀ p ∈ parameters, p.Allowed known) ∧
      (parameters.filter fun p => p.At .body).length ≤ 1 := by
  induction parameters with
  | nil => exact ⟨fun _ => ⟨by simp, by simp⟩, fun _ => ⟨[], none, .nil⟩⟩
  | cons p rest ih =>
    constructor
    · rintro ⟨specs, body, reads⟩
      cases reads with
      | body here has later =>
        -- Behind a body, nothing was read that gives a model: there is no other one.
        obtain ⟨allowed, _⟩ := ih.mp ⟨_, _, later⟩
        refine ⟨List.forall_mem_cons.mpr ⟨.body here ⟨_, has⟩, allowed⟩, ?_⟩
        rw [List.filter_cons_of_pos (by simpa using here), later.body_eq_none_iff.mp rfl]
        exact Nat.le_refl 1
      | spec declares later =>
        obtain ⟨allowed, single⟩ := ih.mp ⟨_, _, later⟩
        refine ⟨List.forall_mem_cons.mpr ⟨declares.allowed, allowed⟩, ?_⟩
        rwa [List.filter_cons_of_neg (by simpa using declares.not_body)]
    · rintro ⟨allowed, single⟩
      obtain ⟨here, allowed⟩ := List.forall_mem_cons.mp allowed
      cases here with
      | body here modelled =>
        obtain ⟨model, has⟩ := modelled
        rw [List.filter_cons_of_pos (by simpa using here), List.length_cons] at single
        have none : (rest.filter fun p => p.At .body) = [] :=
          List.length_eq_zero_iff.mp (by omega)
        obtain ⟨specs, body, later⟩ := ih.mpr ⟨allowed, by rw [none]; exact Nat.zero_le 1⟩
        obtain rfl := later.body_eq_none_iff.mpr none
        exact ⟨specs, some model, .body here has later⟩
      | other location here named typed =>
        obtain ⟨type, typed⟩ := typed
        obtain ⟨s, declares⟩ := Parameter.exists_declares here named typed
        rw [List.filter_cons_of_neg (by simpa using declares.not_body)] at single
        obtain ⟨specs, body, later⟩ := ih.mpr ⟨allowed, single⟩
        exact ⟨s :: specs, body, .spec declares later⟩

end Operation

end ApiContract
