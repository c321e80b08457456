import ApiContract.Proofs.Fallible
import ApiContract.Proofs.Members
import ApiContract.Request.Context
import ApiContract.Request.Params

/-!
# The values of parameters

Every declared parameter is read from its own place, and takes its default where there is no
text. What is read of different places comes together under the names of the parameters: of
several parameters of one name, the last that has a value counts.

## Main definitions

* `ParamSpec.text?` — the text at the place of a parameter
* `ParamSpec.Holds` — the value that a parameter has for a request
* `ParamSources.ofRequest` — the places of one request

## Main results

* `Urlencoded.lookup_query` — the first value of a name in a query counts
* `ParamSpec.holds_of_extract` — a parameter has the value of its own place
* `lookup_extractParams` — the value that is found under a name
* `exists_extractParams_iff` — when the parameters can be read
-/

namespace ApiContract

/-! ### Queries -/

namespace Urlencoded

private theorem lookup_foldl_insertNew (name : String) (pairs fields : List (String × String)) :
    Members.lookup name (pairs.foldl (fun fields p => Members.insertNew p.1 p.2 fields) fields) =
      (Members.lookup name fields).or (Members.lookup name pairs) := by
  induction pairs generalizing fields with
  | nil => simp
  | cons p rest ih =>
    rw [List.foldl_cons, ih, Members.lookup_insertNew, Option.or_assoc, Members.lookup_cons]
    congr 1
    split <;> rfl

/-- The first value of a name counts. -/
theorem lookup_query (name : String) (q : Option String) :
    Members.lookup name (query q) = Members.lookup name (pairs (Utf8.encode (q.getD ""))) := by
  rw [query, fields, lookup_foldl_insertNew, Members.lookup_nil, Option.none_or]

end Urlencoded

/-- The places that the parameters of a request are read from. -/
def ParamSources.ofRequest (ctx : RequestContext) (payload : Option Payload) : ParamSources where
  path := ctx.pathParams
  query := (Urlencoded.query ctx.query).map fun p => (p.1, Json.str p.2)
  payload := payload

namespace ParamSpec

variable {p : ParamSpec} {ctx : RequestContext} {payload : Option Payload}
  {source : ExtractionSource} {raw? : Option String} {v? : Option Value}

/-! ### The value of one parameter -/

/-- The text at the place of a parameter: the segment of the path, percent-decoded, the first
value in the query, or the field of the form that is a text, a number or a truth value. -/
def text? (p : ParamSpec) (ctx : RequestContext) (payload : Option Payload) : Option String :=
  match p.location with
  | .path => (Members.lookup p.name ctx.pathParams).bind fun raw => (Percent.decode raw).toOption
  | .query => Members.lookup p.name (Urlencoded.pairs (Utf8.encode (ctx.query.getD "")))
  | .form => (payload.bind fun b => b.fields.member? p.name).bind Json.plainText?
  | .body => none

/-- The file that was uploaded for a parameter. -/
def upload? (p : ParamSpec) (payload : Option Payload) : Option (List UInt8) :=
  payload.bind fun b => Members.lookup p.name b.files

/-- The text of a default that is a text, a number or a truth value. -/
def defaultText? (p : ParamSpec) : Option String :=
  p.default.bind Json.plainText?

/-- The value that a parameter has for a request: what the text at its place stands for, or
else its default; no value, when it is optional and has neither. A file is the one that was
uploaded, and has no value when it is optional and was not: no default stands for a file. -/
inductive Holds (p : ParamSpec) (ctx : RequestContext) (payload : Option Payload) :
    Option Value → Prop
  | given (raw : String) (v : Value) (plain : p.isFile = false)
      (found : p.text? ctx payload = some raw) (read : Value.readScalar p.type raw = .ok v) :
      Holds p ctx payload (some v)
  | default (raw : String) (v : Value) (plain : p.isFile = false)
      (absent : p.text? ctx payload = none) (declared : p.defaultText? = some raw)
      (read : Value.readScalar p.type raw = .ok v) : Holds p ctx payload (some v)
  | nothing (plain : p.isFile = false) (absent : p.text? ctx payload = none)
      (undeclared : p.defaultText? = none) (optional : p.required = false) :
      Holds p ctx payload none
  | uploaded (content : List UInt8) (file : p.isFile = true)
      (found : p.upload? payload = some content) : Holds p ctx payload (some (.bytes content))
  | notUploaded (file : p.isFile = true) (absent : p.upload? payload = none)
      (optional : p.required = false) : Holds p ctx payload none

theorem coerce_eq_ok_iff {raw : String} {v : Value} :
    p.coerce source raw = .ok v ↔ Value.readScalar p.type raw = .ok v := by
  rw [coerce]
  cases Value.readScalar p.type raw with
  | ok w => simp
  | error details => simp

/-- What `orDefault` gives is held by a parameter with that text. -/
theorem holds_of_orDefault (source : ExtractionSource) (plain : p.isFile = false)
    (ok : p.orDefault source (p.text? ctx payload) = .ok v?) : p.Holds ctx payload v? := by
  rw [orDefault] at ok
  cases found : p.text? ctx payload with
  | some raw =>
    rw [found] at ok
    obtain ⟨v, read, rfl⟩ := map_eq_ok.mp ok
    exact .given raw v plain found (coerce_eq_ok_iff.mp read)
  | none =>
    rw [found, Option.orElse_none] at ok
    cases declared : p.defaultText? with
    | some raw =>
      rw [defaultText?] at declared
      rw [declared] at ok
      obtain ⟨v, read, rfl⟩ := map_eq_ok.mp ok
      exact .default raw v plain found declared (coerce_eq_ok_iff.mp read)
    | none =>
      rw [defaultText?] at declared
      rw [declared] at ok
      cases required : p.required with
      | true =>
        rw [required] at ok
        cases ok
      | false =>
        rw [required] at ok
        obtain rfl := Except.ok.inj ok
        exact .nothing plain found declared required

theorem holds_of_fromPath (here : p.location = .path) {v : Value}
    (ok : p.fromPath ctx.pathParams = .ok v) : p.Holds ctx payload (some v) := by
  have plain : p.isFile = false := by simp [isFile, here]
  rw [fromPath] at ok
  cases found : Members.lookup p.name ctx.pathParams with
  | none =>
    rw [found] at ok
    cases ok
  | some raw =>
    rw [found] at ok
    dsimp only at ok
    cases decoded : Percent.decode raw with
    | error fault =>
      rw [decoded] at ok
      cases ok
    | ok text =>
      rw [decoded] at ok
      refine .given text v plain ?_ (coerce_eq_ok_iff.mp ok)
      rw [text?, here]
      dsimp only
      rw [found, Option.bind_some, decoded]
      rfl

theorem holds_of_fromFiles (file : p.isFile = true) (ok : p.fromFiles payload = .ok v?) :
    p.Holds ctx payload v? := by
  rw [fromFiles] at ok
  cases found : p.upload? payload with
  | some content =>
    rw [upload?] at found
    rw [found] at ok
    obtain rfl := Except.ok.inj ok
    exact .uploaded content file found
  | none =>
    rw [upload?] at found
    rw [found] at ok
    cases required : p.required with
    | true =>
      rw [required] at ok
      cases ok
    | false =>
      rw [required] at ok
      obtain rfl := Except.ok.inj ok
      exact .notUploaded file found required

/-- The field that a query gives as JSON, as text. -/
private theorem queryText_eq (name : String) (q : Option String) :
    (Members.lookup name ((Urlencoded.query q).map fun p => (p.1, Json.str p.2))).bind
        Json.plainText? =
      Members.lookup name (Urlencoded.pairs (Utf8.encode (q.getD ""))) := by
  rw [Members.lookup_map fun _ s => Json.str s, Urlencoded.lookup_query]
  cases Members.lookup name (Urlencoded.pairs (Utf8.encode (q.getD ""))) <;> rfl

theorem extract_of_query (here : p.location = .query) :
    p.extract (.ofRequest ctx payload) = p.orDefault .query (p.text? ctx payload) := by
  rw [extract, text?, here]
  dsimp only [ParamSources.ofRequest]
  rw [queryText_eq]

theorem extract_of_field (here : p.location = .form) (plain : p.isFile = false) :
    p.extract (.ofRequest ctx payload) = p.orDefault .form (p.text? ctx payload) := by
  rw [extract, text?, here, plain]
  rfl

theorem extract_of_file (here : p.location = .form) (file : p.isFile = true) :
    p.extract (.ofRequest ctx payload) = p.fromFiles payload := by
  rw [extract, here, file]
  rfl

/-- A body matters to the parameters in forms only. -/
theorem extract_of_payload {other : Option Payload} (same : p.location = .form → payload = other) :
    p.extract (.ofRequest ctx payload) = p.extract (.ofRequest ctx other) := by
  cases here : p.location with
  | form => rw [same here]
  | path | query | body => simp only [extract, here, ParamSources.ofRequest]

/-- A parameter has the value of its own place. -/
theorem holds_of_extract (outside : p.location ≠ .body)
    (ok : p.extract (.ofRequest ctx payload) = .ok v?) : p.Holds ctx payload v? := by
  cases here : p.location with
  | path =>
    rw [extract, here] at ok
    obtain ⟨v, read, rfl⟩ := map_eq_ok.mp ok
    exact holds_of_fromPath here read
  | query =>
    have plain : p.isFile = false := by simp [isFile, here]
    rw [extract_of_query here] at ok
    exact holds_of_orDefault .query plain ok
  | form =>
    cases file : p.isFile with
    | true =>
      rw [extract_of_file here file] at ok
      exact holds_of_fromFiles file ok
    | false =>
      rw [extract_of_field here file] at ok
      exact holds_of_orDefault .form file ok
  | body => exact absurd here outside

/-- A parameter that must be given has a value. -/
theorem Holds.isSome_of_required (holds : p.Holds ctx payload v?) (required : p.required = true) :
    v?.isSome := by
  cases holds with
  | given => rfl
  | default => rfl
  | uploaded => rfl
  | nothing _ _ _ optional =>
    rw [required] at optional
    cases optional
  | notUploaded _ _ optional =>
    rw [required] at optional
    cases optional

end ParamSpec

/-! ### The values of all parameters -/

/-- The value of a parameter, if it has one and can be read. -/
def ParamSpec.value? (p : ParamSpec) (sources : ParamSources) : Option Value :=
  (p.extract sources).toOption.join

section Extract

variable {specs : List ParamSpec} {sources : ParamSources} {values : List (String × Value)}

/-- Of several parameters of one name, the last that has a value. -/
def lastValue? (specs : List ParamSpec) (sources : ParamSources) (name : String) : Option Value :=
  specs.reverse.findSome? fun p => if p.name = name then p.value? sources else none

/-- What is found under a name is the value of a parameter of that name. -/
theorem exists_of_lastValue? {name : String} {v : Value}
    (found : lastValue? specs sources name = some v) :
    ∃ p ∈ specs, p.name = name ∧ p.value? sources = some v := by
  obtain ⟨p, member, here⟩ := List.exists_of_findSome?_eq_some found
  obtain ⟨same, value⟩ := Option.ite_none_right_eq_some.mp here
  exact ⟨p, List.mem_reverse.mp member, same, value⟩

/-- Something is found under the name of a parameter that has a value. -/
theorem isSome_lastValue? {p : ParamSpec} (member : p ∈ specs)
    (some : (p.value? sources).isSome) : (lastValue? specs sources p.name).isSome := by
  rw [lastValue?, List.findSome?_isSome_iff]
  exact ⟨p, List.mem_reverse.mpr member, by rwa [if_pos rfl]⟩

/-- Under a name that no other parameter has, the value of the parameter is found. -/
theorem lastValue?_eq_value? {p : ParamSpec} (member : p ∈ specs)
    (unique : ∀ q ∈ specs, q.name = p.name → q = p) :
    lastValue? specs sources p.name = p.value? sources := by
  cases found : lastValue? specs sources p.name with
  | some v =>
    obtain ⟨q, other, same, value⟩ := exists_of_lastValue? found
    rw [← value, unique q other same]
  | none =>
    cases value : p.value? sources with
    | none => rfl
    | some v =>
      have there := isSome_lastValue? member (by rw [value]; rfl)
      rw [found] at there
      cases there

/-- One more parameter is read into the values. -/
private def extractNext (sources : ParamSources) (values : List (String × Value))
    (p : ParamSpec) : Except ExtractionError (List (String × Value)) := do
  match ← p.extract sources with
  | some v => return Members.put p.name v values
  | none => return values

private theorem extractNext_eq_ok_iff {p : ParamSpec} {before after : List (String × Value)} :
    extractNext sources before p = .ok after ↔ ∃ v?, p.extract sources = .ok v? ∧
      after = v?.elim before fun v => Members.put p.name v before := by
  rw [extractNext, bind_eq_ok]
  refine exists_congr fun v? => and_congr_right fun _ => ?_
  cases v? with
  | none => exact ⟨fun done => (Except.ok.inj done).symm, fun same => congrArg _ same.symm⟩
  | some v => exact ⟨fun done => (Except.ok.inj done).symm, fun same => congrArg _ same.symm⟩

private theorem foldlM_extractNext (before : List (String × Value))
    (ok : specs.foldlM (extractNext sources) before = .ok values) :
    (∀ p ∈ specs, ∃ v?, p.extract sources = .ok v?) ∧
      (∀ name, Members.lookup name values =
        (lastValue? specs sources name).or (Members.lookup name before)) ∧
      ((Members.keys before).Nodup → (Members.keys values).Nodup) := by
  induction specs generalizing before with
  | nil =>
    obtain rfl := Except.ok.inj ok
    exact ⟨fun p member => (nomatch member), fun name => rfl, id⟩
  | cons p rest ih =>
    rw [List.foldlM_cons] at ok
    obtain ⟨next, first, ok⟩ := bind_eq_ok.mp ok
    obtain ⟨v?, read, rfl⟩ := extractNext_eq_ok_iff.mp first
    obtain ⟨all, found, distinct⟩ := ih _ ok
    have value : p.value? sources = v? := by rw [ParamSpec.value?, read]; rfl
    refine ⟨fun q member => ?_, fun name => ?_, fun once => distinct ?_⟩
    · rcases List.mem_cons.mp member with rfl | later
      · exact ⟨v?, read⟩
      · exact all q later
    · -- What is read later counts more than this value, and this one more than earlier ones.
      rw [found name, lastValue?, lastValue?, List.reverse_cons, List.findSome?_append,
        Option.or_assoc]
      congr 1
      rw [List.findSome?_singleton, value]
      cases v? with
      | none => simp
      | some v =>
        rw [Option.elim_some, Members.lookup_put]
        split <;> rfl
    · cases v? with
      | none => exact once
      | some v => exact Members.nodup_keys_put once

/-- The values of the parameters: each of them can be read, and under each name the value of the
last parameter of that name which has one is found. -/
theorem lookup_extractParams (ok : extractParams specs sources = .ok values) :
    (∀ p ∈ specs, ∃ v?, p.extract sources = .ok v?) ∧
      (∀ name, Members.lookup name values = lastValue? specs sources name) ∧
      (Members.keys values).Nodup := by
  obtain ⟨all, found, distinct⟩ := foldlM_extractNext [] ok
  refine ⟨all, fun name => ?_, distinct List.nodup_nil⟩
  rw [found name, Members.lookup_nil, Option.or_none]

/-- The parameters can be read when each of them can. -/
theorem exists_extractParams_iff : (∃ values, extractParams specs sources = .ok values) ↔
    ∀ p ∈ specs, ∃ v?, p.extract sources = .ok v? := by
  refine ⟨fun ⟨values, read⟩ => (lookup_extractParams read).1, fun each => ?_⟩
  have onward (before : List (String × Value)) :
      ∃ values, specs.foldlM (extractNext sources) before = .ok values := by
    induction specs generalizing before with
    | nil => exact ⟨before, rfl⟩
    | cons p rest ih =>
      obtain ⟨⟨v?, read⟩, later⟩ := List.forall_mem_cons.mp each
      obtain ⟨values, done⟩ := ih later _
      rw [List.foldlM_cons]
      exact ⟨values, bind_eq_ok.mpr ⟨_, extractNext_eq_ok_iff.mpr ⟨v?, read, rfl⟩, done⟩⟩
  exact onward []

end Extract

end ApiContract
