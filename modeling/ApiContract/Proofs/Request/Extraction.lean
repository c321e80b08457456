import ApiContract.Proofs.Fallible
import ApiContract.Request.Params

/-!
# What refuses a request

The one extraction error that is no bad parameter tells of a body that does not arrive in
time. It belongs to receiving a request. A body that has been received may break off between
two parts or within one, and its texts may be of no use, but none of this counts as late.

## Main definitions

* `BlamesInput` — a computation that fails with bad parameters only

## Main results

* `readPayload_blamesInput` — reading a body that has been received
* `extractParams_blamesInput` — reading the values of the declared parameters
-/

namespace ApiContract

variable {α β : Type}

/-- A computation that fails with bad parameters only. -/
def BlamesInput (x : Except ExtractionError α) : Prop :=
  ∀ e, x = .error e → e.toFailure.kind = .invalidParameter

namespace BlamesInput

theorem ok (a : α) : BlamesInput (.ok a) := by
  intro e failed
  cases failed

theorem error {e : ExtractionError} (arrived : e.isDisconnect = false) :
    BlamesInput (.error e : Except ExtractionError α) := by
  intro other failed
  obtain rfl := Except.error.inj failed
  rw [ExtractionError.toFailure, arrived]
  rfl

theorem bind {x : Except ExtractionError α} {f : α → Except ExtractionError β}
    (first : BlamesInput x) (later : ∀ a, BlamesInput (f a)) : BlamesInput (x >>= f) := by
  intro e failed
  rcases bind_eq_error.mp failed with here | ⟨a, _, there⟩
  · exact first e here
  · exact later a e there

theorem map {x : Except ExtractionError α} (f : α → β) (blames : BlamesInput x) :
    BlamesInput (x.map f) := by
  intro e failed
  cases x with
  | error other => exact blames e (congrArg _ (Except.error.inj failed))
  | ok a => cases failed

theorem foldlM {step : β → α → Except ExtractionError β} {items : List α} {start : β}
    (each : ∀ b a, BlamesInput (step b a)) : BlamesInput (items.foldlM step start) := by
  intro e failed
  obtain ⟨b, a, _, here⟩ := exists_of_foldlM_error failed
  exact each b a e here

end BlamesInput

/-! ### Bodies -/

theorem Form.addPart_blamesInput (f : Form) (limits : MultipartLimits) (p : Part) :
    BlamesInput (f.addPart limits p) := by
  rw [addPart]
  by_cases large : limits.maxFieldSize < p.content.length
  · rw [if_pos large]
    exact .error rfl
  · rw [if_neg large]
    by_cases file : p.isFile
    · rw [if_pos file]
      exact .ok _
    · rw [if_neg file]
      cases Utf8.decode? p.content with
      | some text => exact .ok _
      | none => exact .error rfl

theorem readParts_blamesInput (limits : MultipartLimits) (parts : Parts) :
    ∀ (count : Nat) (f : Form), BlamesInput (readParts limits count f parts) := by
  induction parts with
  | done => exact fun count f => .ok f
  | broken => exact fun count f => .error rfl
  | cut =>
    intro count f
    rw [readParts]
    by_cases full : limits.maxFields ≤ count
    · rw [if_pos full]
      exact .error rfl
    · rw [if_neg full]
      exact .error rfl
  | part p rest ih =>
    intro count f
    rw [readParts]
    by_cases full : limits.maxFields ≤ count
    · rw [if_pos full]
      exact .error rfl
    · rw [if_neg full]
      exact (f.addPart_blamesInput limits p).bind fun g => ih (count + 1) g

theorem readMultipart_blamesInput (contentType : String) (body : List UInt8)
    (limits : MultipartLimits) : BlamesInput (readMultipart contentType body limits) := by
  rw [readMultipart]
  cases boundary? contentType with
  | none => exact .error rfl
  | some boundary => exact readParts_blamesInput limits _ 0 {}

/-- Reading a body that has been received fails with bad parameters only. -/
theorem readPayload_blamesInput (contentType : Option String) (body : List UInt8)
    (limits : MultipartLimits) : BlamesInput (readPayload contentType body limits) := by
  rw [readPayload]
  by_cases blank : body.all isBlankByte
  · rw [if_pos blank]
    exact .ok _
  · rw [if_neg blank]
    cases BodyKind.ofContentType contentType with
    | json =>
      cases (Utf8.decode? body).bind Json.read with
      | some fields => exact .ok _
      | none => exact .error rfl
    | urlencoded => exact .ok _
    | multipart => exact (readMultipart_blamesInput _ body limits).bind fun form => .ok _

/-! ### Parameters -/

namespace ParamSpec

variable (p : ParamSpec)

theorem coerce_blamesInput (source : ExtractionSource) (raw : String) :
    BlamesInput (p.coerce source raw) := by
  rw [coerce]
  cases Value.readScalar p.type raw with
  | ok v => exact .ok v
  | error details => exact .error rfl

theorem orDefault_blamesInput (source : ExtractionSource) (raw : Option String) :
    BlamesInput (p.orDefault source raw) := by
  rw [orDefault]
  cases raw.orElse fun _ => p.default.bind Json.plainText? with
  | some raw => exact (p.coerce_blamesInput source raw).map some
  | none =>
    cases p.required with
    | true => exact .error rfl
    | false => exact .ok none

theorem fromPath_blamesInput (path : List (String × String)) :
    BlamesInput (p.fromPath path) := by
  rw [fromPath]
  cases Members.lookup p.name path with
  | none => exact .error rfl
  | some raw =>
    dsimp only
    cases Percent.decode raw with
    | ok decoded => exact p.coerce_blamesInput .path decoded
    | error fault => exact .error rfl

theorem fromFiles_blamesInput (payload : Option Payload) :
    BlamesInput (p.fromFiles payload) := by
  rw [fromFiles]
  cases payload.bind fun b => Members.lookup p.name b.files with
  | some content => exact .ok _
  | none =>
    cases p.required with
    | true => exact .error rfl
    | false => exact .ok none

theorem extract_blamesInput (sources : ParamSources) : BlamesInput (p.extract sources) := by
  rw [extract]
  cases p.location with
  | path => exact (p.fromPath_blamesInput sources.path).map some
  | query => exact p.orDefault_blamesInput .query _
  | form =>
    by_cases file : p.isFile
    · simp only [file, if_true]
      exact p.fromFiles_blamesInput sources.payload
    · simp only [file, Bool.false_eq_true, if_false]
      exact p.orDefault_blamesInput .form _
  | body => exact .ok none

end ParamSpec

/-- Reading the values of the declared parameters fails with bad parameters only. -/
theorem extractParams_blamesInput (specs : List ParamSpec) (sources : ParamSources) :
    BlamesInput (extractParams specs sources) := by
  apply BlamesInput.foldlM
  intro values p
  apply (p.extract_blamesInput sources).bind
  intro value
  cases value with
  | some v => exact .ok _
  | none => exact .ok _

end ApiContract
