import ApiContract.Proofs.Model.Conformance

/-!
# What is present in what is written

An instance that passes the check of its mandatory fields is written with a member for each of
them, and `null` stands only where a nullable field was set to it. So it is at every depth, as
long as the numbers are finite: an infinity and a number that is none have no JSON of their
own and are written as `null`. No body brings such a number in, but a form does, and so does
whatever sets a field.

## Main definitions

* `ModelSet.Presents` — members and items are there as the models of a set ask for
* `Value.Finite` — the numbers of a value are finite

## Main results

* `Value.Readable.finite` — what is read from a body has finite numbers
* `Value.presents_encode_iff` — a checked value is presented when its numbers are finite
* `ModelSet.presents_toJson` — what instances that are reached are written as
-/

namespace ApiContract

/-- A value of a type and the JSON that it is written as. What is written for a scalar, or for
an item of a list, is not `null`. An object has declared members only, a member other than
`null` for each mandatory field, and `null` only for a nullable field that was set to it. -/
inductive ModelSet.Presents (s : ModelSet) : FieldType → Value → Json → Prop
  | scalar (type : FieldType) (v : Value) (json : Json) (scalar : type.isScalar)
      (atom : json.isAtom) (notNull : json ≠ .null) : Presents s type v json
  | list (element : FieldType) (items : List Value) (written : List Json)
      (length : items.length = written.length) (notNull : ∀ json ∈ written, json ≠ .null)
      (each : ∀ p ∈ items.zip written, Presents s element p.1 p.2) :
      Presents s (.list element) (.list items) (.arr written)
  | model (name : String) (m : Model) (slots : List (String × Value))
      (members : List (String × Json)) (found : s.get? name = some m)
      (declared : ∀ key ∈ Members.keys members, key ∈ m.fieldNames)
      (mandatory : ∀ f ∈ m.fields, f.presence = .mandatory →
        ∃ json, Members.lookup f.name members = some json ∧ json ≠ .null)
      (null : ∀ f ∈ m.fields, Members.lookup f.name members = some .null →
        f.presence = .nullable ∧ Members.lookup f.name slots = some .null)
      (set : ∀ f ∈ m.fields, (Members.lookup f.name members).isSome =
        (Members.lookup f.name slots).isSome)
      (each : ∀ f ∈ m.fields, ∀ v json, Members.lookup f.name slots = some v →
        Members.lookup f.name members = some json → json ≠ .null → Presents s f.type v json) :
      Presents s (.model name) (.model m slots) (.obj members)

/-- The numbers of a value are finite, at every depth. -/
inductive Value.Finite : Value → Prop
  | atom (v : Value) (atom : v.isAtom) (finite : ∀ x, v = .number x → Decimal.isFinite x) :
      Finite v
  | list (items : List Value) (each : ∀ v ∈ items, Finite v) : Finite (.list items)
  | model (m : Model) (slots : List (String × Value)) (each : ∀ p ∈ slots, Finite p.2) :
      Finite (.model m slots)

namespace Value

variable {s : ModelSet} {c : Codec} {type : FieldType} {v : Value}

/-! ### What is written as `null` -/

theorem finite_null : null.Finite := by
  refine .atom _ rfl fun x same => ?_
  cases same

theorem finite_of_encode (atom : v.isAtom) (notNull : v.encode c ≠ .null) : v.Finite := by
  refine .atom v atom fun x same => ?_
  by_contra infinite
  exact notNull (encode_eq_null_iff.mpr (.inr ⟨x, same, infinite⟩))

theorem Finite.encode_ne_null (finite : v.Finite) (given : v ≠ .null) : v.encode c ≠ .null := by
  intro null
  obtain ⟨x, rfl, infinite⟩ := (encode_eq_null_iff.mp null).resolve_left given
  cases finite with
  | atom _ _ finite => exact infinite (finite x rfl)

theorem isAtom_encode (atom : v.isAtom) : (v.encode c).isAtom := by
  cases v with
  | list => cases atom
  | model => cases atom
  | number x =>
    rw [encode, Json.ofFloat]
    split <;> rfl
  | _ => rfl

/-! ### What is written of a checked value -/

section Members

variable {m : Model} {slots : List (String × Value)}

/-- The slots of an instance are presented as members when each of them is presented and finite,
and all mandatory fields have one. -/
theorem presents_members (known : s.get? m.name = some m) (distinct : m.fieldNames.Nodup)
    (needed : ∀ f ∈ m.fields, f.presence = .mandatory → (Members.lookup f.name slots).isSome)
    (permitted : ∀ f ∈ m.fields, ∀ v, Members.lookup f.name slots = some v →
      v = .null → f.presence = .nullable)
    (finite : ∀ p ∈ slots, p.2.Finite)
    (each : ∀ f ∈ m.fields, ∀ v, Members.lookup f.name slots = some v → v ≠ .null →
      s.Presents f.type v (v.encode c)) :
    s.Presents (.model m.name) (.model m slots) (.obj (members c m slots)) := by
  refine .model m.name m slots _ known (fun _ => mem_fieldNames_of_members distinct) ?_ ?_ ?_ ?_
  · intro f member mandatory
    obtain ⟨v, held⟩ := Option.isSome_iff_exists.mp (needed f member mandatory)
    have given : v ≠ .null := by
      intro null
      have nullable := permitted f member v held null
      rw [mandatory] at nullable
      cases nullable
    refine ⟨v.encode c, by rw [lookup_members_of_mem distinct member, held]; rfl, ?_⟩
    exact (finite _ (Members.mem_of_lookup held)).encode_ne_null given
  · intro f member null
    rw [lookup_members_of_mem distinct member] at null
    obtain ⟨v, held, null⟩ := Option.map_eq_some_iff.mp null
    -- A number would have to be infinite to be written as `null`.
    have same : v = .null := by
      by_contra given
      exact (finite _ (Members.mem_of_lookup held)).encode_ne_null given null
    exact ⟨permitted f member v held same, by rw [held, same]⟩
  · intro f member
    rw [lookup_members_of_mem distinct member, Option.isSome_map]
  · intro f member v json held found notNull
    rw [lookup_members_of_mem distinct member, held] at found
    obtain rfl := Option.some.inj found
    refine each f member v held fun null => notNull ?_
    rw [null, encode]

/-- When the slots of an instance are presented as members, each slot that is not `null` is. -/
theorem presents_slot (distinct : m.fieldNames.Nodup)
    (presents : s.Presents (.model m.name) (.model m slots) (.obj (members c m slots))) {f : Field}
    (member : f ∈ m.fields) (held : Members.lookup f.name slots = some v) (given : v ≠ .null) :
    s.Presents f.type v (v.encode c) := by
  cases presents with
  | scalar _ _ _ scalar => cases scalar
  | model _ _ _ _ _ _ _ null _ each =>
    have found : Members.lookup f.name (members c m slots) = some (v.encode c) := by
      rw [lookup_members_of_mem distinct member, held, Option.map_some]
    refine each f member v _ held found fun same => given ?_
    rw [same] at found
    exact Option.some.inj (held.symm.trans (null f member found).2)

end Members

/-- A value that passes the check is presented as its type asks for exactly when its numbers are
finite. -/
theorem presents_encode_iff (closed : s.Closed) (wellTyped : v.WellTyped) (owned : s.Owns v)
    {path : String} (valid : v.validate path = .ok ()) (fits : conforms type v) :
    s.Presents type v (v.encode c) ↔ v.Finite := by
  -- On the value; the parts of a list fit the type of its elements, and those of an instance
  -- the types of its fields.
  induction wellTyped generalizing type path with
  | atom v atom =>
    have scalar := isScalar_of_conforms atom fits
    constructor
    · intro presents
      cases presents with
      | scalar _ _ _ _ _ notNull => exact finite_of_encode atom notNull
      | list => cases atom
      | model => cases atom
    · intro finite
      exact .scalar type v _ scalar (isAtom_encode atom)
        (finite.encode_ne_null (ne_null_of_conforms fits))
  | list items notNull each ih =>
    cases owned with
    | atom _ atom => cases atom
    | list _ owned =>
      cases type with
      | list element =>
        have fits := conforms_list_iff.mp fits
        have inside : ∀ v ∈ items, s.Presents element v (v.encode c) ↔ v.Finite := by
          intro v member
          obtain ⟨_, valid⟩ := of_validateItems valid v member
          exact ih v member (owned v member) valid (fits v member)
        rw [encode, encodeItems_eq]
        constructor
        · intro presents
          cases presents with
          | scalar _ _ _ scalar => cases scalar
          | list _ _ _ _ _ each =>
            refine .list items fun v member => (inside v member).mp (each (v, v.encode c) ?_)
            rw [← List.map_prod_left_eq_zip]
            exact List.mem_map_of_mem member
        · intro finite
          cases finite with
          | atom _ atom => cases atom
          | list _ finite =>
            refine .list element items _ (List.length_map _).symm ?_ ?_
            · intro json member
              obtain ⟨v, listed, rfl⟩ := List.mem_map.mp member
              exact (finite v listed).encode_ne_null (notNull v listed)
            · rw [← List.map_prod_left_eq_zip]
              intro p member
              obtain ⟨v, listed, rfl⟩ := List.mem_map.mp member
              exact (inside v listed).mpr (finite v listed)
      | _ => cases fits
  | model m slots sorted permitted each ih =>
    cases owned with
    | atom _ atom => cases atom
    | model _ _ known owned =>
      cases type with
      | model name =>
        obtain rfl : m.name = name := eq_of_beq fits
        have distinct := (closed m (ModelSet.get?_eq_some known).1).distinct
        have passes := of_validate_model valid
        have holds : ∀ f ∈ m.fields, ∀ v, Members.lookup f.name slots = some v →
            (v = .null → f.presence = .nullable) ∧
              (v ≠ .null → (s.Presents f.type v (v.encode c) ↔ v.Finite)) := by
          intro f member v held
          have inside := Members.mem_of_lookup held
          obtain ⟨null, fits⟩ := (permitted _ inside).of_mem distinct member
          obtain ⟨place, valid⟩ := (passes f member).1 v held
          exact ⟨null, fun given => ih _ inside (owned _ inside) valid (fits given)⟩
        rw [encode_model]
        constructor
        · intro presents
          refine .model m slots fun p member => ?_
          by_cases null : p.2 = .null
          · rw [null]
            exact finite_null
          · obtain ⟨f, found, _⟩ := permitted p member
            obtain ⟨listed, name⟩ := Model.field?_eq_some found
            have held : Members.lookup f.name slots = some p.2 :=
              name ▸ Members.lookup_of_mem sorted.nodup_keys member
            exact ((holds f listed p.2 held).2 null).mp
              (presents_slot distinct presents listed held null)
        · intro finite
          cases finite with
          | atom _ atom => cases atom
          | model _ _ finite =>
            refine presents_members known distinct (fun f member => (passes f member).2)
              (fun f member v held => (holds f member v held).1) finite ?_
            intro f member v held given
            exact ((holds f member v held).2 given).mpr (finite _ (Members.mem_of_lookup held))
      | _ => cases fits

/-- What is read from a body has finite numbers only. -/
theorem Readable.finite (readable : Readable s type v) : v.Finite := by
  induction readable with
  | number x finite =>
    refine .atom _ rfl fun y same => ?_
    obtain rfl := number.inj same
    exact finite
  | list element items _ ih => exact .list items ih
  | model name m slots _ sorted declared _ _ _ ih =>
    refine .model m slots fun p member => ?_
    have held := Members.lookup_of_mem sorted.nodup_keys member
    by_cases null : p.2 = .null
    · rw [null]
      exact finite_null
    · -- A slot that is held is that of a declared field.
      have named : p.1 ∈ m.fieldNames := by
        by_contra absent
        rw [declared p.1 absent] at held
        cases held
      obtain ⟨f, listed, name⟩ := List.mem_map.mp named
      exact ih f listed p.2 (name ▸ held) null
  | _ =>
    refine .atom _ rfl fun x same => ?_
    cases same

end Value

/-- An instance of a compiled set that is reached by reading, setting and unsetting, and that
passes the check, is presented in what any codec writes exactly when its numbers are finite: all
mandatory members are there and not `null`, only fields that were set to `null` are `null`, no
item of a list is, and no member is undeclared, at every depth. What is read from a body has
finite numbers. -/
theorem ModelSet.presents_toJson {api : String} {definitions : List (String × Definition)}
    {s : ModelSet} (compiled : compileModels api definitions = .ok s) :
    (∀ (c : Codec) (i : Instance), s.Reaches i → i.validate = .ok () →
        (s.Presents (.model i.model.name) (Value.ofInstance i) (i.toJson c) ↔
          (Value.ofInstance i).Finite)) ∧
      ∀ (c : Codec) (name : String) (json : Json) (i : Instance), json.WellFormed →
        s.decode c name json = .ok i →
          s.Presents (.model i.model.name) (Value.ofInstance i) (i.toJson c) := by
  have closed := (compileModels_closed compiled).1
  have distinct : ∀ m ∈ s.models, m.fieldNames.Nodup := fun m member => (closed m member).distinct
  have exact : ∀ (c : Codec) (i : Instance), s.Reaches i → i.validate = .ok () →
      (s.Presents (.model i.model.name) (Value.ofInstance i) (i.toJson c) ↔
        (Value.ofInstance i).Finite) := fun c i reached valid =>
    Value.presents_encode_iff closed (reached.wellTyped distinct) (owns_of_reaches closed reached)
      valid (beq_self_eq_true i.model.name)
  refine ⟨exact, fun c name json i wellFormed read => ?_⟩
  have readable := readable_of_readValue closed wellFormed (decode_eq_ok_iff.mp read)
  have valid := (decode_sound distinct read).valid "$"
  exact (exact c i (.decoded c name json i read) valid).mpr readable.finite

/-! ### Readings -/

/-- The declaration of readings, each of which has a value, and of series of them. -/
def readingDefinitions : List (String × Definition) :=
  [("Reading", { properties := [
      ("value", .mk (some "number") none none none none true false none),
      ("note", .mk (some "string") none none none none false true none)] }),
    ("Series", { properties := [("readings", .mk (some "array") none none none
      (some (.mk none none (some "#/definitions/Reading") none none false false none))
      true false none)] })]

/-- The model of readings. -/
def reading : Model where
  name := "Reading"
  api := "lab"
  fields := [⟨"value", .number, .mandatory, none, false⟩, ⟨"note", .string, .nullable, none, false⟩]

/-- The models of readings and of series of them. -/
def readings : ModelSet :=
  ⟨"lab", [reading,
    { name := "Series", api := "lab",
      fields := [⟨"readings", .list (.model "Reading"), .mandatory, none, false⟩] }]⟩

theorem compileModels_readings : compileModels "lab" readingDefinitions = .ok readings := by
  have needs : dependencies readingDefinitions =
      .ok [("Reading", []), ("Series", ["Reading"])] := rfl
  have order : orderModels readingDefinitions = .ok ["Reading", "Series"] := by
    rw [orderModels, needs]
    simp [bind, Except.bind, placeAll, placeReady]
  rw [compileModels, order]
  rfl

/-- A body for a series of two readings, one of them with a note that is `null`. -/
def seriesBody : Json :=
  .obj [("readings", .arr [.obj [("note", .null), ("value", .int 3)], .obj [("value", .int (-7))]])]

theorem wellFormed_seriesBody : seriesBody.WellFormed := by
  refine .obj _ (by unfold Members.Sorted; decide) ?_
  simp only [List.forall_mem_cons]
  refine ⟨.arr _ ?_, List.forall_mem_nil _⟩
  simp only [List.forall_mem_cons]
  refine ⟨.obj _ (by unfold Members.Sorted; decide) ?_,
    .obj _ (by unfold Members.Sorted; decide) ?_, List.forall_mem_nil _⟩
  · simp only [List.forall_mem_cons]
    exact ⟨.null, .int 3 (by decide), List.forall_mem_nil _⟩
  · simp only [List.forall_mem_cons]
    exact ⟨.int (-7) (by decide), List.forall_mem_nil _⟩

/-- The reading of two and a half. -/
def mildReading : Instance := ⟨reading, [("value", .number (Float.ofBits 0x4004000000000000))]⟩

/-- A form is read as the mild reading, which is presented in what is written, and so is a series
that is read from a body. -/
theorem ModelSet.presents_toJson_readings :
    compileModels "lab" readingDefinitions = .ok readings ∧
      readings.decodeForm {} "Reading" (.obj [("value", .str "2.5")]) [] = .ok mildReading ∧
      mildReading.validate = .ok () ∧
      readings.Presents (.model "Reading") (Value.ofInstance mildReading)
        (mildReading.toJson .default) ∧
      seriesBody.WellFormed ∧ ∃ i, readings.decode {} "Series" seriesBody = .ok i ∧
        readings.Presents (.model i.model.name) (Value.ofInstance i) (i.toJson .default) := by
  have read : readings.decodeForm {} "Reading" (.obj [("value", .str "2.5")]) [] =
      .ok mildReading := rfl
  have finite : (Value.ofInstance mildReading).Finite := by
    refine .model _ _ fun p member => ?_
    obtain rfl := List.mem_singleton.mp member
    refine .atom _ rfl fun x same => ?_
    obtain rfl := Value.number.inj same
    rfl
  have decodes : (readings.decode {} "Series" seriesBody).toOption.isSome := by decide +kernel
  obtain ⟨i, found⟩ := Option.isSome_iff_exists.mp decodes
  obtain ⟨reached, bodies⟩ := presents_toJson compileModels_readings
  exact ⟨compileModels_readings, read, rfl,
    (reached .default mildReading (.decodedForm {} "Reading" _ [] _ read) rfl).mpr finite,
    wellFormed_seriesBody, i, toOption_eq_some.mp found,
    bodies .default "Series" seriesBody i wellFormed_seriesBody (toOption_eq_some.mp found)⟩

/-- The reading of a value that is no number. -/
def blindReading : Instance := ⟨reading, [("value", .number Decimal.notANumber)]⟩

/-- A form gives the mandatory value as `NaN`. The reading passes the check, and is written with
`null` for the value, under a mandatory field that was not set to it. -/
theorem ModelSet.toJson_blindReading :
    compileModels "lab" readingDefinitions = .ok readings ∧
      readings.decodeForm {} "Reading" (.obj [("value", .str "NaN")]) [] = .ok blindReading ∧
      blindReading.validate = .ok () ∧
      blindReading.get? "value" = some (.number Decimal.notANumber) ∧
      blindReading.toJson .default = .obj [("value", .null)] ∧
      ¬ readings.Presents (.model "Reading") (Value.ofInstance blindReading)
        (blindReading.toJson .default) := by
  have written : blindReading.toJson .default = .obj [("value", .null)] := rfl
  refine ⟨compileModels_readings, rfl, rfl, rfl, written, fun presents => ?_⟩
  rw [written] at presents
  cases presents with
  | scalar _ _ _ scalar => cases scalar
  | model _ _ _ _ _ _ mandatory =>
    obtain ⟨json, found, notNull⟩ := mandatory _ List.mem_cons_self rfl
    exact notNull (Option.some.inj found).symm

end ApiContract
