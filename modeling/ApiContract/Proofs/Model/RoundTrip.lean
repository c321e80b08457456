import ApiContract.Json.Write
import ApiContract.Proofs.Decimal.Finite
import ApiContract.Proofs.Model.Reading
import ApiContract.Proofs.Model.Truncation
import ApiContract.Proofs.Text.Utf8

/-!
# Writing what was read and reading it again

An instance that was read from a JSON body can be written, and what is written is read as the
same instance, save that timestamps lose what is finer than a microsecond. The body itself
need not come back: members that are `null` or undeclared may be dropped, and a whole number
in the place of a float becomes one.

## Main definitions

* `Value.Readable` — the values that reading gives, by the type that they are read as

## Main results

* `ModelSet.readable_of_readValue` — what is read is readable
* `ModelSet.readValue_encode_list`, `ModelSet.readValue_encode_model` — lists and instances are
  read from what they are written as when their parts are
* `ModelSet.readValue_encode` — what is readable is read from what it is written as
* `ModelSet.decode_roundTrip` — bodies are read, written and read again
-/

namespace ApiContract

/-- The values of a type that reading gives. A slot holds `null` where the field is nullable,
and every mandatory field has one. -/
inductive Value.Readable (s : ModelSet) : FieldType → Value → Prop
  | bool (b : Bool) : Readable s .bool (.bool b)
  | integer (n : Int64) : Readable s .integer (.integer n)
  | number (x : Float) (finite : Decimal.isFinite x) : Readable s .number (.number x)
  | string (text : String) : Readable s .string (.string text)
  | timestamp (t : Instant) (inRange : t.date.InRange) : Readable s .timestamp (.timestamp t)
  | bytes (text : String) : Readable s .bytes (.bytes (Utf8.encode text))
  | oneOf (allowed : List String) (text : String) (member : allowed.contains text) :
      Readable s (.oneOf allowed) (.string text)
  | list (element : FieldType) (items : List Value) (each : ∀ v ∈ items, Readable s element v) :
      Readable s (.list element) (.list items)
  | model (name : String) (m : Model) (slots : List (String × Value))
      (found : s.get? name = some m) (sorted : Members.Sorted slots)
      (declared : ∀ key, key ∉ m.fieldNames → Members.lookup key slots = none)
      (mandatory : ∀ f ∈ m.fields, Members.lookup f.name slots = none → f.presence ≠ .mandatory)
      (nullable : ∀ f ∈ m.fields, Members.lookup f.name slots = some .null →
        f.presence = .nullable)
      (each : ∀ f ∈ m.fields, ∀ v, Members.lookup f.name slots = some v → v ≠ .null →
        Readable s f.type v) : Readable s (.model name) (.model m slots)

theorem Value.Readable.ne_null {s : ModelSet} {type : FieldType} {v : Value}
    (readable : Readable s type v) : v ≠ .null := by
  rintro rfl
  cases readable

theorem Decimal.isInt64_toInt (n : Int64) : isInt64 n.toInt := by
  have least := n.le_toInt
  have most := n.toInt_lt
  simp [isInt64]
  omega

namespace ModelSet

variable {s : ModelSet} {c : Codec} {type : FieldType} {path : String} {v : Value}

/-! ### What is read is readable -/

private theorem readable_of_strictScalar {json : Json} (wellFormed : json.WellFormed)
    (ok : strictScalar? json type = some v) : Value.Readable s type v := by
  cases type with
  | model name => cases ok
  | list element => cases ok
  | bool =>
    obtain ⟨b, _, rfl⟩ := Option.map_eq_some_iff.mp ok
    exact .bool b
  | integer =>
    obtain ⟨n, _, rfl⟩ := Option.map_eq_some_iff.mp ok
    exact .integer n
  | number =>
    -- A whole number is within range of the floats, and any other one is finite as read.
    obtain ⟨x, found, rfl⟩ := Option.map_eq_some_iff.mp ok
    refine .number x ?_
    cases wellFormed with
    | int n fits =>
      rw [← Option.some.inj found]
      exact Decimal.isFinite_ofInt fits
    | float y finite =>
      rw [← Option.some.inj found]
      exact finite
    | _ => cases found
  | string =>
    obtain ⟨text, _, rfl⟩ := Option.map_eq_some_iff.mp ok
    exact .string text
  | timestamp =>
    obtain ⟨t, found, rfl⟩ := Option.map_eq_some_iff.mp ok
    obtain ⟨text, _, read⟩ := Option.bind_eq_some_iff.mp found
    exact .timestamp t (Instant.inRange_of_read? read)
  | bytes =>
    obtain ⟨text, _, rfl⟩ := Option.map_eq_some_iff.mp ok
    exact .bytes text
  | oneOf allowed =>
    obtain ⟨text, _, ok⟩ := Option.bind_eq_some_iff.mp ok
    split at ok
    · rename_i member
      obtain rfl := Option.some.inj ok
      exact .oneOf allowed text member
    · cases ok

/-- What a field is filled with, by what its member was. -/
private theorem readable_of_fills {f : Field} {place : String} {json? : Option Json}
    {v? : Option Value} (each : ∀ json ∈ json?, ∀ v,
      readValue s c .strict json f.type place = .ok v → Value.Readable s f.type v)
    (fills : Fills s c .strict f place false json? v?) :
    (v? = none → f.presence ≠ .mandatory) ∧ (v? = some .null → f.presence = .nullable) ∧
      ∀ v, v? = some v → v ≠ .null → Value.Readable s f.type v := by
  cases fills with
  | absent known =>
    refine ⟨fun _ mandatory => ?_, by simp, by simp⟩
    cases known mandatory
  | nulled nullable =>
    exact ⟨by simp, fun _ => nullable,
      fun v same notNull => absurd (Option.some.inj same).symm notNull⟩
  | skipped optional => simp [optional]
  | read json v given reads =>
    have readable := each json rfl v reads
    refine ⟨by simp, fun same => ?_, fun u same _ => ?_⟩
    · exact absurd (Option.some.inj same) readable.ne_null
    · rwa [← Option.some.inj same]

/-- What is read strictly is readable. -/
theorem readable_of_readValue (closed : s.Closed) {json : Json} (wellFormed : json.WellFormed) :
    ∀ {type path v}, readValue s c .strict json type path = .ok v → Value.Readable s type v := by
  -- On the parts of the JSON value: the type changes from part to part, and stays free.
  induction json using Json.parts_induction with
  | atom json atom =>
    intro type path v ok
    rw [readValue_atom atom, readAtom_strict_eq_ok_iff] at ok
    exact readable_of_strictScalar wellFormed ok
  | arr items ih =>
    intro type path v ok
    rw [readValue] at ok
    cases type with
    | list element =>
      obtain ⟨vs, read, rfl⟩ := map_eq_ok.mp ok
      cases wellFormed with
      | arr _ each =>
        refine .list element vs fun v member => ?_
        obtain ⟨item, listed, place, reads⟩ := exists_of_mem_readItems read member
        exact ih item listed (each item listed) reads
    | _ => exact readable_of_strictScalar wellFormed (readAtom_strict_eq_ok_iff.mp ok)
  | obj members ih =>
    intro type path v ok
    cases type with
    | model name =>
      obtain ⟨_, m, i, same, found, read, rfl⟩ := readValue_model_eq_ok_iff.mp ok
      obtain rfl := Json.obj.inj same
      have distinct := (closed m (get?_eq_some found).1).distinct
      obtain ⟨_, filled⟩ := (readObject_eq_ok_iff distinct Members.Sorted.nil).mp read
      obtain ⟨n, slots⟩ := i
      obtain rfl : n = m := filled.model
      cases wellFormed with
      | obj _ _ wellFormed =>
        -- The instance starts empty, so each slot holds what its member was read as.
        have slot : ∀ f ∈ n.fields,
            (Members.lookup f.name slots = none → f.presence ≠ .mandatory) ∧
              (Members.lookup f.name slots = some .null → f.presence = .nullable) ∧
                ∀ v, Members.lookup f.name slots = some v → v ≠ .null →
                  Value.Readable s f.type v := by
          intro f member
          obtain ⟨v?, read, same⟩ := filled.slots f member
          have here : Members.lookup f.name slots = v? := same.trans Option.or_none
          rw [here]
          refine readable_of_fills (fun json found v ok => ?_) (readNamed_eq_ok_iff.mp read)
          have inside := Members.mem_of_lookup found
          exact ih _ inside (wellFormed _ inside) ok
        exact .model name n slots found filled.sorted filled.others
          (fun f member => (slot f member).1) (fun f member => (slot f member).2.1)
          (fun f member => (slot f member).2.2)
    | _ =>
      rw [readValue] at ok
      exact readable_of_strictScalar wellFormed (readAtom_strict_eq_ok_iff.mp ok)

/-! ### Reading what parts are written as -/

section Parts

variable {w : Codec} {m : Model} {name : String} {slots others : List (String × Value)}
  {items : List Value} {element : FieldType} {g : Value → Value}

private theorem readItems_encode (notNull : ∀ v ∈ items, v.encode w ≠ .null)
    (each : ∀ v ∈ items, ∀ path, readValue s c .strict (v.encode w) element path = .ok (g v))
    (i : Nat) : readItems s c .strict (items.map (Value.encode w)) element path i =
      .ok (items.map g) := by
  induction items generalizing i with
  | nil => rfl
  | cons v rest ih =>
    rw [List.map_cons, List.map_cons, readItems_cons_eq_ok_iff]
    refine ⟨Json.isNull_eq_false_iff.mpr (notNull v List.mem_cons_self), _, _,
      each v List.mem_cons_self _, ?_, rfl⟩
    exact ih (fun u member => notNull u (List.mem_cons_of_mem _ member))
      (fun u member => each u (List.mem_cons_of_mem _ member)) (i + 1)

/-- A list is read from what it is written as when each of its items is. -/
theorem readValue_encode_list (notNull : ∀ v ∈ items, v.encode w ≠ .null)
    (each : ∀ v ∈ items, ∀ path, readValue s c .strict (v.encode w) element path = .ok (g v)) :
    readValue s c .strict ((Value.list items).encode w) (.list element) path =
      .ok (.list (items.map g)) := by
  rw [Value.encode, Value.encodeItems_eq, readValue]
  exact map_eq_ok.mpr ⟨_, readItems_encode notNull each 0, rfl⟩

/-- An instance is read from what it is written as when each of its fields is filled from what
its slot is written as. -/
theorem readValue_encode_model (found : s.get? name = some m) (distinct : m.fieldNames.Nodup)
    (sorted : Members.Sorted others)
    (undeclared : ∀ key, key ∉ m.fieldNames → Members.lookup key others = none)
    (slot : ∀ f ∈ m.fields, ∀ place, Fills s c .strict f place false
      ((Members.lookup f.name slots).map (Value.encode w)) (Members.lookup f.name others)) :
    readValue s c .strict ((Value.model m slots).encode w) (.model name) path =
      .ok (.model m others) := by
  rw [Value.encode_model]
  refine readValue_model_eq_ok_iff.mpr
    ⟨Value.members w m slots, m, ⟨m, others⟩, rfl, found, ?_, rfl⟩
  refine (readObject_eq_ok_iff distinct Members.Sorted.nil).mpr
    ⟨fun _ key member => ?_, ⟨rfl, sorted, fun f member => ?_, undeclared⟩⟩
  · -- Only declared fields are written, so no member is refused under any policy.
    rw [keys_memberReaders] at member
    exact Value.mem_fieldNames_of_members distinct member
  · simp only [readNamed_eq_ok_iff, Value.lookup_members_of_mem distinct member]
    exact ⟨_, slot f member _, Option.or_none.symm⟩

end Parts

/-! ### What is readable is read from what it is written as -/

variable (pattern : c.writeTimestamp = Codec.default.writeTimestamp)

include pattern in
private theorem strictScalar_encode (readable : Value.Readable s type v) (scalar : type.isScalar) :
    (v.encode c).isAtom ∧ strictScalar? (v.encode c) type = some v.truncated := by
  cases readable with
  | bool b => exact ⟨rfl, rfl⟩
  | integer n =>
    have read : (Json.int n.toInt).asInt64? = some n := by
      rw [Json.asInt64?, if_pos (Decimal.isInt64_toInt n), Int64.ofInt_toInt]
    refine ⟨rfl, ?_⟩
    rw [Value.encode, strictScalar?, read]
    rfl
  | number x finite =>
    have written : (Value.number x).encode c = .float x := by
      rw [Value.encode, Json.ofFloat, if_pos finite]
    rw [written]
    exact ⟨rfl, rfl⟩
  | string text => exact ⟨rfl, rfl⟩
  | timestamp t inRange =>
    refine ⟨rfl, ?_⟩
    have read : Instant.read? (c.writeTimestamp t) = some t.truncated := by
      rw [pattern]
      exact Instant.read?_format inRange
    rw [Value.encode, strictScalar?, Json.asStr?, Option.bind_some, read]
    rfl
  | bytes text =>
    refine ⟨rfl, ?_⟩
    rw [Value.encode, Utf8.decodeLossy_encode]
    rfl
  | oneOf allowed text member =>
    refine ⟨rfl, ?_⟩
    rw [Value.encode, strictScalar?, Json.asStr?, Option.bind_some, if_pos member]
    rfl
  | list => cases scalar
  | model => cases scalar

include pattern in
private theorem readValue_encode_scalar (readable : Value.Readable s type v)
    (scalar : type.isScalar) (path : String) :
    readValue s c .strict (v.encode c) type path = .ok v.truncated := by
  obtain ⟨atom, read⟩ := strictScalar_encode pattern readable scalar
  rw [readValue_atom atom, readAtom_strict_eq_ok_iff]
  exact read

/-- Nothing readable is written as `null`. -/
private theorem encode_ne_null (readable : Value.Readable s type v) : v.encode c ≠ .null := by
  intro null
  rcases Value.encode_eq_null_iff.mp null with same | ⟨x, rfl, infinite⟩
  · exact readable.ne_null same
  · cases readable with
    | number _ finite => exact infinite finite

include pattern in
/-- What is readable is read from what it is written as, save what is finer than a
microsecond. -/
theorem readValue_encode (closed : s.Closed) (readable : Value.Readable s type v) :
    ∀ path, readValue s c .strict (v.encode c) type path = .ok v.truncated := by
  induction readable with
  | list element items each ih =>
    intro path
    rw [Value.truncated, Value.truncatedItems_eq]
    exact readValue_encode_list (fun v member => encode_ne_null (each v member)) ih
  | model name m slots found sorted declared mandatory nullable each ih =>
    intro path
    have distinct := (closed m (get?_eq_some found).1).distinct
    refine readValue_encode_model found distinct (Value.sorted_truncatedSlots sorted)
      (fun key absent => ?_) fun f member place => ?_
    · rw [Value.lookup_truncatedSlots, declared key absent, Option.map_none]
    · rw [Value.lookup_truncatedSlots]
      cases here : Members.lookup f.name slots with
      | none => exact .absent fun needed => absurd needed (mandatory f member here)
      | some v =>
        by_cases null : v = .null
        · subst null
          exact .nulled (nullable f member here)
        · exact .read _ _ (encode_ne_null (each f member v here null)) (ih f member v here null _)
  | bool b => exact readValue_encode_scalar pattern (.bool b) rfl
  | integer n => exact readValue_encode_scalar pattern (.integer n) rfl
  | number x finite => exact readValue_encode_scalar pattern (.number x finite) rfl
  | string text => exact readValue_encode_scalar pattern (.string text) rfl
  | timestamp t inRange => exact readValue_encode_scalar pattern (.timestamp t inRange) rfl
  | bytes text => exact readValue_encode_scalar pattern (.bytes text) rfl
  | oneOf allowed text member =>
    exact readValue_encode_scalar pattern (.oneOf allowed text member) rfl

end ModelSet

/-- A body that is read as an instance of a compiled model is read again from what the
instance is written as, whatever happens to undeclared members: as the same instance, save
that timestamps lose what is finer than a microsecond, and that is written alike. -/
theorem ModelSet.decode_roundTrip {api : String} {definitions : List (String × Definition)}
    {s : ModelSet} (compiled : compileModels api definitions = .ok s)
    (unknownFields : UnknownFields) {name : String} {json : Json} (wellFormed : json.WellFormed)
    {i : Instance} (read : s.decode { unknownFields } name json = .ok i) :
    s.decode { unknownFields } name (i.toJson { unknownFields }) = .ok i.truncated ∧
      i.truncated.toJson { unknownFields } = i.toJson { unknownFields } := by
  have closed := (compileModels_closed compiled).1
  -- Reading forgets the body: what comes after only knows that the instance is readable.
  have readable := readable_of_readValue closed wellFormed (decode_eq_ok_iff.mp read)
  have pattern : ({ unknownFields } : Codec).writeTimestamp = Codec.default.writeTimestamp := rfl
  constructor
  · rw [decode_eq_ok_iff, ← Value.truncated_ofInstance]
    exact readValue_encode pattern closed readable "$"
  · rw [Instance.toJson, ← Value.truncated_ofInstance]
    exact Value.encode_truncated pattern _

/-! ### Visits of pets -/

/-- The declarations of visits, and of the pets that come. -/
def visitDefinitions : List (String × Definition) :=
  [("Visit", { properties := [
      ("at", .mk (some "datetime") none none none none true false none),
      ("note", .mk (some "string") none none none none false true none),
      ("pets", .mk (some "array") none none none
        (some (.mk none none (some "#/definitions/Pet") none none false false none))
        false false none)] }),
    ("Pet", { properties := [("born", .mk (some "date") none none none none true false none)] })]

/-- The models of visits. -/
def visits : ModelSet :=
  ⟨"clinic", [
    { name := "Pet", api := "clinic", fields := [⟨"born", .timestamp, .mandatory, none, false⟩] },
    { name := "Visit", api := "clinic", fields := [⟨"at", .timestamp, .mandatory, none, false⟩,
        ⟨"note", .string, .nullable, none, false⟩,
        ⟨"pets", .list (.model "Pet"), .optional, none, false⟩] }]⟩

/-- A visit with an undeclared member, at a time that is finer than a microsecond. -/
def visit : Json :=
  .obj [("at", .str "2024-03-01T10:20:30.123456789+02:00"), ("by", .str "Ann"), ("note", .null),
    ("pets", .arr [.obj [("born", .str "2020-02-29")]])]

theorem compileModels_visits : compileModels "clinic" visitDefinitions = .ok visits := by
  have needs : dependencies visitDefinitions = .ok [("Visit", ["Pet"]), ("Pet", [])] := rfl
  have order : orderModels visitDefinitions = .ok ["Pet", "Visit"] := by
    rw [orderModels, needs]
    simp [bind, Except.bind, placeAll, placeReady]
  rw [compileModels, order]
  rfl

theorem wellFormed_visit : visit.WellFormed := by
  refine .obj _ (by unfold Members.Sorted; decide) ?_
  simp only [List.forall_mem_cons]
  refine ⟨.str _, .str _, .null, .arr _ ?_, List.forall_mem_nil _⟩
  simp only [List.forall_mem_cons]
  refine ⟨.obj _ (by unfold Members.Sorted; decide) ?_, List.forall_mem_nil _⟩
  simp only [List.forall_mem_cons]
  exact ⟨.str _, List.forall_mem_nil _⟩

/-- The visit is read, written to the microsecond and read again. -/
theorem ModelSet.decode_roundTrip_visit :
    compileModels "clinic" visitDefinitions = .ok visits ∧ visit.WellFormed ∧
      ∃ i, visits.decode { unknownFields := .tolerate } "Visit" visit = .ok i ∧
        (i.toJson { unknownFields := .tolerate }).compact =
          "\x7b\"at\":\"2024-03-01T08:20:30.123456Z\",\"note\":null," ++
            "\"pets\":[\x7b\"born\":\"2020-02-29T00:00:00.000000Z\"\x7d]\x7d" ∧
        visits.decode { unknownFields := .tolerate } "Visit"
          (i.toJson { unknownFields := .tolerate }) = .ok i.truncated ∧
        i.truncated.toJson { unknownFields := .tolerate } =
          i.toJson { unknownFields := .tolerate } := by
  have written : (visits.decode { unknownFields := .tolerate } "Visit" visit).toOption.map
      (fun i => (i.toJson { unknownFields := .tolerate }).compact) =
        some ("\x7b\"at\":\"2024-03-01T08:20:30.123456Z\",\"note\":null," ++
          "\"pets\":[\x7b\"born\":\"2020-02-29T00:00:00.000000Z\"\x7d]\x7d") := by
    decide +kernel
  cases read : visits.decode { unknownFields := .tolerate } "Visit" visit with
  | error e =>
    rw [read] at written
    cases written
  | ok i =>
    rw [read] at written
    exact ⟨compileModels_visits, wellFormed_visit, i, rfl, Option.some.inj written,
      decode_roundTrip compileModels_visits .tolerate wellFormed_visit read⟩

end ApiContract
