import ApiContract.Proofs.Decimal.Numeral
import ApiContract.Proofs.Model.Reading
import ApiContract.Request.Params

/-!
# Forms say what bodies say

A form carries the scalars of a body as plain text. Each kind of scalar is read from text by a
reader of its own, which trims blanks and knows several words for a truth value; still, what
the scalar of a body is written as is read as the same scalar.

## Main definitions

* `Json.plain` — a value as its plain text

## Main results

* `ModelSet.plainScalar?_of_strictScalar?` — scalars are read back from their plain text
* `ModelSet.decodeForm_plain` — a body and the form of its plain texts are read alike
-/

namespace ApiContract

/-- A value as its plain text; a value without one stays. -/
def Json.plain (json : Json) : Json :=
  (json.plainText?.map .str).getD json

theorem Json.plain_of_plainText? {json : Json} {text : String}
    (written : json.plainText? = some text) : json.plain = .str text := by
  rw [plain, written]
  rfl

namespace ModelSet

variable {s : ModelSet} {c : Codec} {json : Json} {type : FieldType} {v : Value}

theorem readBool?_toString (b : Bool) : Value.readBool? (toString b) = some b := by
  cases b <;> decide

/-- What a body says of a scalar, its plain text says, too, if floats are read back from their
text. -/
theorem plainScalar?_of_strictScalar?
    (readsBack : ∀ x, json = .float x → Decimal.readFloat? (Decimal.text x) = some x)
    (ok : strictScalar? json type = some v) :
    ∃ text, json.plainText? = some text ∧ plainScalar? text type = some v := by
  cases type with
  | bool =>
    obtain ⟨b, found, rfl⟩ := Option.map_eq_some_iff.mp ok
    obtain rfl := Json.asBool?_eq_some_iff.mp found
    refine ⟨toString b, rfl, ?_⟩
    rw [plainScalar?, readBool?_toString]
    rfl
  | integer =>
    obtain ⟨k, found, rfl⟩ := Option.map_eq_some_iff.mp ok
    obtain ⟨n, rfl, inRange, rfl⟩ := Json.asInt64?_eq_some_iff.mp found
    refine ⟨toString n, rfl, ?_⟩
    rw [plainScalar?, Text.trim_of_unspaced (Decimal.unspaced_toString n),
      Decimal.readInt64?_toString inRange]
    rfl
  | number =>
    obtain ⟨y, found, rfl⟩ := Option.map_eq_some_iff.mp ok
    rcases Json.exists_asFloat?_iff.mp ⟨y, found⟩ with ⟨n, rfl⟩ | ⟨x, rfl⟩
    · -- A whole number in the place of a float is rounded alike in both readers.
      obtain rfl := Option.some.inj found
      refine ⟨toString n, rfl, ?_⟩
      rw [plainScalar?, Text.trim_of_unspaced (Decimal.unspaced_toString n),
        Decimal.readFloat?_toString]
      rfl
    · obtain rfl := Option.some.inj found
      refine ⟨Decimal.text x, rfl, ?_⟩
      rw [plainScalar?, Text.trim_of_unspaced (Decimal.unspaced_text x), readsBack x rfl]
      rfl
  | string =>
    obtain ⟨text, found, rfl⟩ := Option.map_eq_some_iff.mp ok
    obtain rfl := Json.asStr?_eq_some_iff.mp found
    exact ⟨text, rfl, rfl⟩
  | bytes =>
    obtain ⟨text, found, rfl⟩ := Option.map_eq_some_iff.mp ok
    obtain rfl := Json.asStr?_eq_some_iff.mp found
    exact ⟨text, rfl, rfl⟩
  | timestamp =>
    obtain ⟨t, found, rfl⟩ := Option.map_eq_some_iff.mp ok
    obtain ⟨text, given, reads⟩ := Option.bind_eq_some_iff.mp found
    obtain rfl := Json.asStr?_eq_some_iff.mp given
    refine ⟨text, rfl, ?_⟩
    rw [plainScalar?, reads]
    rfl
  | oneOf allowed =>
    obtain ⟨text, given, found⟩ := Option.bind_eq_some_iff.mp ok
    obtain rfl := Json.asStr?_eq_some_iff.mp given
    exact ⟨text, rfl, found⟩
  | model name => cases ok
  | list element => cases ok

variable {members : List (String × Json)} {i : Instance} {f : Field}

/-- The members of a form that says what a body says. -/
abbrev plainMembers (members : List (String × Json)) : List (String × Json) :=
  members.map fun p => (p.1, p.2.plain)

theorem lookup_plainMembers (key : String) (members : List (String × Json)) :
    Members.lookup key (plainMembers members) = (Members.lookup key members).map Json.plain :=
  Members.lookup_map (fun _ json => json.plain) key members

theorem keys_plainMembers (members : List (String × Json)) :
    Members.keys (plainMembers members) = Members.keys members := by
  rw [Members.keys, List.map_map, Members.keys]
  rfl

/-- A field of a scalar type that is filled strictly is filled with what its member stands
for. -/
theorem strictScalar?_of_fills {place : String} {isSet : Bool} {v? : Option Value}
    (scalar : f.type.isScalar) (notNull : json ≠ .null)
    (fills : Fills s c .strict f place isSet (some json) v?) :
    ∃ v, strictScalar? json f.type = some v ∧ v? = some v := by
  cases fills with
  | nulled => exact absurd rfl notNull
  | skipped => exact absurd rfl notNull
  | read _ v _ reads =>
    rw [readValue_scalar scalar] at reads
    exact ⟨v, readAtom_strict_eq_ok_iff.mp reads, rfl⟩

/-- A field of a scalar type is filled leniently with what a text stands for. -/
theorem fills_of_plainScalar? {place text : String} {isSet : Bool} (scalar : f.type.isScalar)
    (stands : plainScalar? text f.type = some v) :
    Fills s c .lenient f place isSet (some (.str text)) (some v) := by
  have text : Json.str text ≠ .null := by
    intro null
    cases null
  refine .read _ v text ?_
  rw [readValue_scalar scalar]
  exact readAtom_plain_eq_ok_iff.mpr stands

/-- A body without `null` that is read strictly as an instance of a model of scalars consists of
scalars. The form of their plain texts is read as the same instance. -/
theorem decodeForm_plain {name : String} {m : Model} (found : s.get? name = some m)
    (distinct : m.fieldNames.Nodup) (scalars : ∀ f ∈ m.fields, f.type.isScalar)
    (reject : c.unknownFields = .reject)
    (notNull : ∀ key json, Members.lookup key members = some json → json ≠ .null)
    (readsBack : ∀ key x, Members.lookup key members = some (.float x) →
      Decimal.readFloat? (Decimal.text x) = some x)
    (read : s.decode c name (.obj members) = .ok i) :
    (∀ key json, Members.lookup key members = some json →
        ∃ text, json.plainText? = some text) ∧
      ∀ d : Codec, s.decodeForm d name (.obj (plainMembers members)) [] = .ok i := by
  obtain ⟨_, n, j, same, here, object, whole⟩ :=
    readValue_model_eq_ok_iff.mp (decode_eq_ok_iff.mp read)
  obtain rfl := Json.obj.inj same
  obtain rfl := ofInstance_inj whole
  obtain rfl := Option.some.inj (found.symm.trans here)
  obtain ⟨declared, filled⟩ := (readObject_eq_ok_iff distinct Members.Sorted.nil).mp object
  -- What a member stands for in the body, its text stands for in the form.
  have stands : ∀ f ∈ m.fields, ∀ json, Members.lookup f.name members = some json →
      ∃ text v, json.plainText? = some text ∧ plainScalar? text f.type = some v ∧
        j.get? f.name = some v := by
    intro f member json held
    obtain ⟨v?, ok, slot⟩ := filled.slots f member
    rw [readNamed_eq_ok_iff, held] at ok
    obtain ⟨v, value, rfl⟩ :=
      strictScalar?_of_fills (scalars f member) (notNull f.name json held) ok
    obtain ⟨text, written, plain⟩ := plainScalar?_of_strictScalar?
      (fun x same => readsBack f.name x (same ▸ held)) value
    exact ⟨text, v, written, plain, slot⟩
  refine ⟨?_, fun d => ?_⟩
  · intro key json held
    have known : key ∈ m.fieldNames := by
      refine declared reject key ?_
      rw [keys_memberReaders, ← Members.isSome_lookup_iff, held]
      rfl
    obtain ⟨f, member, rfl⟩ := List.mem_map.mp known
    obtain ⟨text, _, written, _⟩ := stands f member json held
    exact ⟨text, written⟩
  · have empty : s.instance? name = .ok { model := m } := instance?_eq_ok_iff.mpr ⟨m, found, rfl⟩
    have form : readObject d "$" (memberReaders s d .lenient (plainMembers members))
        { model := m } = .ok j := by
      refine (readObject_eq_ok_iff distinct Members.Sorted.nil).mpr
        ⟨fun _ key member => ?_, filled.model, filled.sorted, fun f member => ?_, filled.others⟩
      · rw [keys_memberReaders, keys_plainMembers, ← keys_memberReaders] at member
        exact declared reject key member
      · cases held : Members.lookup f.name members with
        | none =>
          -- Without a member, the field is read alike in both modes.
          obtain ⟨v?, ok, slot⟩ := filled.slots f member
          rw [readNamed_eq_ok_iff, held] at ok
          refine ⟨v?, ?_, slot⟩
          rw [readNamed_eq_ok_iff, lookup_plainMembers, held]
          cases ok with
          | absent known => exact .absent known
        | some json =>
          obtain ⟨text, v, written, plain, slot⟩ := stands f member json held
          refine ⟨some v, ?_, slot⟩
          rw [readNamed_eq_ok_iff, lookup_plainMembers, held, Option.map_some,
            Json.plain_of_plainText? written]
          exact fills_of_plainScalar? (scalars f member) plain
    exact bind_eq_ok.mpr ⟨_, empty, bind_eq_ok.mpr ⟨_, rfl, form⟩⟩

end ModelSet

/-! ### Parcels -/

/-- The model of parcels, with a field of each scalar type. -/
def parcel : Model where
  name := "Parcel"
  api := "depot"
  fields := [⟨"at", .timestamp, .mandatory, none, false⟩,
    ⟨"seal", .bytes, .optional, none, false⟩, ⟨"count", .integer, .mandatory, none, false⟩,
    ⟨"note", .string, .nullable, none, false⟩, ⟨"paid", .bool, .mandatory, none, false⟩,
    ⟨"price", .number, .optional, none, false⟩, ⟨"weight", .number, .optional, none, false⟩,
    ⟨"size", .oneOf ["S", "M"], .optional, none, false⟩]

/-- The models of a depot. -/
def depot : ModelSet := ⟨"depot", [parcel]⟩

/-- The members of a body for a parcel. The weight is a whole number, the price is two and a
half, and there is no note. -/
def parcelBody : List (String × Json) :=
  [("at", .str "2024-03-01T10:20:30Z"), ("count", .int (-7)), ("paid", .bool true),
    ("price", .float (Float.ofBits 0x4004000000000000)), ("seal", .str " wax "),
    ("size", .str "M"), ("weight", .int 12)]

/-- The members of the form that says the same. -/
def parcelForm : List (String × Json) :=
  [("at", .str "2024-03-01T10:20:30Z"), ("count", .str "-7"), ("paid", .str "true"),
    ("price", .str "2.5"), ("seal", .str " wax "), ("size", .str "M"), ("weight", .str "12")]

/-- The body and the form are read as the same parcel. -/
theorem ModelSet.decodeForm_plain_parcel :
    depot.get? "Parcel" = some parcel ∧ parcel.fieldNames.Nodup ∧
      (∀ f ∈ parcel.fields, f.type.isScalar) ∧
      (∀ key json, Members.lookup key parcelBody = some json → json ≠ .null) ∧
      (∀ key x, Members.lookup key parcelBody = some (.float x) →
        Decimal.readFloat? (Decimal.text x) = some x) ∧
      ∃ i, depot.decode {} "Parcel" (.obj parcelBody) = .ok i ∧
        depot.decodeForm {} "Parcel" (.obj parcelForm) [] = .ok i := by
  have found : depot.get? "Parcel" = some parcel := rfl
  have distinct : parcel.fieldNames.Nodup := by decide
  have scalars : ∀ f ∈ parcel.fields, f.type.isScalar := by decide
  have notNull : ∀ key json, Members.lookup key parcelBody = some json → json ≠ .null := by
    intro key json held
    have member := Members.mem_of_lookup held
    simp only [parcelBody, List.mem_cons, List.not_mem_nil, Prod.mk.injEq, or_false] at member
    rintro rfl
    simp at member
  have readsBack : ∀ key x, Members.lookup key parcelBody = some (.float x) →
      Decimal.readFloat? (Decimal.text x) = some x := by
    intro key x held
    have member := Members.mem_of_lookup held
    simp [parcelBody] at member
    obtain ⟨_, rfl⟩ := member
    rfl
  have decoded : (depot.decode {} "Parcel" (.obj parcelBody)).toOption.isSome := by
    decide +kernel
  cases read : depot.decode {} "Parcel" (.obj parcelBody) with
  | error e =>
    rw [read] at decoded
    cases decoded
  | ok i =>
    have forms := (decodeForm_plain found distinct scalars rfl notNull readsBack read).2 {}
    have same : plainMembers parcelBody = parcelForm := rfl
    rw [same] at forms
    exact ⟨found, distinct, scalars, notNull, readsBack, i, rfl, forms⟩

end ApiContract
