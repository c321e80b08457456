import ApiContract.Proofs.Model.Reading

/-!
# The bodies that are read strictly

A model says which JSON values are its bodies: objects with the mandatory members, whose
members fit the types of their fields. Reading a body strictly succeeds on these values and on
no others. Which member is looked at first does not matter for that; it decides only which
failure is reported. As compiled models refer to each other only, an unknown model is never
among the failures.

## Main definitions

* `ModelSet.Admits` — the JSON values of a type
* `KnowsModels` — a computation that does not fail for want of a model

## Main results

* `ModelSet.exists_readValue_iff` — the values of a type are read, and no others
* `ModelSet.readValue_knowsModels` — reading finds every model that it needs
* `ModelSet.decode_language` — the bodies of a model, and the slots that they fill
-/

namespace ApiContract

/-- The JSON values of a type. A whole number is no float, and an integer has 64 bits with a
sign. No item of a list is `null`. An object of a model has members that may be `null`, save
for the mandatory fields, and members without a field only if those are tolerated. -/
inductive ModelSet.Admits (s : ModelSet) (policy : UnknownFields) : FieldType → Json → Prop
  | bool (b : Bool) : Admits s policy .bool (.bool b)
  | integer (n : Int) (inRange : Decimal.isInt64 n) : Admits s policy .integer (.int n)
  | whole (n : Int) : Admits s policy .number (.int n)
  | number (x : Float) : Admits s policy .number (.float x)
  | string (text : String) : Admits s policy .string (.str text)
  | bytes (text : String) : Admits s policy .bytes (.str text)
  | timestamp (text : String) (t : Instant) (reads : Instant.read? text = some t) :
      Admits s policy .timestamp (.str text)
  | oneOf (allowed : List String) (text : String) (member : text ∈ allowed) :
      Admits s policy (.oneOf allowed) (.str text)
  | list (element : FieldType) (items : List Json) (notNull : ∀ item ∈ items, item ≠ .null)
      (each : ∀ item ∈ items, Admits s policy element item) :
      Admits s policy (.list element) (.arr items)
  | model (name : String) (m : Model) (members : List (String × Json))
      (found : s.get? name = some m)
      (declared : policy = .reject → ∀ key ∈ Members.keys members, key ∈ m.fieldNames)
      (mandatory : ∀ f ∈ m.fields, f.presence = .mandatory →
        ∃ json, Members.lookup f.name members = some json ∧ json ≠ .null)
      (each : ∀ f ∈ m.fields, ∀ json, Members.lookup f.name members = some json →
        json ≠ .null → Admits s policy f.type json) :
      Admits s policy (.model name) (.obj members)

namespace ModelSet

variable {s : ModelSet} {c : Codec} {mode : Mode} {policy : UnknownFields} {json : Json}
  {type element : FieldType} {path name : String} {v : Value}

/-! ### Scalars -/

/-- A value stands for a scalar when it is one of the values of its type. -/
theorem exists_strictScalar?_iff (scalar : type.isScalar) :
    (∃ v, strictScalar? json type = some v) ↔ s.Admits policy type json := by
  cases type with
  | bool =>
    simp only [strictScalar?, Option.map_eq_some_iff, Json.asBool?_eq_some_iff]
    constructor
    · rintro ⟨_, b, rfl, _⟩
      exact .bool b
    · intro admits
      cases admits with
      | bool b => exact ⟨_, b, rfl, rfl⟩
  | integer =>
    simp only [strictScalar?, Option.map_eq_some_iff, Json.asInt64?_eq_some_iff]
    constructor
    · rintro ⟨_, _, ⟨n, rfl, inRange, _⟩, _⟩
      exact .integer n inRange
    · intro admits
      cases admits with
      | integer n inRange => exact ⟨_, _, ⟨n, rfl, inRange, rfl⟩, rfl⟩
  | number =>
    simp only [strictScalar?, Option.map_eq_some_iff]
    constructor
    · rintro ⟨_, x, found, _⟩
      rcases Json.exists_asFloat?_iff.mp ⟨x, found⟩ with ⟨n, rfl⟩ | ⟨y, rfl⟩
      · exact .whole n
      · exact .number y
    · intro admits
      cases admits with
      | whole n => exact ⟨_, _, rfl, rfl⟩
      | number x => exact ⟨_, _, rfl, rfl⟩
  | string =>
    simp only [strictScalar?, Option.map_eq_some_iff, Json.asStr?_eq_some_iff]
    constructor
    · rintro ⟨_, text, rfl, _⟩
      exact .string text
    · intro admits
      cases admits with
      | string text => exact ⟨_, text, rfl, rfl⟩
  | bytes =>
    simp only [strictScalar?, Option.map_eq_some_iff, Json.asStr?_eq_some_iff]
    constructor
    · rintro ⟨_, text, rfl, _⟩
      exact .bytes text
    · intro admits
      cases admits with
      | bytes text => exact ⟨_, text, rfl, rfl⟩
  | timestamp =>
    simp only [strictScalar?, Option.map_eq_some_iff, Option.bind_eq_some_iff,
      Json.asStr?_eq_some_iff]
    constructor
    · rintro ⟨_, t, ⟨text, rfl, reads⟩, _⟩
      exact .timestamp text t reads
    · intro admits
      cases admits with
      | timestamp text t reads => exact ⟨_, t, ⟨text, rfl, reads⟩, rfl⟩
  | oneOf allowed =>
    simp only [strictScalar?, Option.bind_eq_some_iff, Json.asStr?_eq_some_iff]
    constructor
    · rintro ⟨_, text, rfl, found⟩
      by_cases member : allowed.contains text
      · exact .oneOf allowed text (by simpa using member)
      · rw [if_neg member] at found
        cases found
    · intro admits
      cases admits with
      | oneOf _ text member => exact ⟨_, text, rfl, if_pos (by simpa using member)⟩
  | model name => cases scalar
  | list element => cases scalar

/-! ### Lists -/

/-- Items are read when none of them is `null` and each can be read. -/
theorem exists_readItems_iff {items : List Json} {fits : Json → Prop}
    (each : ∀ item ∈ items, ∀ path,
      (∃ v, readValue s c mode item element path = .ok v) ↔ fits item) (i : Nat) :
    (∃ vs, readItems s c mode items element path i = .ok vs) ↔
      ∀ item ∈ items, item ≠ .null ∧ fits item := by
  induction items generalizing i with
  | nil => simp [readItems]
  | cons item rest ih =>
    have later := ih (fun j member => each j (List.mem_cons_of_mem _ member)) (i + 1)
    simp only [readItems_cons_eq_ok_iff, Json.isNull_eq_false_iff]
    rw [List.forall_mem_cons, ← later, ← each item List.mem_cons_self]
    constructor
    · rintro ⟨_, notNull, v, more, here, behind, _⟩
      exact ⟨⟨notNull, v, here⟩, more, behind⟩
    · rintro ⟨⟨notNull, v, here⟩, more, behind⟩
      exact ⟨_, notNull, v, more, here, behind, rfl⟩

/-! ### Objects -/

section Objects

variable {f : Field} {place : String} {json? : Option Json} {i j : Instance}
  {readers : List (String × Bool × Reader)} {members : List (String × Json)}

/-- A field whose slot is empty can be read when its member is there, if it is mandatory, and
fits, unless it is `null`. -/
theorem exists_fills_iff :
    (∃ v?, Fills s c mode f place false json? v?) ↔
      (f.presence = .mandatory → ∃ json, json? = some json ∧ json ≠ .null) ∧
        ∀ json, json? = some json → json ≠ .null →
          ∃ v, readValue s c mode json f.type place = .ok v := by
  constructor
  · rintro ⟨v?, fills⟩
    cases fills with
    | absent known => exact ⟨fun mandatory => (nomatch known mandatory), by simp⟩
    | nulled nullable => simp [nullable]
    | skipped optional => simp [optional]
    | read json v given reads =>
      refine ⟨fun _ => ⟨json, rfl, given⟩, ?_⟩
      rintro _ ⟨⟩ _
      exact ⟨v, reads⟩
  · rintro ⟨mandatory, each⟩
    cases json? with
    | none =>
      have optional : f.presence ≠ .mandatory := fun needed => by
        simpa using mandatory needed
      exact ⟨none, .absent fun needed => absurd needed optional⟩
    | some json =>
      by_cases null : json = .null
      · subst null
        cases presence : f.presence with
        | mandatory => simpa using mandatory presence
        | nullable => exact ⟨some .null, .nulled presence⟩
        | optional => exact ⟨none, .skipped presence⟩
      · obtain ⟨v, reads⟩ := each json rfl null
        exact ⟨some v, .read json v null reads⟩

/-- What a field is filled with: something, when its member is there and is not `null`, or
`null`, when it is nullable. -/
theorem isSome_of_fills {isSet : Bool} {v? : Option Value}
    (fills : Fills s c mode f place isSet json? v?) :
    v?.isSome ↔ ∃ json, json? = some json ∧ (json = .null → f.presence = .nullable) := by
  cases fills with
  | absent known => simp
  | nulled nullable => simp [nullable]
  | skipped optional => simp [optional]
  | read json v given reads => simp [given]

/-- An object is read when its members may be there and each field can be read. -/
theorem exists_readObject_iff (distinct : i.model.fieldNames.Nodup)
    (sorted : Members.Sorted i.slots) :
    (∃ j, readObject c path readers i = .ok j) ↔
      (c.unknownFields = .reject → ∀ k ∈ Members.keys readers, k ∈ i.model.fieldNames) ∧
        ∀ f ∈ i.model.fields, ∃ v?, readNamed path readers i f = .ok v? := by
  simp only [readObject_eq_ok_iff distinct sorted]
  constructor
  · rintro ⟨j, declared, filled⟩
    refine ⟨declared, fun f member => ?_⟩
    obtain ⟨v?, read, _⟩ := filled.slots f member
    exact ⟨v?, read⟩
  · rintro ⟨declared, each⟩
    obtain ⟨j, read⟩ := readFields_of_each distinct each
    exact ⟨j, declared, readFields_ok distinct sorted read⟩

/-- The slots of an instance that is read from an object. -/
theorem isSet_of_readObject {m : Model} (distinct : m.fieldNames.Nodup)
    (read : readObject c path (memberReaders s c mode members) { model := m } = .ok i)
    (key : String) :
    i.isSet key ↔ ∃ f ∈ m.fields, f.name = key ∧
      ∃ json, Members.lookup key members = some json ∧
        (json = .null → f.presence = .nullable) := by
  obtain ⟨_, filled⟩ := (readObject_eq_ok_iff distinct Members.Sorted.nil).mp read
  by_cases declared : key ∈ m.fieldNames
  · obtain ⟨f, member, rfl⟩ := List.mem_map.mp declared
    obtain ⟨v?, ok, slot⟩ := filled.slots f member
    have held : i.get? f.name = v? := slot.trans Option.or_none
    rw [Instance.isSet, held, isSome_of_fills (readNamed_eq_ok_iff.mp ok)]
    constructor
    · intro given
      exact ⟨f, member, rfl, given⟩
    · rintro ⟨g, other, same, given⟩
      -- Only one field has this name, so it is the one that was read.
      obtain rfl := List.inj_on_of_nodup_map distinct other member same
      exact given
  · have empty : i.get? key = none := filled.others key declared
    rw [Instance.isSet, empty]
    constructor
    · intro set
      cases set
    · rintro ⟨f, member, rfl, _⟩
      exact absurd (List.mem_map_of_mem member) declared

end Objects

/-! ### All values -/

/-- The values of a type are read strictly, and no others. -/
theorem exists_readValue_iff (closed : s.Closed) :
    (∃ v, readValue s c .strict json type path = .ok v) ↔
      s.Admits c.unknownFields type json := by
  -- On the parts of the value; a part is a value of an element's or of a field's type.
  induction json using Json.parts_induction generalizing type path with
  | atom json atom =>
    rw [readValue_atom atom]
    simp only [readAtom_strict_eq_ok_iff]
    cases type with
    | model name =>
      constructor
      · rintro ⟨_, none⟩
        cases none
      · rintro ⟨⟩
        cases atom
    | list element =>
      constructor
      · rintro ⟨_, none⟩
        cases none
      · rintro ⟨⟩
        cases atom
    | _ => exact exists_strictScalar?_iff rfl
  | arr items ih =>
    cases type with
    | list element =>
      have each : (∃ vs, readItems s c .strict items element path 0 = .ok vs) ↔
          ∀ item ∈ items, item ≠ .null ∧ s.Admits c.unknownFields element item :=
        exists_readItems_iff (fun item member path => ih item member) 0
      simp only [readValue, map_eq_ok]
      constructor
      · rintro ⟨_, vs, read, _⟩
        have fits := each.mp ⟨vs, read⟩
        exact .list element items (fun item member => (fits item member).1)
          fun item member => (fits item member).2
      · intro admits
        cases admits with
        | list _ _ notNull fits =>
          obtain ⟨vs, read⟩ := each.mpr fun item member =>
            ⟨notNull item member, fits item member⟩
          exact ⟨_, vs, read, rfl⟩
    | model name =>
      constructor
      · rintro ⟨v, read⟩
        rw [readValue] at read
        exact absurd read readAtom_model
      · rintro ⟨⟩
    | _ =>
      simp only [readValue, readAtom_strict_eq_ok_iff]
      exact exists_strictScalar?_iff rfl
  | obj members ih =>
    cases type with
    | model name =>
      simp only [readValue_model_eq_ok_iff]
      constructor
      · rintro ⟨_, _, m, i, same, found, read, _⟩
        obtain rfl := Json.obj.inj same
        have distinct := (closed m (get?_eq_some found).1).distinct
        obtain ⟨declared, each⟩ :=
          (exists_readObject_iff distinct Members.Sorted.nil).mp ⟨i, read⟩
        rw [keys_memberReaders] at declared
        simp only [readNamed_eq_ok_iff] at each
        refine .model name m members found declared
          (fun f member => (exists_fills_iff.mp (each f member)).1) ?_
        intro f member json here notNull
        have readable := (exists_fills_iff.mp (each f member)).2 json here notNull
        exact (ih _ (Members.mem_of_lookup here)).mp readable
      · intro admits
        cases admits with
        | model _ m _ found declared mandatory each =>
          -- Each field can be read by itself, which is enough for the object.
          have distinct := (closed m (get?_eq_some found).1).distinct
          have fields : ∀ f ∈ m.fields, ∃ v?,
              readNamed path (memberReaders s c .strict members) { model := m } f = .ok v? := by
            intro f member
            simp only [readNamed_eq_ok_iff]
            refine exists_fills_iff.mpr ⟨mandatory f member, fun json here notNull => ?_⟩
            exact (ih _ (Members.mem_of_lookup here)).mpr (each f member json here notNull)
          have keys : Members.keys (memberReaders s c .strict members) = Members.keys members :=
            keys_memberReaders members
          rw [← keys] at declared
          obtain ⟨i, read⟩ := (exists_readObject_iff (i := { model := m }) distinct
            Members.Sorted.nil).mpr ⟨declared, fields⟩
          exact ⟨_, members, m, i, rfl, found, read, rfl⟩
    | list element =>
      constructor
      · rintro ⟨v, read⟩
        rw [readValue] at read
        cases readAtom_strict_eq_ok_iff.mp read
      · rintro ⟨⟩
    | _ =>
      simp only [readValue, readAtom_strict_eq_ok_iff]
      exact exists_strictScalar?_iff rfl

end ModelSet

/-! ### Models that are needed -/

/-- A computation that does not fail for want of a model. -/
def KnowsModels {α : Type} (x : Except ModelError α) : Prop :=
  ∀ name, x ≠ .error (.unknownModel name)

namespace KnowsModels

variable {α β : Type} {x : Except ModelError α}

theorem ok (a : α) : KnowsModels (.ok a) := by
  intro name failed
  cases failed

theorem error {e : ModelError} (other : ∀ name, e ≠ .unknownModel name) :
    KnowsModels (.error e : Except ModelError α) := by
  intro name failed
  exact other name (Except.error.inj failed)

theorem bind {f : α → Except ModelError β} (first : KnowsModels x)
    (later : ∀ a, KnowsModels (f a)) : KnowsModels (x >>= f) := by
  intro name failed
  rcases bind_eq_error.mp failed with here | ⟨a, _, there⟩
  · exact first name here
  · exact later a name there

theorem map {f : α → β} (knows : KnowsModels x) : KnowsModels (x.map f) := by
  intro name failed
  cases x with
  | error e => exact knows name (congrArg _ (Except.error.inj failed))
  | ok a => cases failed

end KnowsModels

namespace ModelSet

variable {s : ModelSet} {c : Codec} {mode : Mode} {type element : FieldType} {json : Json}
  {path name : String} {readers : List (String × Bool × Reader)} {i : Instance}

theorem instance?_of_mem (declared : name ∈ s.names) :
    ∃ m, s.get? name = some m ∧ s.instance? name = .ok { model := m } := by
  obtain ⟨m, found⟩ := exists_of_mem_names declared
  exact ⟨m, found, by rw [instance?, found]⟩

theorem readText_knowsModels (type : FieldType) (path text : String) :
    KnowsModels (readText type path text) := by
  unfold readText
  cases Value.readScalar type text with
  | ok v => exact .ok v
  | error _ =>
    cases type with
    | oneOf allowed => exact .error fun name => by simp
    | _ => exact .error fun name => by simp [mismatch]

theorem readAtom_knowsModels (refers : type.RefersTo s.names) :
    KnowsModels (readAtom s mode json type path) := by
  have refused : KnowsModels (.error (mismatch type path json) : Except ModelError Value) :=
    .error fun name => by simp [mismatch]
  unfold readAtom
  dsimp only
  split
  · exact readText_knowsModels _ _ _
  · cases type with
    | model name =>
      obtain ⟨m, _, empty⟩ := instance?_of_mem (refers name rfl)
      dsimp only
      rw [empty]
      exact .error fun name => by simp
    | list element => exact refused
    | oneOf allowed =>
      dsimp only
      split
      · rename_i text _
        rw [readMember]
        by_cases member : allowed.contains text
        · rw [if_pos member]
          exact .ok _
        · rw [if_neg member]
          exact .error fun name => by simp
      · exact refused
    | _ =>
      -- The value stands for a scalar of the type, or it is refused.
      dsimp only
      split
      · exact .ok _
      · exact refused

/-- A field is read without wanting for a model when its member is. -/
theorem readNamed_knowsModels {f : Field}
    (each : ∀ isNull reader, Members.lookup f.name readers = some (isNull, reader) →
      ∀ place, KnowsModels (reader f.type place)) : KnowsModels (readNamed path readers i f) := by
  rw [readNamed]
  cases found : Members.lookup f.name readers with
  | none =>
    rw [readField]
    split
    · exact .error fun name => by simp
    · exact .ok _
  | some given =>
    obtain ⟨isNull, reader⟩ := given
    cases isNull with
    | true =>
      rw [readField]
      cases f.presence with
      | mandatory => exact .error fun name => by simp
      | nullable => exact .ok _
      | optional => exact .ok _
    | false => exact (each false reader found _).map

theorem readFields_knowsModels {fields : List Field}
    (each : ∀ f ∈ fields, ∀ isNull reader,
      Members.lookup f.name readers = some (isNull, reader) →
        ∀ place, KnowsModels (reader f.type place)) :
    KnowsModels (readFields path readers fields i) := by
  induction fields generalizing i with
  | nil => exact .ok i
  | cons f rest ih =>
    rw [readFields_cons]
    have first : KnowsModels (readNamed path readers i f) :=
      readNamed_knowsModels (each f List.mem_cons_self)
    exact first.bind fun v? => ih fun g member => each g (List.mem_cons_of_mem _ member)

theorem readObject_knowsModels
    (each : ∀ f ∈ i.model.fields, ∀ isNull reader,
      Members.lookup f.name readers = some (isNull, reader) →
        ∀ place, KnowsModels (reader f.type place)) :
    KnowsModels (readObject c path readers i) := by
  rw [readObject]
  split
  · exact .error fun name => by simp
  · exact readFields_knowsModels each

theorem readItems_knowsModels {items : List Json}
    (each : ∀ item ∈ items, ∀ path, KnowsModels (readValue s c mode item element path)) (i : Nat) :
    KnowsModels (readItems s c mode items element path i) := by
  induction items generalizing i with
  | nil => exact .ok []
  | cons item rest ih =>
    rw [readItems]
    cases item.isNull with
    | true => exact .error fun name => by simp
    | false =>
      have first := each item List.mem_cons_self s!"{path}[{i}]"
      have later := ih (fun other member => each other (List.mem_cons_of_mem _ member)) (i + 1)
      exact first.bind fun v => later.bind fun more => .ok _

/-- The members of an object are read without wanting for a model when each of them is. -/
theorem readMembers_knowsModels (closed : s.Closed) {members : List (String × Json)} {m : Model}
    (declared : m ∈ s.models) (model : i.model = m)
    (each : ∀ p ∈ members, ∀ type path, type.RefersTo s.names →
      KnowsModels (readValue s c mode p.2 type path)) :
    KnowsModels (readObject c path (memberReaders s c mode members) i) := by
  apply readObject_knowsModels
  intro f member isNull reader found place
  rw [lookup_memberReaders] at found
  obtain ⟨json, here, given⟩ := Option.map_eq_some_iff.mp found
  obtain ⟨_, rfl⟩ := Prod.mk.inj given
  have refers : f.type.RefersTo s.names := (closed m declared).declared f (model ▸ member)
  exact each _ (Members.mem_of_lookup here) f.type place refers

/-- Reading a value of a type finds every model that it needs. -/
theorem readValue_knowsModels (closed : s.Closed) (refers : type.RefersTo s.names) :
    KnowsModels (readValue s c mode json type path) := by
  induction json using Json.parts_induction generalizing type path with
  | atom json atom =>
    rw [readValue_atom atom]
    exact readAtom_knowsModels refers
  | arr items ih =>
    rw [readValue]
    cases type with
    | list element =>
      have elements : element.RefersTo s.names := fun name named => refers name named
      exact (readItems_knowsModels (fun item member path => ih item member elements) 0).map
    | _ => exact readAtom_knowsModels refers
  | obj members ih =>
    rw [readValue]
    cases type with
    | model name =>
      obtain ⟨m, found, empty⟩ := instance?_of_mem (refers name rfl)
      dsimp only
      rw [empty]
      have read : KnowsModels
          (readObject c path (memberReaders s c mode members) { model := m }) :=
        readMembers_knowsModels closed (get?_eq_some found).1 rfl
          fun p member type path refers => ih p member refers
      exact read.bind fun i => .ok _
    | _ => exact readAtom_knowsModels refers

/-- Reading into an instance of a model finds every model that it needs. -/
theorem readInto_knowsModels (closed : s.Closed) {m : Model} (declared : m ∈ s.models)
    (model : i.model = m) : KnowsModels (s.readInto c mode json i) := by
  cases json with
  | obj members =>
    rw [readInto]
    exact readMembers_knowsModels closed declared model
      fun p member type path refers => readValue_knowsModels closed refers
  | _ => exact .error fun name => by simp

/-- A body of a model is read without wanting for another one. -/
theorem decode_knowsModels (closed : s.Closed) {m : Model} (found : s.get? name = some m) :
    KnowsModels (s.decode c name json) := by
  have empty : s.instance? name = .ok { model := m } := by rw [instance?, found]
  rw [decode, empty]
  exact readInto_knowsModels closed (get?_eq_some found).1 rfl

/-! ### Bodies -/

/-- The bodies of a compiled model are the values that it admits, whatever happens to
undeclared members. A body fills the slots of the declared fields that are present and not
`null`, and of the nullable ones that are `null`. Reading never fails for want of a model. -/
theorem decode_language {api : String} {definitions : List (String × Definition)} {s : ModelSet}
    (compiled : compileModels api definitions = .ok s) {name : String} {m : Model}
    (found : s.get? name = some m) (c : Codec) (json : Json) :
    ((∃ i, s.decode c name json = .ok i) ↔ s.Admits c.unknownFields (.model name) json) ∧
      (∀ i, s.decode c name json = .ok i → ∀ key, i.isSet key ↔
        ∃ f ∈ m.fields, f.name = key ∧ ∃ value, json.member? key = some value ∧
          (value = .null → f.presence = .nullable)) ∧
      ∀ unknown, s.decode c name json ≠ .error (.unknownModel unknown) := by
  have closed := (compileModels_closed compiled).1
  refine ⟨?_, ?_, ?_⟩
  · have values : (∃ v, readValue s c .strict json (.model name) "$" = .ok v) ↔
        s.Admits c.unknownFields (.model name) json := exists_readValue_iff closed
    rw [← values]
    simp only [decode_eq_ok_iff]
    constructor
    · rintro ⟨i, read⟩
      exact ⟨_, read⟩
    · rintro ⟨v, read⟩
      obtain ⟨_, _, i, _, _, _, rfl⟩ := readValue_model_eq_ok_iff.mp read
      exact ⟨i, read⟩
  · intro i read key
    obtain ⟨members, n, j, rfl, here, filled, same⟩ :=
      readValue_model_eq_ok_iff.mp (decode_eq_ok_iff.mp read)
    obtain rfl := ofInstance_inj same
    obtain rfl := Option.some.inj (found.symm.trans here)
    exact isSet_of_readObject (closed m (get?_eq_some found).1).distinct filled key
  · exact decode_knowsModels closed found

end ModelSet

/-! ### Trees -/

/-- The declaration of trees, whose branches are trees. -/
def treeDefinitions : List (String × Definition) :=
  [("Tree", { properties := [
      ("label", .mk (some "string") none none none none true false none),
      ("note", .mk (some "string") none none none none false true none),
      ("branches", .mk (some "array") none none none
        (some (.mk none none (some "#/definitions/Tree") none none false false none))
        false false none)] })]

/-- The model of trees. -/
def tree : Model where
  name := "Tree"
  api := "garden"
  fields := [⟨"label", .string, .mandatory, none, false⟩,
    ⟨"note", .string, .nullable, none, false⟩,
    ⟨"branches", .list (.model "Tree"), .optional, none, false⟩]

/-- The models of a garden. -/
def garden : ModelSet := ⟨"garden", [tree]⟩

/-- A tree with one branch, and a note that is `null`. -/
def oak : Json :=
  .obj [("branches", .arr [.obj [("label", .str "bough")]]), ("label", .str "oak"),
    ("note", .null)]

theorem compileModels_garden : compileModels "garden" treeDefinitions = .ok garden := by
  have needs : dependencies treeDefinitions = .ok [("Tree", [])] := rfl
  have order : orderModels treeDefinitions = .ok ["Tree"] := by
    rw [orderModels, needs]
    simp [bind, Except.bind, placeAll, placeReady]
  rw [compileModels, order]
  rfl

theorem garden_admits_oak : garden.Admits .reject (.model "Tree") oak := by
  have bough : garden.Admits .reject (.model "Tree") (.obj [("label", .str "bough")]) := by
    apply ModelSet.Admits.model "Tree" tree _ rfl
    · simp [Members.keys, tree, Model.fieldNames]
    · simp [tree, Members.lookup]
    · simp [tree, Members.lookup]
      exact .string "bough"
  apply ModelSet.Admits.model "Tree" tree _ rfl
  · simp [Members.keys, tree, Model.fieldNames]
  · simp [tree, Members.lookup]
  · simp [tree, Members.lookup]
    exact ⟨.string "oak", .list (.model "Tree") _ (by simp) (by simpa using bough)⟩

/-- The tree is read, its note counts as set, and what it leaves out does not. -/
theorem ModelSet.decode_language_garden :
    compileModels "garden" treeDefinitions = .ok garden ∧ garden.get? "Tree" = some tree ∧
      (∃ i, garden.decode {} "Tree" oak = .ok i ∧ i.isSet "note" ∧ ¬ i.isSet "bark") ∧
      ∀ unknown, garden.decode {} "Tree" oak ≠ .error (.unknownModel unknown) := by
  have found : garden.get? "Tree" = some tree := rfl
  obtain ⟨reads, sets, known⟩ := decode_language compileModels_garden found {} oak
  obtain ⟨i, read⟩ := reads.mpr garden_admits_oak
  refine ⟨compileModels_garden, found, ⟨i, read, ?_, ?_⟩, known⟩
  · rw [sets i read "note"]
    exact ⟨_, List.mem_cons_of_mem _ List.mem_cons_self, rfl, .null, rfl, fun _ => rfl⟩
  · rw [sets i read "bark"]
    simp [tree]

end ApiContract
