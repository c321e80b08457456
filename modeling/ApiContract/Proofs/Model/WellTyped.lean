import ApiContract.Proofs.Model.Reading
import ApiContract.Proofs.Model.Truncation

/-!
# Instances are well-typed

Slots are filled by setting a field, by reading an object, strictly or leniently, and by
putting files in place before a form is read on top of them. All of that leaves an instance
well-typed, with `null` where a field is nullable and nowhere else. An instance that was read
lacks no mandatory field either, so that it passes the check of `Instance.validate`, which
reading does not make; setting a field to an instance without its mandatory fields may spoil
this, but not that the instance is well-typed.

## Main definitions

* `Model.Permits` — what a model lets a slot hold
* `Value.WellTyped`, `Instance.WellTyped` — at every depth, slots hold what their models permit
* `ModelSet.Reaches`, `ModelSet.Takes` — the instances that are made from a set of models by
  reading, setting and unsetting, and the values that their fields are set to

## Main results

* `Instance.assign_spec` — what comes of setting a field in place
* `ModelSet.readValue_gives` — what is read fits its type, is well-typed and lacks nothing
* `ModelSet.reaches_wellTyped` — instances are well-typed, a field that cannot be set is left as
  it was, and what is read passes the check of its mandatory fields
-/

namespace ApiContract

/-! ### Well-typed values -/

/-- What a model lets the slot of a name hold: `null` for a nullable field, and otherwise what
fits the type of the field. -/
def Model.Permits (m : Model) (name : String) (v : Value) : Prop :=
  ∃ f, m.field? name = some f ∧ (v = .null → f.presence = .nullable) ∧
    (v ≠ .null → Value.conforms f.type v)

/-- No list has an item that is `null`, and every slot holds what its model permits, at every
depth. -/
inductive Value.WellTyped : Value → Prop
  | atom (v : Value) (atom : v.isAtom) : WellTyped v
  | list (items : List Value) (notNull : ∀ v ∈ items, v ≠ .null)
      (each : ∀ v ∈ items, WellTyped v) : WellTyped (.list items)
  | model (m : Model) (slots : List (String × Value)) (sorted : Members.Sorted slots)
      (permitted : ∀ p ∈ slots, m.Permits p.1 p.2) (each : ∀ p ∈ slots, WellTyped p.2) :
      WellTyped (.model m slots)

/-- An instance is well-typed as a value. -/
def Instance.WellTyped (i : Instance) : Prop := (Value.ofInstance i).WellTyped

namespace Value

variable {type element : FieldType} {v : Value}

theorem isNull_iff : v.isNull = true ↔ v = .null := by
  cases v <;> simp [isNull]

theorem ne_null_of_conforms (fits : conforms type v) : v ≠ .null := by
  rintro rfl
  cases type <;> cases fits

theorem conforms_list_iff {items : List Value} :
    conforms (.list element) (.list items) ↔ ∀ v ∈ items, conforms element v := by
  rw [conforms, List.all_eq_true]

/-- What fits a type and has no parts is a scalar. -/
theorem isScalar_of_conforms (atom : v.isAtom) (fits : conforms type v) : type.isScalar := by
  cases type with
  | model name => cases v <;> first | cases fits | cases atom
  | list element => cases v <;> first | cases fits | cases atom
  | _ => rfl

private theorem scalar_of_map {α : Type} {a? : Option α} {wrap : α → Value}
    (each : ∀ a, (wrap a).isAtom ∧ conforms type (wrap a)) (ok : a?.map wrap = some v) :
    v.isAtom ∧ conforms type v := by
  obtain ⟨a, _, rfl⟩ := Option.map_eq_some_iff.mp ok
  exact each a

private theorem scalar_of_member {allowed : List String} {text : String}
    (ok : (if allowed.contains text then some (string text) else none) = some v) :
    v.isAtom ∧ conforms (.oneOf allowed) v := by
  obtain ⟨member, same⟩ := Option.ite_none_right_eq_some.mp ok
  obtain rfl := Option.some.inj same
  exact ⟨rfl, member⟩

/-- A scalar that plain text stands for is a value of its type. -/
theorem conforms_of_plainScalar? {text : String}
    (ok : ModelSet.plainScalar? text type = some v) : v.isAtom ∧ conforms type v := by
  unfold ModelSet.plainScalar? at ok
  cases type with
  | string =>
    obtain rfl := Option.some.inj ok
    exact ⟨rfl, rfl⟩
  | bytes =>
    obtain rfl := Option.some.inj ok
    exact ⟨rfl, rfl⟩
  | oneOf allowed => exact scalar_of_member ok
  | model name => cases ok
  | list element => cases ok
  | _ =>
    dsimp only at ok
    exact scalar_of_map (fun _ => ⟨rfl, rfl⟩) ok

/-- A scalar that a JSON value stands for is a value of its type. -/
theorem conforms_of_strictScalar? {json : Json}
    (ok : ModelSet.strictScalar? json type = some v) : v.isAtom ∧ conforms type v := by
  cases type with
  | oneOf allowed =>
    obtain ⟨text, _, found⟩ := Option.bind_eq_some_iff.mp ok
    exact scalar_of_member found
  | model name => cases ok
  | list element => cases ok
  | _ => exact scalar_of_map (fun _ => ⟨rfl, rfl⟩) ok

end Value

theorem Model.permits_null {m : Model} {name : String} {f : Field}
    (declared : m.field? name = some f) (nullable : f.presence = .nullable) :
    m.Permits name .null :=
  ⟨f, declared, fun _ => nullable, fun given => absurd rfl given⟩

theorem Model.permits_of_conforms {m : Model} {name : String} {f : Field} {v : Value}
    (declared : m.field? name = some f) (fits : Value.conforms f.type v) : m.Permits name v :=
  ⟨f, declared, fun null => absurd null (Value.ne_null_of_conforms fits), fun _ => fits⟩

/-- What the slot of a declared field holds. -/
theorem Model.Permits.of_mem {m : Model} {f : Field} {v : Value} (permits : m.Permits f.name v)
    (distinct : m.fieldNames.Nodup) (member : f ∈ m.fields) :
    (v = .null → f.presence = .nullable) ∧ (v ≠ .null → Value.conforms f.type v) := by
  obtain ⟨g, found, spec⟩ := permits
  obtain rfl := Option.some.inj ((Model.field?_of_mem distinct member).symm.trans found)
  exact spec

namespace Instance

/-! ### Slots -/

/-- Slots in order that hold what the model permits, each of which has a property. -/
structure Holds (property : Value → Prop) (i : Instance) : Prop where
  sorted : Members.Sorted i.slots
  permitted : ∀ p ∈ i.slots, i.model.Permits p.1 p.2
  each : ∀ p ∈ i.slots, property p.2

variable {property : Value → Prop} {i : Instance} {name : String} {v : Value}

theorem wellTyped_iff : i.WellTyped ↔ i.Holds Value.WellTyped := by
  constructor
  · intro wellTyped
    cases wellTyped with
    | atom _ atom => cases atom
    | model _ _ sorted permitted each => exact ⟨sorted, permitted, each⟩
  · intro holds
    exact .model i.model i.slots holds.sorted holds.permitted holds.each

theorem Holds.mono {weaker : Value → Prop} (holds : i.Holds property)
    (implies : ∀ v, property v → weaker v) : i.Holds weaker :=
  ⟨holds.sorted, holds.permitted, fun p member => implies p.2 (holds.each p member)⟩

theorem Holds.get? {key : String} (holds : i.Holds property) (held : i.get? key = some v) :
    i.model.Permits key v ∧ property v :=
  ⟨holds.permitted (key, v) (Members.mem_of_lookup held),
    holds.each (key, v) (Members.mem_of_lookup held)⟩

theorem holds_of_get? (sorted : Members.Sorted i.slots)
    (slots : ∀ key v, i.get? key = some v → i.model.Permits key v ∧ property v) :
    i.Holds property := by
  have held : ∀ p ∈ i.slots, i.get? p.1 = some p.2 := fun p member =>
    Members.lookup_of_mem sorted.nodup_keys member
  exact ⟨sorted, fun p member => (slots p.1 p.2 (held p member)).1,
    fun p member => (slots p.1 p.2 (held p member)).2⟩

theorem Holds.empty (m : Model) : Holds property { model := m } :=
  ⟨Members.Sorted.nil, List.forall_mem_nil _, List.forall_mem_nil _⟩

theorem Holds.put (holds : i.Holds property) (permitted : i.model.Permits name v)
    (here : property v) : (i.put name v).Holds property := by
  refine ⟨holds.sorted.insert name v, ?_, ?_⟩
  · intro p member
    rcases Members.mem_insert member with rfl | other
    · exact permitted
    · exact holds.permitted p other
  · intro p member
    rcases Members.mem_insert member with rfl | other
    · exact here
    · exact holds.each p other

theorem Holds.unset (holds : i.Holds property) (name : String) :
    (i.unset name).Holds property := by
  have kept := Members.erase_sublist name i.slots
  exact ⟨holds.sorted.erase name, fun p member => holds.permitted p (kept.subset member),
    fun p member => holds.each p (kept.subset member)⟩

/-! ### Setting a field -/

/-- What comes of setting a field in place: the outcome, and the instance afterwards. -/
inductive Assigned (i : Instance) (name : String) (v : Value) :
    Except ModelError Unit × Instance → Prop
  | undeclared (unknown : i.model.field? name = none) :
      Assigned i name v (.error (.unknownField i.model.name ("$." ++ name)), i)
  | missing (f : Field) (declared : i.model.field? name = some f) (null : v = .null)
      (mandatory : f.presence = .mandatory) :
      Assigned i name v (.error (.nullNotAllowed i.model.name ("$." ++ name)), i)
  | mismatched (f : Field) (declared : i.model.field? name = some f) (given : v ≠ .null)
      (differs : ¬ Value.conforms f.type v) :
      Assigned i name v (.error (.typeMismatch ("$." ++ name) f.type.describe v.typeName), i)
  | nulled (f : Field) (declared : i.model.field? name = some f) (null : v = .null)
      (nullable : f.presence = .nullable) : Assigned i name v (.ok (), i.put name .null)
  | emptied (f : Field) (declared : i.model.field? name = some f) (null : v = .null)
      (optional : f.presence = .optional) : Assigned i name v (.ok (), i.unset name)
  | filled (f : Field) (declared : i.model.field? name = some f)
      (fits : Value.conforms f.type v) : Assigned i name v (.ok (), i.put name (widen f.type v))

/-- A field is set, or refused with the instance left as it is. -/
theorem assign_spec (i : Instance) (name : String) (v : Value) :
    Assigned i name v ((assign name v).on i) := by
  rw [assign, Change.on_get_bind]
  cases declared : i.model.field? name with
  | none => exact .undeclared declared
  | some f =>
    dsimp only
    by_cases null : v.isNull
    · rw [if_pos null]
      have same : v = .null := Value.isNull_iff.mp null
      cases presence : f.presence with
      | mandatory => exact .missing f declared same presence
      | nullable => exact .nulled f declared same presence
      | optional => exact .emptied f declared same presence
    · rw [if_neg null]
      have given : v ≠ .null := fun same => null (Value.isNull_iff.mpr same)
      by_cases fits : Value.conforms f.type v
      · rw [if_pos fits]
        exact .filled f declared fits
      · rw [if_neg fits]
        exact .mismatched f declared given fits

/-- A failure to set a field changes nothing. -/
theorem eq_of_assign_error {e : ModelError} {j : Instance}
    (failed : (assign name v).on i = (.error e, j)) : j = i := by
  have spec := assign_spec i name v
  rw [failed] at spec
  cases spec with
  | undeclared => rfl
  | missing => rfl
  | mismatched => rfl

/-- Widening changes nothing but an integer, which becomes a number where one is asked for. -/
theorem widen_cases (type : FieldType) (v : Value) :
    widen type v = v ∨ type = .number ∧ ∃ x, widen type v = .number x := by
  unfold widen
  split
  · exact .inr ⟨rfl, _, rfl⟩
  · exact .inl rfl

/-- Setting a field keeps the model, and what holds of the slots when it holds of all scalars
and of what fits the field. -/
theorem Holds.assign (holds : i.Holds property) (atoms : ∀ v, v.isAtom → property v)
    (value : ∀ type, Value.conforms type v → property v) {outcome : Except ModelError Unit}
    {j : Instance} (ran : (assign name v).on i = (outcome, j)) :
    j.model = i.model ∧ j.Holds property := by
  have spec := assign_spec i name v
  rw [ran] at spec
  cases spec with
  | undeclared unknown => exact ⟨rfl, holds⟩
  | missing f declared null mandatory => exact ⟨rfl, holds⟩
  | mismatched f declared given differs => exact ⟨rfl, holds⟩
  | emptied f declared null optional => exact ⟨rfl, holds.unset name⟩
  | nulled f declared null nullable =>
    have permitted := Model.permits_null declared nullable
    exact ⟨rfl, holds.put permitted (atoms .null rfl)⟩
  | filled f declared fits =>
    rcases widen_cases f.type v with same | ⟨number, x, widened⟩
    · rw [same]
      have permitted := Model.permits_of_conforms declared fits
      exact ⟨rfl, holds.put permitted (value f.type fits)⟩
    · -- The integer is not what is kept; the number that it becomes fits as well.
      rw [widened]
      have becomes : Value.conforms f.type (.number x) := by
        rw [number]
        rfl
      have permitted := Model.permits_of_conforms declared becomes
      exact ⟨rfl, holds.put permitted (atoms _ rfl)⟩

end Instance

/-! ### The check of mandatory fields -/

/-- A value that passes the check of its mandatory fields wherever it is. -/
def Value.Valid (v : Value) : Prop := ∀ path, v.validate path = .ok ()

/-- Every mandatory field has a slot. -/
def Instance.Complete (i : Instance) : Prop :=
  ∀ f ∈ i.model.fields, f.presence = .mandatory → i.isSet f.name

namespace Value

variable {items : List Value} {slots : List (String × Value)}

theorem Valid.atom {v : Value} (atom : v.isAtom) : v.Valid := by
  intro path
  cases v <;> first | rfl | cases atom

theorem Valid.list (each : ∀ v ∈ items, v.Valid) : (list items).Valid := by
  intro path
  rw [validate]
  -- The index is part of the path and matters to no check.
  generalize (0 : Nat) = i
  induction items generalizing i with
  | nil => rfl
  | cons v rest ih =>
    rw [validateItems]
    have first := each v List.mem_cons_self s!"{path}[{i}]"
    have later := ih (fun w member => each w (List.mem_cons_of_mem _ member)) (i + 1)
    exact bind_eq_ok.mpr ⟨(), first, later⟩

theorem slotChecks_eq (slots : List (String × Value)) :
    slotChecks slots = slots.map fun p => (p.1, fun path => p.2.validate path) := by
  induction slots with
  | nil => rfl
  | cons p rest ih => rw [slotChecks, ih, List.map_cons]

theorem lookup_slotChecks (key : String) (slots : List (String × Value)) :
    Members.lookup key (slotChecks slots) =
      (Members.lookup key slots).map fun v path => v.validate path := by
  rw [slotChecks_eq]
  exact Members.lookup_map (fun _ v path => v.validate path) key slots

/-- The check of the fields of a model passes when each mandatory one has a slot and the
checks of the slots pass. -/
theorem validateFields_eq_ok_iff {model path : String}
    {checks : List (String × (String → Except ModelError Unit))} {fields : List Field} :
    validateFields model path checks fields = .ok () ↔ ∀ f ∈ fields,
      (∀ check, Members.lookup f.name checks = some check →
        check (path ++ "." ++ f.name) = .ok ()) ∧
      (f.presence = .mandatory → (Members.lookup f.name checks).isSome) := by
  induction fields with
  | nil => simp [validateFields]
  | cons f rest ih =>
    rw [List.forall_mem_cons, ← ih, validateFields]
    cases found : Members.lookup f.name checks with
    | some check =>
      simp only [bind_eq_ok, Option.some.injEq, forall_eq', Option.isSome_some, implies_true,
        and_true]
      constructor
      · rintro ⟨⟨⟩, here, later⟩
        exact ⟨here, later⟩
      · rintro ⟨here, later⟩
        exact ⟨(), here, later⟩
    | none =>
      by_cases needed : f.presence = .mandatory
      · simp [needed, bind, Except.bind, throw, throwThe, MonadExceptOf.throw]
      · simp [needed]

end Value

/-- An instance whose mandatory fields have slots passes the check when the slots do. -/
theorem Instance.Complete.valid {i : Instance} (complete : i.Complete)
    (each : ∀ p ∈ i.slots, p.2.Valid) : (Value.ofInstance i).Valid := by
  intro path
  rw [Value.ofInstance, Value.validate, Value.validateFields_eq_ok_iff]
  refine fun f member => ⟨fun check found => ?_, fun mandatory => ?_⟩
  · rw [Value.lookup_slotChecks] at found
    obtain ⟨v, held, rfl⟩ := Option.map_eq_some_iff.mp found
    exact each (f.name, v) (Members.mem_of_lookup held) _
  · rw [Value.lookup_slotChecks, Option.isSome_map]
    exact complete f member mandatory

/-! ### What is read -/

/-- A value that is well-typed and lacks no mandatory field, at any depth. -/
structure Value.Sound (v : Value) : Prop where
  wellTyped : v.WellTyped
  valid : v.Valid

theorem Value.Sound.atom {v : Value} (atom : v.isAtom) : v.Sound :=
  ⟨.atom v atom, .atom atom⟩

theorem Value.Sound.list {items : List Value} (notNull : ∀ v ∈ items, v ≠ .null)
    (each : ∀ v ∈ items, v.Sound) : (Value.list items).Sound :=
  ⟨.list items notNull fun v member => (each v member).wellTyped,
    .list fun v member => (each v member).valid⟩

theorem Instance.Holds.sound {i : Instance} (holds : i.Holds Value.Sound)
    (complete : i.Complete) : (Value.ofInstance i).Sound where
  wellTyped := wellTyped_iff.mpr (holds.mono fun _ sound => sound.wellTyped)
  valid := complete.valid fun p member => (holds.each p member).valid

namespace ModelSet

variable {s : ModelSet} {c : Codec} {mode : Mode} {type element : FieldType} {json : Json}
  {path place : String} {v : Value} {i j : Instance} {f : Field}

/-- A computation that gives nothing but sound values of a type. -/
def Gives (x : Except ModelError Value) (type : FieldType) : Prop :=
  ∀ v, x = .ok v → Value.conforms type v ∧ v.Sound

theorem readAtom_gives : Gives (readAtom s mode json type path) type := by
  intro v ok
  have scalar : v.isAtom ∧ Value.conforms type v := by
    rcases scalar_of_readAtom ok with ⟨text, plain⟩ | strict
    · exact Value.conforms_of_plainScalar? plain
    · exact Value.conforms_of_strictScalar? strict
  exact ⟨scalar.2, .atom scalar.1⟩

/-- A field is filled with what it may hold, and is left empty only if it is not mandatory. -/
theorem fills_gives {isSet : Bool} {json? : Option Json} {v? : Option Value}
    (each : ∀ json ∈ json?, Gives (readValue s c mode json f.type place) f.type)
    (fills : Fills s c mode f place isSet json? v?) :
    (∀ v, v? = some v → v = .null ∧ f.presence = .nullable ∨
      Value.conforms f.type v ∧ v.Sound) ∧ (f.presence = .mandatory → v? = none → isSet) := by
  cases fills with
  | absent known => exact ⟨fun v none => (nomatch none), fun mandatory _ => known mandatory⟩
  | nulled nullable =>
    refine ⟨fun v same => .inl ⟨(Option.some.inj same).symm, nullable⟩, fun _ none => ?_⟩
    cases none
  | skipped optional =>
    refine ⟨fun v none => (nomatch none), fun mandatory _ => ?_⟩
    rw [optional] at mandatory
    cases mandatory
  | read json v given reads =>
    refine ⟨fun w same => .inr ?_, fun _ none => (nomatch none)⟩
    obtain rfl := Option.some.inj same
    exact each json rfl v reads

/-- An object is read into an instance that lacks no mandatory field, when what was in its
slots before is sound. -/
theorem readObject_gives {members : List (String × Json)}
    (each : ∀ p ∈ members, ∀ type path, Gives (readValue s c mode p.2 type path) type)
    (distinct : i.model.fieldNames.Nodup) (holds : i.Holds Value.Sound)
    (ok : readObject c path (memberReaders s c mode members) i = .ok j) :
    j.model = i.model ∧ j.Holds Value.Sound ∧ j.Complete := by
  obtain ⟨_, filled⟩ := (readObject_eq_ok_iff distinct holds.sorted).mp ok
  have gives : ∀ f : Field, ∀ json ∈ Members.lookup f.name members, ∀ place,
      Gives (readValue s c mode json f.type place) f.type := fun f json found =>
    each (f.name, json) (Members.mem_of_lookup found) f.type
  refine ⟨filled.model, Instance.holds_of_get? filled.sorted fun key v held => ?_, ?_⟩
  · rw [filled.model]
    by_cases declared : key ∈ i.model.fieldNames
    · obtain ⟨f, member, rfl⟩ := List.mem_map.mp declared
      obtain ⟨v?, read, slot⟩ := filled.slots f member
      rw [readNamed_eq_ok_iff] at read
      cases v? with
      | none =>
        -- The field has no member, and its slot is as it was before.
        exact holds.get? (slot.symm.trans held)
      | some w =>
        obtain rfl : w = v := Option.some.inj (slot.symm.trans held)
        have known := Model.field?_of_mem distinct member
        have filling := (fills_gives (fun json found => gives f json found _) read).1 w rfl
        rcases filling with ⟨rfl, nullable⟩ | ⟨fits, sound⟩
        · exact ⟨Model.permits_null known nullable, .atom rfl⟩
        · exact ⟨Model.permits_of_conforms known fits, sound⟩
    · exact holds.get? ((filled.others key declared).symm.trans held)
  · intro f member mandatory
    rw [filled.model] at member
    obtain ⟨v?, read, slot⟩ := filled.slots f member
    rw [readNamed_eq_ok_iff] at read
    rw [Instance.isSet, slot]
    -- A mandatory field without a member has been set before, or reading has failed.
    cases v? with
    | some v => rfl
    | none => exact (fills_gives (fun json found => gives f json found _) read).2 mandatory rfl

/-- What is read as a value of a type is one, and sound. -/
theorem readValue_gives (distinct : ∀ m ∈ s.models, m.fieldNames.Nodup) :
    Gives (readValue s c mode json type path) type := by
  -- On the parts of the JSON value, in either mode.
  induction json using Json.parts_induction generalizing type path with
  | atom json atom =>
    rw [readValue_atom atom]
    exact readAtom_gives
  | arr items ih =>
    rw [readValue]
    cases type with
    | list element =>
      intro v ok
      obtain ⟨vs, read, rfl⟩ := map_eq_ok.mp ok
      have fits : ∀ v ∈ vs, Value.conforms element v ∧ v.Sound := by
        intro v member
        obtain ⟨item, listed, place, reads⟩ := exists_of_mem_readItems read member
        exact ih item listed v reads
      refine ⟨Value.conforms_list_iff.mpr fun v member => (fits v member).1, .list ?_ ?_⟩
      · exact fun v member => Value.ne_null_of_conforms (fits v member).1
      · exact fun v member => (fits v member).2
    | _ => exact readAtom_gives
  | obj members ih =>
    cases type with
    | model name =>
      intro v ok
      obtain ⟨_, m, i, same, found, read, rfl⟩ := readValue_model_eq_ok_iff.mp ok
      obtain rfl := Json.obj.inj same
      obtain ⟨declared, named⟩ := get?_eq_some found
      obtain ⟨model, holds, complete⟩ := readObject_gives
        (fun p member type path => ih p member) (distinct m declared) (.empty m) read
      refine ⟨?_, holds.sound complete⟩
      rw [Value.ofInstance, Value.conforms, model, beq_iff_eq]
      exact named
    | _ =>
      rw [readValue]
      exact readAtom_gives

theorem readInto_gives (distinct : ∀ m ∈ s.models, m.fieldNames.Nodup)
    (declared : i.model ∈ s.models) (holds : i.Holds Value.Sound)
    (ok : s.readInto c mode json i = .ok j) :
    j.Holds Value.Sound ∧ j.Complete := by
  cases json with
  | obj members =>
    exact (readObject_gives (fun p _ type path => readValue_gives distinct)
      (distinct i.model declared) holds ok).2
  | _ => cases ok

theorem setFiles_holds {files : List (String × List UInt8)} (holds : i.Holds Value.Sound)
    (ok : setFiles files i = .ok j) : j.model = i.model ∧ j.Holds Value.Sound := by
  induction files generalizing i with
  | nil =>
    obtain rfl := Except.ok.inj ok
    exact ⟨rfl, holds⟩
  | cons file rest ih =>
    obtain ⟨name, content⟩ := file
    rw [setFiles] at ok
    by_cases declared : (i.model.field? name).isSome
    · rw [if_pos declared] at ok
      obtain ⟨k, set, ok⟩ := bind_eq_ok.mp ok
      obtain ⟨kept, filled⟩ := holds.assign (fun v => .atom) (fun _ _ => .atom rfl)
        (Change.result_eq_ok_iff.mp set)
      obtain ⟨model, done⟩ := ih filled ok
      exact ⟨model.trans kept, done⟩
    · rw [if_neg declared] at ok
      exact ih holds ok

/-- What a body is read as is sound. -/
theorem decode_sound (distinct : ∀ m ∈ s.models, m.fieldNames.Nodup) {name : String}
    (ok : s.decode c name json = .ok i) : (Value.ofInstance i).Sound :=
  (readValue_gives distinct _ (decode_eq_ok_iff.mp ok)).2

/-- What a form is read as is sound: its files are in place before its fields are read. -/
theorem decodeForm_sound (distinct : ∀ m ∈ s.models, m.fieldNames.Nodup) {name : String}
    {files : List (String × List UInt8)} (ok : s.decodeForm c name json files = .ok i) :
    (Value.ofInstance i).Sound := by
  obtain ⟨empty, made, ok⟩ := bind_eq_ok.mp ok
  obtain ⟨m, found, rfl⟩ := instance?_eq_ok_iff.mp made
  obtain ⟨preset, set, read⟩ := bind_eq_ok.mp ok
  -- A slot that a file fills is kept or overwritten, so it still holds what it may.
  obtain ⟨model, holds⟩ := setFiles_holds (.empty m) set
  have declared : preset.model ∈ s.models := model ▸ (get?_eq_some found).1
  obtain ⟨filled, complete⟩ := readInto_gives distinct declared holds read
  exact filled.sound complete

/-! ### Instances that are reached -/

mutual

/-- The instances that are made from the models of a set by reading bodies and forms, and what
becomes of them when fields are set, successfully or not, and unset. -/
inductive Reaches (s : ModelSet) : Instance → Prop
  | empty (name : String) (i : Instance) (made : s.instance? name = .ok i) : Reaches s i
  | decoded (c : Codec) (name : String) (json : Json) (i : Instance)
      (read : s.decode c name json = .ok i) : Reaches s i
  | decodedForm (c : Codec) (name : String) (form : Json) (files : List (String × List UInt8))
      (i : Instance) (read : s.decodeForm c name form files = .ok i) : Reaches s i
  | assigned (i j : Instance) (name : String) (v : Value) (outcome : Except ModelError Unit)
      (before : Reaches s i) (given : Takes s v)
      (ran : (Instance.assign name v).on i = (outcome, j)) : Reaches s j
  | unset (i : Instance) (name : String) (before : Reaches s i) : Reaches s (i.unset name)

/-- The values that fields are set to: scalars, `null` among them, instances that are reached,
and lists of such values. -/
inductive Takes (s : ModelSet) : Value → Prop
  | scalar (v : Value) (atom : v.isAtom) : Takes s v
  | nested (i : Instance) (reached : Reaches s i) : Takes s (Value.ofInstance i)
  | list (items : List Value) (each : ∀ v ∈ items, Takes s v) : Takes s (.list items)

end

mutual

theorem Reaches.wellTyped (distinct : ∀ m ∈ s.models, m.fieldNames.Nodup) {i : Instance} :
    s.Reaches i → i.WellTyped
  | .empty name i made => by
    obtain ⟨m, _, rfl⟩ := instance?_eq_ok_iff.mp made
    exact Instance.wellTyped_iff.mpr (.empty m)
  | .decoded c name json i read => (decode_sound distinct read).wellTyped
  | .decodedForm c name form files i read => (decodeForm_sound distinct read).wellTyped
  | .assigned i j name v outcome before given ran => by
    have holds := Instance.wellTyped_iff.mp (Reaches.wellTyped distinct before)
    have value := Takes.wellTyped distinct given
    exact Instance.wellTyped_iff.mpr (holds.assign (fun v => .atom v) value ran).2
  | .unset i name before => by
    have holds := Instance.wellTyped_iff.mp (Reaches.wellTyped distinct before)
    exact Instance.wellTyped_iff.mpr (holds.unset name)

theorem Takes.wellTyped (distinct : ∀ m ∈ s.models, m.fieldNames.Nodup) {v : Value} :
    s.Takes v → ∀ type, Value.conforms type v → v.WellTyped
  | .scalar v atom, _, _ => .atom v atom
  | .nested i reached, _, _ => Reaches.wellTyped distinct reached
  | .list items each, type, fits => by
    cases type with
    | list element =>
      -- A list may be given with `null` among its items, but then it fits no type.
      have elements := Value.conforms_list_iff.mp fits
      refine .list items (fun v member => Value.ne_null_of_conforms (elements v member)) ?_
      exact fun v member => Takes.wellTyped distinct (each v member) element (elements v member)
    | _ => cases fits

end

/-- When the fields of each model have distinct names, every instance that is reached is
well-typed, at every depth. Setting a field that cannot be set changes nothing. Instances that
are read, from a body or from a form with its files, pass the check of their mandatory
fields. -/
theorem reaches_wellTyped (distinct : ∀ m ∈ s.models, m.fieldNames.Nodup) :
    (∀ i, s.Reaches i → i.WellTyped) ∧
      (∀ (i j : Instance) (name : String) (v : Value) (e : ModelError),
        (Instance.assign name v).on i = (.error e, j) → j = i) ∧
      (∀ c name json i, s.decode c name json = .ok i → i.validate = .ok ()) ∧
      ∀ c name form files i, s.decodeForm c name form files = .ok i → i.validate = .ok () := by
  refine ⟨fun i => Reaches.wellTyped distinct, ?_, ?_, ?_⟩
  · intro i j name v e failed
    exact Instance.eq_of_assign_error failed
  · intro c name json i read
    exact (decode_sound distinct read).valid "$"
  · intro c name form files i read
    exact (decodeForm_sound distinct read).valid "$"

end ModelSet

/-! ### Pictures -/

/-- The model of pictures, which may be made of others. -/
def picture : Model where
  name := "Picture"
  api := "gallery"
  fields := [⟨"title", .string, .mandatory, none, false⟩,
    ⟨"image", .bytes, .mandatory, none, false⟩, ⟨"year", .integer, .nullable, none, false⟩,
    ⟨"price", .number, .optional, none, false⟩,
    ⟨"parts", .list (.model "Picture"), .optional, none, false⟩]

/-- The models of a gallery. -/
def gallery : ModelSet := ⟨"gallery", [picture]⟩

/-- The fields of a form for a picture. -/
def dawnFields : Json := .obj [("title", .str "Dawn"), ("year", .null)]

/-- The files of the form; the model has no field for the second. -/
def dawnFiles : List (String × List UInt8) := [("image", [137, 80]), ("frame", [1])]

/-- The picture that the form is read as. -/
def dawn : Instance :=
  ⟨picture, [("image", .bytes [137, 80]), ("title", .string "Dawn"), ("year", .null)]⟩

/-- A picture made of two others. -/
def diptych : Instance :=
  dawn.put "parts" (.list [Value.ofInstance dawn, Value.ofInstance dawn])

/-- The form is read as a picture, which passes the check and is well-typed with two pictures
in it; that its title cannot be `null` leaves it as it is. -/
theorem ModelSet.reaches_wellTyped_gallery :
    (∀ m ∈ gallery.models, m.fieldNames.Nodup) ∧
      gallery.decodeForm {} "Picture" dawnFields dawnFiles = .ok dawn ∧
      dawn.validate = .ok () ∧ diptych.WellTyped ∧
      ∃ e, (Instance.assign "title" .null).on diptych = (.error e, diptych) := by
  have distinct : ∀ m ∈ gallery.models, m.fieldNames.Nodup := by decide
  have read : gallery.decodeForm {} "Picture" dawnFields dawnFiles = .ok dawn := rfl
  obtain ⟨wellTyped, unchanged, _, valid⟩ := reaches_wellTyped distinct
  have reached : gallery.Reaches dawn := .decodedForm {} "Picture" dawnFields dawnFiles dawn read
  have pictures : gallery.Takes (.list [Value.ofInstance dawn, Value.ofInstance dawn]) := by
    refine .list _ fun v member => ?_
    have same : v = Value.ofInstance dawn := by simpa using member
    exact same ▸ .nested dawn reached
  refine ⟨distinct, read, valid _ _ _ _ _ read, ?_, ?_⟩
  · exact wellTyped diptych (.assigned dawn diptych "parts" _ (.ok ()) reached pictures rfl)
  · cases ran : (Instance.assign "title" .null).on diptych with
    | mk outcome after =>
      cases outcome with
      | ok done => cases ran
      | error e => exact ⟨e, by rw [unchanged diptych after "title" .null e ran]⟩

end ApiContract
