import ApiContract.Model.Instance
import ApiContract.Proofs.Contract.Models
import ApiContract.Proofs.Json.Value
import ApiContract.Proofs.Members

/-!
# Reading an object field by field

The fields of a model are read in their order, and the first failure ends the reading. As no
two fields have one name, each fills or leaves its own slot: an object is read when each of
the fields can be read by itself, and what a slot then holds depends on its field and its
member alone, not on the order.

## Main definitions

* `ModelSet.readField` — what one field is filled with
* `ModelSet.Filled` — the slots of an instance after each of the fields is read
* `ModelSet.Fills` — what a field is filled with by its member
* `ModelSet.strictScalar?`, `ModelSet.plainScalar?` — the scalars that JSON and plain text
  stand for

## Main results

* `ModelSet.readFields_eq_ok_iff` — fields are read one by one
* `ModelSet.readObject_eq_ok_iff` — when an object is read, and as what
* `ModelSet.readNamed_eq_ok_iff` — when a field is filled, and with what
-/

namespace ApiContract

namespace Instance

/-- Filling a slot changes it alone. -/
@[simp] theorem get?_put (i : Instance) (name : String) (v : Value) (k : String) :
    (i.put name v).get? k = if name = k then some v else i.get? k :=
  Members.lookup_insert k name v i.slots

/-- Instances of one model whose slots are in order are the same when every slot is. -/
theorem ext_get? {i j : Instance} (model : i.model = j.model) (left : Members.Sorted i.slots)
    (right : Members.Sorted j.slots) (same : ∀ name, i.get? name = j.get? name) : i = j := by
  obtain ⟨m, slots⟩ := i
  obtain ⟨n, others⟩ := j
  obtain rfl : m = n := model
  obtain rfl : slots = others := Members.Sorted.ext left right same
  rfl

/-- An instance with a slot filled, if there is something to fill it with. -/
def fill (i : Instance) (name : String) (v? : Option Value) : Instance :=
  v?.elim i (i.put name)

@[simp] theorem get?_fill (i : Instance) (name : String) (v? : Option Value) (k : String) :
    (i.fill name v?).get? k = if name = k then v?.or (i.get? k) else i.get? k := by
  cases v? with
  | none => simp [fill]
  | some v => exact get?_put i name v k

@[simp] theorem model_fill (i : Instance) (name : String) (v? : Option Value) :
    (i.fill name v?).model = i.model := by
  cases v? <;> rfl

theorem sorted_fill {i : Instance} (sorted : Members.Sorted i.slots) (name : String)
    (v? : Option Value) : Members.Sorted (i.fill name v?).slots := by
  cases v? with
  | none => exact sorted
  | some v => exact sorted.insert name v

end Instance

namespace ModelSet

/-- What a field is filled with, if its slot is not left as it is; given whether the slot is
filled already, and of the member of the field's name, if there is one, whether it is `null`
and how to read it. -/
def readField (model place : String) (f : Field) (isSet : Bool) :
    Option (Bool × Reader) → Except ModelError (Option Value)
  | none =>
    if f.presence = .mandatory ∧ !isSet then .error (.missingField model place) else .ok none
  | some (true, _) =>
    match f.presence with
    | .mandatory => .error (.nullNotAllowed model place)
    | .nullable => .ok (some .null)
    | .optional => .ok none
  | some (false, reader) => (reader f.type place).map some

section Fields

variable {path : String} {readers : List (String × Bool × Reader)} {fields : List Field}
  {i j : Instance}

/-- What the member of a field's name fills it with. -/
abbrev readNamed (path : String) (readers : List (String × Bool × Reader)) (i : Instance)
    (f : Field) : Except ModelError (Option Value) :=
  readField i.model.name (path ++ "." ++ f.name) f (i.isSet f.name)
    (Members.lookup f.name readers)

/-- The first field is filled, and then the others. -/
theorem readFields_cons (f : Field) (rest : List Field) (i : Instance) :
    readFields path readers (f :: rest) i =
      (readNamed path readers i f).bind fun v? =>
        readFields path readers rest (i.fill f.name v?) := by
  rw [readFields, readNamed]
  cases Members.lookup f.name readers with
  | none =>
    rw [readField]
    dsimp only
    split <;> rfl
  | some given =>
    obtain ⟨isNull, reader⟩ := given
    cases isNull with
    | true =>
      rw [readField]
      cases f.presence <;> rfl
    | false =>
      rw [readField]
      dsimp only
      cases reader f.type (path ++ "." ++ f.name) <;> rfl

/-- The slots of an instance, those of the given fields filled by reading them and the others
as before. -/
structure Filled (path : String) (readers : List (String × Bool × Reader))
    (fields : List Field) (before after : Instance) : Prop where
  model : after.model = before.model
  sorted : Members.Sorted after.slots
  slots : ∀ f ∈ fields, ∃ v?, readNamed path readers before f = .ok v? ∧
    after.get? f.name = v?.or (before.get? f.name)
  others : ∀ name, name ∉ fields.map Field.name → after.get? name = before.get? name

/-- Filling one field leaves the reading of another as it was. -/
theorem readNamed_fill {f g : Field} (differ : f.name ≠ g.name) (v? : Option Value) :
    readNamed path readers (i.fill f.name v?) g = readNamed path readers i g := by
  rw [readNamed, readNamed, Instance.isSet, Instance.get?_fill, if_neg differ,
    Instance.model_fill, Instance.isSet]

/-- Fields of distinct names are read one by one. -/
theorem readFields_ok (distinct : (fields.map Field.name).Nodup)
    (sorted : Members.Sorted i.slots) (ok : readFields path readers fields i = .ok j) :
    Filled path readers fields i j := by
  induction fields generalizing i with
  | nil =>
    obtain rfl := Except.ok.inj ok
    exact ⟨rfl, sorted, List.forall_mem_nil _, fun _ _ => rfl⟩
  | cons f rest ih =>
    rw [List.map_cons, List.nodup_cons] at distinct
    rw [readFields_cons] at ok
    obtain ⟨v?, first, ok⟩ := bind_eq_ok.mp ok
    -- The other fields have other names, so they neither see nor change the first slot.
    have later := ih distinct.2 (Instance.sorted_fill sorted f.name v?) ok
    refine ⟨by rw [later.model, Instance.model_fill], later.sorted, fun g member => ?_, ?_⟩
    · rcases List.mem_cons.mp member with rfl | behind
      · refine ⟨v?, first, ?_⟩
        rw [later.others _ distinct.1, Instance.get?_fill, if_pos rfl]
      · have differ : f.name ≠ g.name := fun same =>
          distinct.1 (same ▸ List.mem_map_of_mem (f := Field.name) behind)
        obtain ⟨w?, read, slot⟩ := later.slots g behind
        rw [readNamed_fill differ] at read
        rw [Instance.get?_fill, if_neg differ] at slot
        exact ⟨w?, read, slot⟩
    · intro name absent
      rw [List.map_cons, List.mem_cons, not_or] at absent
      rw [later.others name absent.2, Instance.get?_fill, if_neg (Ne.symm absent.1)]

/-- Fields each of which can be read can be read one after the other. -/
theorem readFields_of_each (distinct : (fields.map Field.name).Nodup)
    (each : ∀ f ∈ fields, ∃ v?, readNamed path readers i f = .ok v?) :
    ∃ j, readFields path readers fields i = .ok j := by
  induction fields generalizing i with
  | nil => exact ⟨i, rfl⟩
  | cons f rest ih =>
    rw [List.map_cons, List.nodup_cons] at distinct
    obtain ⟨v?, first⟩ := each f List.mem_cons_self
    rw [readFields_cons, first]
    refine ih distinct.2 fun g behind => ?_
    have differ : f.name ≠ g.name := fun same =>
      distinct.1 (same ▸ List.mem_map_of_mem (f := Field.name) behind)
    rw [readNamed_fill differ]
    exact each g (List.mem_cons_of_mem _ behind)

/-- What is filled is known by the fields. -/
theorem Filled.unique {k : Instance} (left : Filled path readers fields i j)
    (right : Filled path readers fields i k) : j = k := by
  refine Instance.ext_get? (left.model.trans right.model.symm) left.sorted right.sorted ?_
  intro name
  by_cases member : name ∈ fields.map Field.name
  · obtain ⟨f, declared, rfl⟩ := List.mem_map.mp member
    obtain ⟨v?, read, slot⟩ := left.slots f declared
    obtain ⟨w?, again, other⟩ := right.slots f declared
    rw [read] at again
    obtain rfl := Except.ok.inj again
    rw [slot, other]
  · rw [left.others name member, right.others name member]

/-- Fields are read as an instance exactly when reading each of them fills it. -/
theorem readFields_eq_ok_iff (distinct : (fields.map Field.name).Nodup)
    (sorted : Members.Sorted i.slots) :
    readFields path readers fields i = .ok j ↔ Filled path readers fields i j := by
  refine ⟨readFields_ok distinct sorted, fun filled => ?_⟩
  obtain ⟨k, ok⟩ := readFields_of_each distinct fun f member =>
    let ⟨v?, read, _⟩ := filled.slots f member
    ⟨v?, read⟩
  rw [ok, (readFields_ok distinct sorted ok).unique filled]

theorem undeclared?_eq_none_iff {m : Model} {keys : List String} :
    undeclared? m keys = none ↔ ∀ k ∈ keys, k ∈ m.fieldNames := by
  simp [undeclared?, ← Model.isSome_field?_iff, Option.isSome_iff_ne_none]

/-- An object is read by the fields of its model when its members may be there. -/
theorem readObject_eq_readFields_ok_iff {c : Codec} :
    readObject c path readers i = .ok j ↔
      (c.unknownFields = .reject → ∀ k ∈ Members.keys readers, k ∈ i.model.fieldNames) ∧
        readFields path readers i.model.fields i = .ok j := by
  rw [← undeclared?_eq_none_iff, readObject]
  cases c.unknownFields with
  | tolerate => simp
  | reject => cases undeclared? i.model (Members.keys readers) <;> simp

/-- An object is read when its members may be there and each field can be read. -/
theorem readObject_eq_ok_iff {c : Codec} (distinct : i.model.fieldNames.Nodup)
    (sorted : Members.Sorted i.slots) :
    readObject c path readers i = .ok j ↔
      (c.unknownFields = .reject → ∀ k ∈ Members.keys readers, k ∈ i.model.fieldNames) ∧
        Filled path readers i.model.fields i j := by
  rw [readObject_eq_readFields_ok_iff, readFields_eq_ok_iff distinct sorted]

end Fields

/-! ### The members of an object -/

variable {s : ModelSet} {c : Codec} {mode : Mode} {path : String}

/-- How a member is given to the field that it fills. -/
abbrev memberReader (s : ModelSet) (c : Codec) (mode : Mode) (json : Json) : Bool × Reader :=
  (json.isNull, fun type path => readValue s c mode json type path)

theorem memberReaders_eq (members : List (String × Json)) :
    memberReaders s c mode members = members.map fun p => (p.1, memberReader s c mode p.2) := by
  induction members with
  | nil => rfl
  | cons p rest ih => rw [memberReaders, ih, List.map_cons]

@[simp] theorem lookup_memberReaders (key : String) (members : List (String × Json)) :
    Members.lookup key (memberReaders s c mode members) =
      (Members.lookup key members).map (memberReader s c mode) := by
  rw [memberReaders_eq]
  exact Members.lookup_map (fun _ json => memberReader s c mode json) key members

@[simp] theorem keys_memberReaders (members : List (String × Json)) :
    Members.keys (memberReaders s c mode members) = Members.keys members := by
  rw [memberReaders_eq, Members.keys, List.map_map, Members.keys]
  rfl

/-- What a field is filled with by its member, if there is one, and if its slot is not left as
it is. -/
inductive Fills (s : ModelSet) (c : Codec) (mode : Mode) (f : Field) (place : String)
    (isSet : Bool) : Option Json → Option Value → Prop
  | absent (known : f.presence = .mandatory → isSet) : Fills s c mode f place isSet none none
  | nulled (nullable : f.presence = .nullable) :
      Fills s c mode f place isSet (some .null) (some .null)
  | skipped (optional : f.presence = .optional) : Fills s c mode f place isSet (some .null) none
  | read (json : Json) (v : Value) (given : json ≠ .null)
      (reads : readValue s c mode json f.type place = .ok v) :
      Fills s c mode f place isSet (some json) (some v)

/-- A field that its member can be read for is filled in one of these ways. -/
theorem readField_eq_ok_iff {f : Field} {model place : String} {isSet : Bool}
    {json? : Option Json} {v? : Option Value} :
    readField model place f isSet (json?.map (memberReader s c mode)) = .ok v? ↔
      Fills s c mode f place isSet json? v? := by
  cases json? with
  | none =>
    rw [Option.map_none, readField]
    by_cases missing : f.presence = .mandatory ∧ !isSet
    · rw [if_pos missing]
      constructor
      · intro ok
        cases ok
      · intro fills
        cases fills with
        | absent known => simp [known missing.1] at missing
    · rw [if_neg missing]
      constructor
      · intro ok
        obtain rfl := Except.ok.inj ok
        exact .absent fun mandatory => by simpa [mandatory] using missing
      · intro fills
        cases fills
        rfl
  | some json =>
    rw [Option.map_some]
    by_cases null : json = .null
    · subst null
      rw [memberReader, Json.isNull, readField]
      constructor
      · intro ok
        cases presence : f.presence with
        | mandatory =>
          rw [presence] at ok
          cases ok
        | nullable =>
          rw [presence] at ok
          obtain rfl := Except.ok.inj ok
          exact .nulled presence
        | optional =>
          rw [presence] at ok
          obtain rfl := Except.ok.inj ok
          exact .skipped presence
      · intro fills
        cases fills with
        | nulled nullable => rw [nullable]
        | skipped optional => rw [optional]
        | read _ _ given => exact absurd rfl given
    · have given : json.isNull = false := Json.isNull_eq_false_iff.mpr null
      rw [memberReader, given, readField, map_eq_ok]
      constructor
      · rintro ⟨v, reads, rfl⟩
        exact .read json v null reads
      · intro fills
        cases fills with
        | nulled => exact absurd rfl null
        | skipped => exact absurd rfl null
        | read _ v _ reads => exact ⟨v, reads, rfl⟩

theorem Fills.unique {f : Field} {place : String} {isSet : Bool} {json? : Option Json}
    {v? w? : Option Value} (left : Fills s c mode f place isSet json? v?)
    (right : Fills s c mode f place isSet json? w?) : v? = w? := by
  have reads : readField "" place f isSet (json?.map (memberReader s c mode)) = .ok v? :=
    readField_eq_ok_iff.mpr left
  exact Except.ok.inj (reads.symm.trans (readField_eq_ok_iff.mpr right))

/-- A field is filled by the member of its name. -/
theorem readNamed_eq_ok_iff {f : Field} {i : Instance} {members : List (String × Json)}
    {v? : Option Value} :
    readNamed path (memberReaders s c mode members) i f = .ok v? ↔
      Fills s c mode f (path ++ "." ++ f.name) (i.isSet f.name)
        (Members.lookup f.name members) v? := by
  rw [readNamed, lookup_memberReaders, readField_eq_ok_iff]

/-! ### Values -/

variable {type element : FieldType} {v : Value}

theorem readValue_atom {json : Json} (atom : json.isAtom) :
    readValue s c mode json = readAtom s mode json := by
  cases json <;> first | rfl | cases atom

/-- The items of an array are read when none of them is `null` and each can be read. -/
theorem readItems_cons_eq_ok_iff {item : Json} {rest : List Json} {i : Nat} {vs : List Value} :
    readItems s c mode (item :: rest) element path i = .ok vs ↔
      item.isNull = false ∧ ∃ v more, readValue s c mode item element s!"{path}[{i}]" = .ok v ∧
        readItems s c mode rest element path (i + 1) = .ok more ∧ v :: more = vs := by
  rw [readItems]
  cases item.isNull with
  | true => exact ⟨fun ok => (nomatch ok), fun there => (nomatch there.1)⟩
  | false =>
    constructor
    · intro ok
      obtain ⟨v, here, ok⟩ := bind_eq_ok.mp ok
      obtain ⟨more, later, ok⟩ := bind_eq_ok.mp ok
      exact ⟨rfl, v, more, here, later, Except.ok.inj ok⟩
    · rintro ⟨_, v, more, here, later, rfl⟩
      exact bind_eq_ok.mpr ⟨v, here, bind_eq_ok.mpr ⟨more, later, rfl⟩⟩

/-- What items are read as, one of them was read as. -/
theorem exists_of_mem_readItems {items : List Json} {start : Nat} {vs : List Value}
    (ok : readItems s c mode items element path start = .ok vs) (member : v ∈ vs) :
    ∃ item ∈ items, ∃ place, readValue s c mode item element place = .ok v := by
  induction items generalizing start vs with
  | nil =>
    rw [readItems] at ok
    obtain rfl := Except.ok.inj ok
    cases member
  | cons item rest ih =>
    obtain ⟨_, first, more, here, later, rfl⟩ := readItems_cons_eq_ok_iff.mp ok
    rcases List.mem_cons.mp member with rfl | behind
    · exact ⟨item, List.mem_cons_self, _, here⟩
    · obtain ⟨other, listed, place, reads⟩ := ih later behind
      exact ⟨other, List.mem_cons_of_mem _ listed, place, reads⟩

theorem instance?_eq_ok_iff {name : String} {i : Instance} :
    s.instance? name = .ok i ↔ ∃ m, s.get? name = some m ∧ { model := m } = i := by
  rw [instance?]
  cases s.get? name <;> simp

/-- What is neither array nor object is no instance of a model. -/
theorem readAtom_model {json : Json} {name : String} :
    readAtom s mode json (.model name) path ≠ .ok v := by
  intro ok
  unfold readAtom at ok
  dsimp only at ok
  split at ok
  · rename_i scalar
    cases scalar
  · obtain ⟨_, _, ok⟩ := bind_eq_ok.mp ok
    cases ok

/-- What is neither array nor object is read without looking at the models. -/
theorem readAtom_congr {t : ModelSet} {json : Json}
    (ok : readAtom s mode json type path = .ok v) : readAtom t mode json type path = .ok v := by
  cases type with
  | model name => exact absurd ok readAtom_model
  | _ => exact ok

/-- The value of a scalar type that a JSON value stands for, when plain text is not enough. -/
def strictScalar? (json : Json) : FieldType → Option Value
  | .bool => json.asBool?.map .bool
  | .integer => json.asInt64?.map .integer
  | .number => json.asFloat?.map .number
  | .string => json.asStr?.map .string
  | .timestamp => (json.asStr?.bind Instant.read?).map .timestamp
  | .bytes => json.asStr?.map fun text => .bytes (Utf8.encode text)
  | .oneOf allowed => json.asStr?.bind fun text =>
    if allowed.contains text then some (.string text) else none
  | .model _ => none
  | .list _ => none

private theorem expect_eq_ok_iff {v? : Option Value} {e : ModelError} :
    (match v? with
      | some v => Except.ok v
      | none => .error e) = .ok v ↔ v? = some v := by
  cases v? <;> simp

/-- What is neither array nor object is read strictly as the scalar it stands for. -/
theorem readAtom_strict_eq_ok_iff {json : Json} :
    readAtom s .strict json type path = .ok v ↔ strictScalar? json type = some v := by
  cases type with
  | oneOf allowed =>
    unfold readAtom strictScalar?
    cases json.asStr? with
    | none => simp
    | some text =>
      rw [Option.bind_some]
      unfold readMember
      dsimp only
      split
      · rename_i member
        simp [List.contains_iff_mem.mp member]
      · rename_i other
        have absent : text ∉ allowed := fun member => other (List.contains_iff_mem.mpr member)
        simp [absent]
  | model name => exact ⟨fun ok => absurd ok readAtom_model, fun none => nomatch none⟩
  | list element => exact ⟨fun error => (nomatch error), fun none => nomatch none⟩
  | _ => exact expect_eq_ok_iff

/-- The value of a scalar type that a plain text stands for. -/
def plainScalar? (text : String) : FieldType → Option Value
  | .bool => (Value.readBool? text).map .bool
  | .integer => (Decimal.readInt64? (Text.trim text)).map .integer
  | .number => (Decimal.readFloat? (Text.trim text)).map .number
  | .string => some (.string text)
  | .timestamp => (Instant.read? text).map .timestamp
  | .bytes => some (.bytes (Utf8.encode text))
  | .oneOf allowed => if allowed.contains text then some (.string text) else none
  | .model _ => none
  | .list _ => none

theorem readScalar_eq_ok_iff {text : String} :
    Value.readScalar type text = .ok v ↔ plainScalar? text type = some v := by
  unfold Value.readScalar plainScalar?
  cases type with
  | string => simp
  | bytes => simp
  | oneOf allowed =>
    dsimp only
    by_cases member : allowed.contains text
    · rw [if_pos member, if_pos member, Except.ok.injEq, Option.some.injEq]
    · rw [if_neg member, if_neg member]
      simp
  | model name => simp
  | list element => simp
  | bool =>
    dsimp only
    cases (Value.readBool? text).map Value.bool <;> simp
  | integer =>
    dsimp only
    cases (Decimal.readInt64? (Text.trim text)).map Value.integer <;> simp
  | number =>
    dsimp only
    cases (Decimal.readFloat? (Text.trim text)).map Value.number <;> simp
  | timestamp =>
    dsimp only
    cases (Instant.read? text).map Value.timestamp <;> simp

theorem readText_eq_ok_iff {text : String} :
    readText type path text = .ok v ↔ plainScalar? text type = some v := by
  rw [← readScalar_eq_ok_iff]
  unfold readText
  cases Value.readScalar type text with
  | ok w => simp
  | error reason => cases type <;> simp

/-- A text is read leniently as the scalar that it stands for. -/
theorem readAtom_plain_eq_ok_iff {text : String} :
    readAtom s .lenient (.str text) type path = .ok v ↔ plainScalar? text type = some v := by
  by_cases scalar : type.isScalar
  · have plain : readAtom s .lenient (.str text) type path = readText type path text := by
      unfold readAtom
      rw [scalar]
    rw [plain, readText_eq_ok_iff]
  · cases type with
    | model name => exact ⟨fun ok => absurd ok readAtom_model, fun none => nomatch none⟩
    | list element => exact ⟨fun error => (nomatch error), fun none => nomatch none⟩
    | _ => exact absurd rfl scalar

/-- What is read from neither array nor object is the scalar that the value stands for, or one
that plain text stands for. -/
theorem scalar_of_readAtom {json : Json} (ok : readAtom s mode json type path = .ok v) :
    (∃ text, plainScalar? text type = some v) ∨ strictScalar? json type = some v := by
  unfold readAtom at ok
  dsimp only at ok
  split at ok
  · exact .inl ⟨_, readText_eq_ok_iff.mp ok⟩
  · exact .inr (readAtom_strict_eq_ok_iff.mp ok)

/-- A scalar is read from neither an array nor an object. -/
theorem readValue_scalar {json : Json} (scalar : type.isScalar) :
    readValue s c mode json type path = readAtom s mode json type path := by
  cases json with
  | arr items =>
    rw [readValue]
    cases type with
    | list element => cases scalar
    | _ => rfl
  | obj members =>
    rw [readValue]
    cases type with
    | model name => cases scalar
    | _ => rfl
  | _ => rw [readValue_atom rfl]

theorem ofInstance_inj {i j : Instance} (same : Value.ofInstance i = Value.ofInstance j) :
    i = j := by
  obtain ⟨model, slots⟩ := Value.model.inj same
  exact (Instance.mk.injEq ..).mpr ⟨model, slots⟩

/-- An instance of a model is read from an object. -/
theorem readValue_model_eq_ok_iff {json : Json} {name : String} :
    readValue s c mode json (.model name) path = .ok v ↔
      ∃ members m i, json = .obj members ∧ s.get? name = some m ∧
        readObject c path (memberReaders s c mode members) { model := m } = .ok i ∧
          Value.ofInstance i = v := by
  constructor
  · intro ok
    cases json with
    | obj members =>
      rw [readValue] at ok
      obtain ⟨empty, found, ok⟩ := bind_eq_ok.mp ok
      obtain ⟨m, here, rfl⟩ := instance?_eq_ok_iff.mp found
      obtain ⟨i, read, ok⟩ := bind_eq_ok.mp ok
      exact ⟨members, m, i, rfl, here, read, Except.ok.inj ok⟩
    | _ => exact absurd ok readAtom_model
  · rintro ⟨members, m, i, rfl, here, read, rfl⟩
    rw [readValue]
    have empty : s.instance? name = .ok { model := m } := instance?_eq_ok_iff.mpr ⟨m, here, rfl⟩
    exact bind_eq_ok.mpr ⟨_, empty, bind_eq_ok.mpr ⟨i, read, rfl⟩⟩

/-- An empty instance is filled, in either mode, as a value of the model's type is read. -/
theorem readInto_eq_ok_iff {name : String} {json : Json} {i : Instance} :
    (s.instance? name >>= s.readInto c mode json) = .ok i ↔
      readValue s c mode json (.model name) "$" = .ok (Value.ofInstance i) := by
  rw [readValue_model_eq_ok_iff]
  constructor
  · intro ok
    obtain ⟨empty, found, ok⟩ := bind_eq_ok.mp ok
    obtain ⟨m, here, rfl⟩ := instance?_eq_ok_iff.mp found
    cases json with
    | obj members => exact ⟨members, m, i, rfl, here, ok, rfl⟩
    | _ => cases ok
  · rintro ⟨members, m, j, rfl, here, read, same⟩
    obtain rfl := ofInstance_inj same
    have empty : s.instance? name = .ok { model := m } := instance?_eq_ok_iff.mpr ⟨m, here, rfl⟩
    exact bind_eq_ok.mpr ⟨_, empty, read⟩

/-- A body is read as a value of the model's type is. -/
theorem decode_eq_ok_iff {name : String} {json : Json} {i : Instance} :
    s.decode c name json = .ok i ↔
      readValue s c .strict json (.model name) "$" = .ok (Value.ofInstance i) :=
  readInto_eq_ok_iff

/-- A form without files is read as a value of the model's type is. -/
theorem decodeForm_nil_eq_ok_iff {name : String} {form : Json} {i : Instance} :
    s.decodeForm c name form [] = .ok i ↔
      readValue s c .lenient form (.model name) "$" = .ok (Value.ofInstance i) := by
  have whole : withoutFiles [] form = form := by cases form <;> rfl
  have same : s.decodeForm c name form [] = (s.instance? name >>= s.readInto c .lenient form) := by
    rw [decodeForm, whole]
    rfl
  rw [same, readInto_eq_ok_iff]

end ModelSet

end ApiContract
