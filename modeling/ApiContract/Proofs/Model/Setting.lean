import ApiContract.Proofs.Model.Conformance
import ApiContract.Proofs.Model.Widening

/-!
# Values that are set and values that are read

A handler sets a field to a value, and a client sends the JSON of the same value. What is read
from the JSON has a number wherever a number is asked for, whether an integer was written there
or not. What is set is kept as it is given, save that an integer becomes a number if the field
itself is a number field. So both leave the same in the slot, unless some list of numbers in the
value was given with an integer as an item: the list that is set keeps it.

## Main definitions

* `Value.Faithful` — what is written in full
* `Value.asRead` — a value as it is read from what it is written as
* `Value.KeepsInteger` — an integer is an item of a list of numbers

## Main results

* `Value.readValue_encode_asRead` — what is read from what a value is written as
* `Value.asRead_eq_widen_iff` — when a value is read as it is kept
* `ModelSet.set_stores` — what a field that is set holds, and what it holds when it is read
-/

namespace ApiContract

/-- A value is written in full: at every depth numbers are finite, bytes are a text, and
timestamps are in years that have a written form and no finer than a microsecond. -/
inductive Value.Faithful : Value → Prop
  | atom (v : Value) (atom : v.isAtom) (finite : ∀ x, v = .number x → Decimal.isFinite x)
      (text : ∀ content, v = .bytes content → ∃ text, content = Utf8.encode text)
      (precise : ∀ t, v = .timestamp t → t.date.InRange ∧ t.truncated = t) : Faithful v
  | list (items : List Value) (each : ∀ v ∈ items, Faithful v) : Faithful (.list items)
  | model (m : Model) (slots : List (String × Value)) (each : ∀ p ∈ slots, Faithful p.2) :
      Faithful (.model m slots)

namespace Value

mutual

/-- A value of a type as it is read from what it is written as: wherever a number is asked for,
an integer has become one. -/
def asRead (type : FieldType) : Value → Value
  | .list items =>
    match type with
    | .list element => .list (asReadItems element items)
    | _ => .list items
  | .model m slots => .model m (asReadSlots m slots)
  | v => Instance.widen type v

/-- Items as they are read. -/
def asReadItems (element : FieldType) : List Value → List Value
  | [] => []
  | v :: rest => v.asRead element :: asReadItems element rest

/-- The slots of a model as they are read. -/
def asReadSlots (m : Model) : List (String × Value) → List (String × Value)
  | [] => []
  | (k, v) :: rest =>
    (k, match m.field? k with
      | some f => v.asRead f.type
      | none => v) :: asReadSlots m rest

end

/-- Some list of numbers in a value of a type has an integer as an item. -/
inductive KeepsInteger : FieldType → Value → Prop
  | here (items : List Value) (n : Int64) (member : .integer n ∈ items) :
      KeepsInteger (.list .number) (.list items)
  | item (element : FieldType) (items : List Value) (v : Value) (member : v ∈ items)
      (inside : KeepsInteger element v) : KeepsInteger (.list element) (.list items)
  | slot (type : FieldType) (m : Model) (slots : List (String × Value)) (key : String) (f : Field)
      (v : Value) (member : (key, v) ∈ slots) (declared : m.field? key = some f)
      (inside : KeepsInteger f.type v) : KeepsInteger type (.model m slots)

variable {s : ModelSet} {c : Codec} {type element : FieldType} {m : Model} {v : Value}
  {items : List Value} {slots : List (String × Value)}

theorem asRead_atom (atom : v.isAtom) : v.asRead type = Instance.widen type v := by
  cases v <;> first | rfl | cases atom

theorem asRead_null : Value.null.asRead type = .null :=
  Instance.widen_eq_self_iff.mpr fun ⟨_, _, other⟩ => nomatch other

theorem asRead_list (element : FieldType) (items : List Value) :
    (Value.list items).asRead (.list element) = .list (items.map (asRead element)) := by
  have each : ∀ items, asReadItems element items = items.map (asRead element) := by
    intro items
    induction items with
    | nil => rfl
    | cons v rest ih => rw [asReadItems, ih, List.map_cons]
  rw [asRead, each]

/-- What a slot of a model holds as it is read. -/
def asReadSlot (m : Model) (key : String) (v : Value) : Value :=
  match m.field? key with
  | some f => v.asRead f.type
  | none => v

theorem asReadSlots_eq (m : Model) (slots : List (String × Value)) :
    asReadSlots m slots = slots.map fun p => (p.1, asReadSlot m p.1 p.2) := by
  induction slots with
  | nil => rfl
  | cons p rest ih =>
    rw [asReadSlots, ih, List.map_cons]
    rfl

theorem lookup_asReadSlots (key : String) : Members.lookup key (asReadSlots m slots) =
    (Members.lookup key slots).map (asReadSlot m key) := by
  rw [asReadSlots_eq]
  exact Members.lookup_map (asReadSlot m) key slots

theorem sorted_asReadSlots (sorted : Members.Sorted slots) :
    Members.Sorted (asReadSlots m slots) := by
  rw [asReadSlots_eq]
  exact List.pairwise_map.mpr sorted

theorem asReadSlot_of_mem (distinct : m.fieldNames.Nodup) {f : Field} (member : f ∈ m.fields) :
    asReadSlot m f.name v = v.asRead f.type := by
  rw [asReadSlot, Model.field?_of_mem distinct member]

/-! ### What is read from what a value is written as -/

theorem Faithful.writable (faithful : v.Faithful) : v.Writable := by
  induction faithful with
  | atom v atom finite _ precise => exact .atom v atom finite fun t same => (precise t same).1
  | list items _ ih => exact .list items ih
  | model m slots _ ih => exact .model m slots ih

/-- A scalar is read as it is kept. -/
theorem strictScalar_encode_atom (atom : v.isAtom) (fits : conforms type v)
    (faithful : v.Faithful) :
    ModelSet.strictScalar? (v.encode .default) type = some (Instance.widen type v) := by
  cases faithful with
  | list => cases atom
  | model => cases atom
  | atom _ _ finite text precise =>
    unfold conforms at fits
    split at fits
    · rfl
    · rename_i n _
      have read : (Json.int n.toInt).asInt64? = some n := by
        rw [Json.asInt64?, if_pos (Decimal.isInt64_toInt n), Int64.ofInt_toInt]
      rw [encode, ModelSet.strictScalar?, read]
      rfl
    · rename_i x _
      rw [encode, Json.ofFloat, if_pos (finite x rfl)]
      rfl
    · rfl
    · rfl
    · rename_i t _
      obtain ⟨inRange, same⟩ := precise t rfl
      have read : Instant.read? (Codec.default.writeTimestamp t) = some t.truncated :=
        Instant.read?_format inRange
      rw [encode, ModelSet.strictScalar?, Json.asStr?, Option.bind_some, read, same]
      rfl
    · rename_i content _
      obtain ⟨text, rfl⟩ := text content rfl
      rw [encode, Utf8.decodeLossy_encode]
      rfl
    · rename_i allowed text _
      rw [encode, ModelSet.strictScalar?, Json.asStr?, Option.bind_some, if_pos fits]
      rfl
    · cases atom
    · cases atom
    · cases fits

/-- A checked value that is written in full is read from what it is written as, with numbers
wherever they are asked for. -/
theorem readValue_encode_asRead (closed : s.Closed) (wellTyped : v.WellTyped) (owned : s.Owns v)
    (faithful : v.Faithful) {place : String} (valid : v.validate place = .ok ())
    (fits : conforms type v) (path : String) :
    s.readValue c .strict (v.encode .default) type path = .ok (v.asRead type) := by
  -- On the value; the parts of a list fit the type of its elements, and those of an instance
  -- the types of its fields.
  induction wellTyped generalizing type place path with
  | atom v atom =>
    rw [ModelSet.readValue_scalar (isScalar_of_conforms atom fits),
      ModelSet.readAtom_strict_eq_ok_iff, asRead_atom atom]
    exact strictScalar_encode_atom atom fits faithful
  | list items notNull each ih =>
    cases owned with
    | atom _ atom => cases atom
    | list _ owned =>
      cases faithful with
      | atom _ atom => cases atom
      | list _ faithful =>
        cases type with
        | list element =>
          have fits := conforms_list_iff.mp fits
          have passes := of_validateItems valid
          rw [asRead_list]
          refine ModelSet.readValue_encode_list
            (fun v member => encode_ne_null (fits v member) (faithful v member).writable) ?_
          intro v member path
          obtain ⟨place, valid⟩ := passes v member
          exact ih v member (owned v member) (faithful v member) valid (fits v member) path
        | _ => cases fits
  | model m slots sorted permitted each ih =>
    cases owned with
    | atom _ atom => cases atom
    | model _ _ known owned =>
      cases faithful with
      | atom _ atom => cases atom
      | model _ _ faithful =>
        cases type with
        | model name =>
          obtain rfl : m.name = name := eq_of_beq fits
          have distinct := (closed m (ModelSet.get?_eq_some known).1).distinct
          have passes := of_validate_model valid
          refine ModelSet.readValue_encode_model known distinct (sorted_asReadSlots sorted)
            (fun key absent => ?_) fun f member place => ?_
          · -- Only declared fields have slots.
            rw [lookup_asReadSlots, Option.map_eq_none_iff]
            by_contra there
            obtain ⟨v, held⟩ := Option.ne_none_iff_exists'.mp there
            obtain ⟨f, found, _⟩ := permitted _ (Members.mem_of_lookup held)
            exact absent (Model.isSome_field?_iff.mp (found ▸ rfl))
          · rw [lookup_asReadSlots]
            obtain ⟨held, needed⟩ := passes f member
            cases here : Members.lookup f.name slots with
            | none =>
              refine .absent fun mandatory => ?_
              rw [here] at needed
              exact absurd (needed mandatory) nofun
            | some v =>
              have inside := Members.mem_of_lookup here
              obtain ⟨nullable, fits⟩ := (permitted _ inside).of_mem distinct member
              rw [Option.map_some, Option.map_some, asReadSlot_of_mem distinct member]
              by_cases null : v = .null
              · rw [null, asRead_null]
                exact .nulled (nullable null)
              · obtain ⟨within, valid⟩ := held v here
                refine .read _ _ (encode_ne_null (fits null) (faithful _ inside).writable) ?_
                exact ih _ inside (owned _ inside) (faithful _ inside) valid (fits null) place
        | _ => cases fits

/-! ### When a value is read as it is kept -/

/-- A part that is read as it is kept is left as it is when it is no integer that stands for a
number, and no list in it keeps an integer. -/
private theorem asRead_eq_self_iff
    (same : v.asRead type = Instance.widen type v ↔ ¬ KeepsInteger type v) :
    v.asRead type = v ↔ ¬ ((type = .number ∧ ∃ n, v = .integer n) ∨ KeepsInteger type v) := by
  by_cases counted : type = .number ∧ ∃ n, v = .integer n
  · obtain ⟨rfl, n, rfl⟩ := counted
    have read : (integer n).asRead .number = .number (Decimal.ofInt n.toInt) :=
      asRead_atom rfl
    simp [read]
  · have kept : Instance.widen type v = v := Instance.widen_eq_self_iff.mpr counted
    rw [kept] at same
    rw [same, or_iff_right counted]

theorem keepsInteger_list_iff : KeepsInteger (.list element) (.list items) ↔
    ∃ v ∈ items, (element = .number ∧ ∃ n, v = .integer n) ∨ KeepsInteger element v := by
  constructor
  · intro keeps
    cases keeps with
    | here _ n member => exact ⟨.integer n, member, .inl ⟨rfl, n, rfl⟩⟩
    | item _ _ v member inside => exact ⟨v, member, .inr inside⟩
  · rintro ⟨v, member, ⟨rfl, n, rfl⟩ | inside⟩
    · exact .here items n member
    · exact .item element items v member inside

theorem keepsInteger_model_iff : KeepsInteger type (.model m slots) ↔
    ∃ p ∈ slots, ∃ f, m.field? p.1 = some f ∧ KeepsInteger f.type p.2 := by
  constructor
  · intro keeps
    cases keeps with
    | slot _ _ _ key f v member declared inside => exact ⟨(key, v), member, f, declared, inside⟩
  · rintro ⟨⟨key, v⟩, member, f, declared, inside⟩
    exact .slot type m slots key f v member declared inside

/-- A value is read as a field keeps it when no list of numbers in it has an integer as an item,
provided that its slots are widened. -/
theorem asRead_eq_widen_iff (widened : v.Widened) :
    v.asRead type = Instance.widen type v ↔ ¬ KeepsInteger type v := by
  induction widened generalizing type with
  | atom v atom =>
    refine iff_of_true (asRead_atom atom) ?_
    rintro ⟨⟩ <;> cases atom
  | list items each ih =>
    cases type with
    | list element =>
      have parts := List.map_inj_left (l := items) (f := asRead element) (g := id)
      rw [List.map_id] at parts
      rw [asRead_list, Instance.widen_list, Value.list.injEq, parts, keepsInteger_list_iff]
      simp only [not_exists, not_and]
      exact forall₂_congr fun v member => asRead_eq_self_iff (ih v member)
    | _ =>
      rw [Instance.widen_list]
      refine iff_of_true rfl ?_
      rintro ⟨⟩
  | model m slots slot each ih =>
    have parts := List.map_inj_left (l := slots) (f := fun p => (p.1, asReadSlot m p.1 p.2))
      (g := id)
    rw [List.map_id, ← asReadSlots_eq] at parts
    rw [asRead, Instance.widen_model, Value.model.injEq, and_iff_right rfl, parts,
      keepsInteger_model_iff]
    simp only [not_exists, not_and]
    refine forall₂_congr fun p member => ?_
    -- The slot is widened for its field already, so that only its lists may keep integers.
    cases declared : m.field? p.1 with
    | none => simp [asReadSlot, declared]
    | some f =>
      have kept : Instance.widen f.type p.2 = p.2 := slot p member f declared
      have read : asReadSlot m p.1 p.2 = p.2.asRead f.type := by rw [asReadSlot, declared]
      have inside : p.2.asRead f.type = Instance.widen f.type p.2 ↔ ¬ KeepsInteger f.type p.2 :=
        ih p member
      rw [kept] at inside
      simp [read, Prod.ext_iff, inside]

end Value

/-! ### Setting a field and reading it -/

namespace ModelSet

/-- A body in which a member is given anew is read as the same instance, with the slot of the
field filled with what the member is read as. -/
theorem decode_insert {s : ModelSet} (closed : s.Closed) {c : Codec} {name : String} {m : Model}
    (found : s.get? name = some m) {f : Field} (field : f ∈ m.fields) {json : Json} {v : Value}
    (given : json ≠ .null) (reads : ∀ path, s.readValue c .strict json f.type path = .ok v)
    {members : List (String × Json)} {i : Instance}
    (read : s.decode c name (.obj members) = .ok i) :
    s.decode c name (.obj (Members.insert f.name json members)) = .ok (i.put f.name v) := by
  obtain ⟨_, n, j, same, found', ok, rest⟩ :=
    readValue_model_eq_ok_iff.mp (decode_eq_ok_iff.mp read)
  obtain rfl := Json.obj.inj same
  obtain rfl := Option.some.inj (found.symm.trans found')
  obtain rfl := ofInstance_inj rest
  have distinct := (closed m (get?_eq_some found).1).distinct
  obtain ⟨declared, filled⟩ := (readObject_eq_ok_iff distinct Members.Sorted.nil).mp ok
  refine decode_eq_ok_iff.mpr (readValue_model_eq_ok_iff.mpr
    ⟨_, m, j.put f.name v, rfl, found, ?_, rfl⟩)
  refine (readObject_eq_ok_iff distinct Members.Sorted.nil).mpr
    ⟨fun reject key member => ?_, ⟨filled.model, filled.sorted.insert f.name v, ?_, ?_⟩⟩
  · rw [keys_memberReaders, ← Members.isSome_lookup_iff, Members.lookup_insert] at member
    by_cases here : f.name = key
    · exact here ▸ List.mem_map_of_mem field
    · rw [if_neg here, Members.isSome_lookup_iff, ← keys_memberReaders] at member
      exact declared reject key member
  · intro g listed
    obtain ⟨v?, named, slot⟩ := filled.slots g listed
    rw [readNamed_eq_ok_iff] at named
    simp only [readNamed_eq_ok_iff, Members.lookup_insert, Instance.get?_put]
    by_cases here : f.name = g.name
    · obtain rfl := List.inj_on_of_nodup_map distinct field listed here
      rw [if_pos rfl, if_pos rfl]
      exact ⟨some v, .read json v given (reads _), rfl⟩
    · rw [if_neg here, if_neg here]
      exact ⟨v?, named, slot⟩
  · intro key absent
    have differ : f.name ≠ key := fun here => absent (here ▸ List.mem_map_of_mem field)
    rw [Instance.get?_put, if_neg differ]
    exact filled.others key absent

/-- A field of an instance of a compiled model is set to a value that is made from the same set,
lacks no mandatory field and is written in full. The slot then holds the value, where an
integer for a number field has become a number. A body of the model in which the member of the
field is what the value is written as is read with the same value in the slot, except that
integers in lists of numbers have become numbers, too. So both hold the same exactly when no
list of numbers in the value has an integer as an item, at any depth. -/
theorem set_stores {api : String} {definitions : List (String × Definition)} {s : ModelSet}
    (compiled : compileModels api definitions = .ok s) {i j : Instance} (reached : s.Reaches i)
    {name : String} {f : Field} (declared : i.model.field? name = some f) {v : Value}
    (given : s.Takes v) (notNull : v ≠ .null) (faithful : v.Faithful) {place : String}
    (valid : v.validate place = .ok ()) (set : i.set name v = .ok j) :
    j.get? name = some (Instance.widen f.type v) ∧
      (∀ c members k, s.decode c i.model.name (.obj members) = .ok k →
        s.decode c i.model.name (.obj (Members.insert name (v.encode .default) members)) =
          .ok (k.put name (v.asRead f.type))) ∧
      (j.get? name = some (v.asRead f.type) ↔ ¬ v.KeepsInteger f.type) := by
  have closed := (compileModels_closed compiled).1
  have distinct : ∀ m ∈ s.models, m.fieldNames.Nodup := fun m member => (closed m member).distinct
  have known := (owns_ofInstance_iff.mp (owns_of_reaches closed reached)).1
  obtain ⟨field, named⟩ := Model.field?_eq_some declared
  -- That the field could be set means that the value fits it.
  obtain ⟨fits, rfl⟩ : Value.conforms f.type v ∧ i.put name (Instance.widen f.type v) = j := by
    have spec := Instance.assign_spec i name v
    rw [Change.result_eq_ok_iff.mp set] at spec
    cases spec with
    | nulled _ _ null => exact absurd null notNull
    | emptied _ _ null => exact absurd null notNull
    | filled g found fits =>
      obtain rfl := Option.some.inj (declared.symm.trans found)
      exact ⟨fits, rfl⟩
  have stored : (i.put name (Instance.widen f.type v)).get? name =
      some (Instance.widen f.type v) := by simp
  refine ⟨stored, fun c members k read => ?_, ?_⟩
  · subst named
    have written := Value.encode_ne_null fits faithful.writable
    refine decode_insert closed known field written (fun path => ?_) read
    exact Value.readValue_encode_asRead closed (given.wellTyped distinct f.type fits)
      (owns_of_takes closed given) faithful valid fits path
  · rw [stored, Option.some.injEq, eq_comm]
    exact Value.asRead_eq_widen_iff (widened_of_takes closed given)

end ModelSet

/-! ### Kitchen scales -/

/-- The declaration of kitchen scales, with a limit and the weights that were taken. -/
def scaleDefinitions : List (String × Definition) :=
  [("Scale", { properties :=
    [("limit", .mk (some "number") none none none none false false none),
      ("weights", .mk (some "array") none none none
        (some (.mk (some "number") none none none none false false none)) false false none)] })]

/-- The model of kitchen scales. -/
def kitchenScale : Model where
  name := "Scale"
  api := "kitchen"
  fields := [⟨"limit", .number, .optional, none, false⟩,
    ⟨"weights", .list .number, .optional, none, false⟩]

/-- The models of a kitchen. -/
def kitchen : ModelSet := ⟨"kitchen", [kitchenScale]⟩

theorem compileModels_kitchen : compileModels "kitchen" scaleDefinitions = .ok kitchen := by
  have needs : dependencies scaleDefinitions = .ok [("Scale", [])] := rfl
  have order : orderModels scaleDefinitions = .ok ["Scale"] := by
    rw [orderModels, needs]
    simp [bind, Except.bind, placeAll, placeReady]
  rw [compileModels, order]
  rfl

/-- The value of a whole number. -/
def five : Value := .integer 5

theorem faithful_five : five.Faithful :=
  .atom five rfl nofun nofun nofun

/-- A limit that is set to an integer is kept as the number that it is read as. -/
theorem ModelSet.set_stores_limit :
    Instance.set { model := kitchenScale } "limit" five =
        .ok ⟨kitchenScale, [("limit", .number (Decimal.ofInt 5))]⟩ ∧
      kitchen.decode {} "Scale" (.obj [("limit", .int 5)]) =
        .ok ⟨kitchenScale, [("limit", .number (Decimal.ofInt 5))]⟩ ∧
      Instance.get? ⟨kitchenScale, [("limit", .number (Decimal.ofInt 5))]⟩ "limit" =
        some (five.asRead .number) := by
  have set : Instance.set { model := kitchenScale } "limit" five =
      .ok ⟨kitchenScale, [("limit", .number (Decimal.ofInt 5))]⟩ := rfl
  have empty : kitchen.Reaches { model := kitchenScale } := .empty "Scale" _ rfl
  obtain ⟨_, read, same⟩ := set_stores compileModels_kitchen empty rfl
    (.scalar five rfl) nofun faithful_five (Value.Valid.atom rfl "$") set
  refine ⟨set, read {} [] { model := kitchenScale } rfl, same.mpr ?_⟩
  rintro ⟨⟩

/-- A list of weights that is set keeps its integer, although a number is read from what it is
written as. -/
theorem ModelSet.set_keepsInteger :
    compileModels "kitchen" scaleDefinitions = .ok kitchen ∧
      kitchen.Takes (.list [five]) ∧ (Value.list [five]).Faithful ∧ (Value.list [five]).Valid ∧
      Instance.set { model := kitchenScale } "weights" (.list [five]) =
        .ok ⟨kitchenScale, [("weights", .list [five])]⟩ ∧
      kitchen.decode {} "Scale" (.obj [("weights", (Value.list [five]).encode .default)]) =
        .ok ⟨kitchenScale, [("weights", .list [.number (Decimal.ofInt 5)])]⟩ ∧
      Value.list [five] ≠ .list [.number (Decimal.ofInt 5)] := by
  refine ⟨compileModels_kitchen, .list _ ?_, .list _ ?_, .list ?_, rfl, rfl, nofun⟩
  · exact List.forall_mem_singleton.mpr (.scalar five rfl)
  · exact List.forall_mem_singleton.mpr faithful_five
  · exact List.forall_mem_singleton.mpr (.atom rfl)

end ApiContract
