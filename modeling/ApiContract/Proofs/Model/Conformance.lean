import ApiContract.Proofs.Model.Ownership
import ApiContract.Proofs.Model.RoundTrip
import ApiContract.Proofs.Model.Language

/-!
# What checked instances are written as

An instance that passes the check of its mandatory fields is written as a body of its model,
however it was made: the check looks for what is missing, and being well-typed does the rest.

## Main definitions

* `Value.Writable` — at every depth, numbers and points in time that have a written form

## Main results

* `Value.of_validate_model` — what passes the check
* `Value.admits_encode` — what a checked value is written as is a value of its type
-/

namespace ApiContract

/-- Numbers are finite, and points in time are in years that have a written form, at every
depth. -/
inductive Value.Writable : Value → Prop
  | atom (v : Value) (atom : v.isAtom) (finite : ∀ x, v = .number x → Decimal.isFinite x)
      (inRange : ∀ t, v = .timestamp t → t.date.InRange) : Writable v
  | list (items : List Value) (each : ∀ v ∈ items, Writable v) : Writable (.list items)
  | model (m : Model) (slots : List (String × Value)) (each : ∀ p ∈ slots, Writable p.2) :
      Writable (.model m slots)

namespace Value

/-! ### The check of mandatory fields -/

/-- What passes the check lacks no mandatory field, and neither does what its fields hold. -/
theorem of_validate_model {m : Model} {slots : List (String × Value)} {path : String}
    (valid : (Value.model m slots).validate path = .ok ()) : ∀ f ∈ m.fields,
      (∀ v, Members.lookup f.name slots = some v → ∃ place, v.validate place = .ok ()) ∧
      (f.presence = .mandatory → (Members.lookup f.name slots).isSome) := by
  rw [validate, validateFields_eq_ok_iff] at valid
  intro f member
  obtain ⟨held, needed⟩ := valid f member
  rw [lookup_slotChecks] at held needed
  refine ⟨fun v found => ⟨_, held (fun path => v.validate path) ?_⟩, ?_⟩
  · rw [found, Option.map_some]
  · rwa [Option.isSome_map] at needed

theorem of_validateItems {items : List Value} {path : String} {start : Nat}
    (valid : validateItems items path start = .ok ()) :
    ∀ v ∈ items, ∃ place, v.validate place = .ok () := by
  induction items generalizing start with
  | nil => exact List.forall_mem_nil _
  | cons v rest ih =>
    obtain ⟨⟨⟩, here, later⟩ := bind_eq_ok.mp valid
    exact List.forall_mem_cons.mpr ⟨⟨_, here⟩, ih later⟩

/-! ### What is written -/

variable {s : ModelSet} {policy : UnknownFields} {type : FieldType} {v : Value}

/-- Nothing that fits a type is written as `null`, save numbers that have no written form. -/
theorem encode_ne_null (fits : conforms type v) (writable : v.Writable) :
    v.encode .default ≠ .null := by
  intro null
  rcases encode_eq_null_iff.mp null with rfl | ⟨x, rfl, infinite⟩
  · exact ne_null_of_conforms fits rfl
  · cases writable with
    | atom _ _ finite => exact infinite (finite x rfl)

theorem admits_encode_atom (atom : v.isAtom) (fits : conforms type v) (writable : v.Writable) :
    s.Admits policy type (v.encode .default) := by
  cases writable with
  | list => cases atom
  | model => cases atom
  | atom _ _ finite inRange =>
    unfold conforms at fits
    split at fits
    · exact .bool _
    · rename_i n _
      exact .integer _ (Decimal.isInt64_toInt n)
    · rename_i x _
      rw [encode, Json.ofFloat, if_pos (finite x rfl)]
      exact .number x
    · exact .whole _
    · exact .string _
    · rename_i t _
      exact .timestamp _ _ (Instant.read?_format (inRange t rfl))
    · exact .bytes _
    · exact .oneOf _ _ (List.contains_iff_mem.mp fits)
    · cases atom
    · cases atom
    · cases fits

/-- Slots are written as a body of their model when each mandatory field has one and each of
them is written as a value of its field's type, or as `null` where that is allowed. -/
theorem admits_members {m : Model} {slots : List (String × Value)} (known : s.get? m.name = some m)
    (distinct : m.fieldNames.Nodup)
    (needed : ∀ f ∈ m.fields, f.presence = .mandatory → (Members.lookup f.name slots).isSome)
    (slot : ∀ f ∈ m.fields, ∀ v, Members.lookup f.name slots = some v →
      (v = .null → f.presence = .nullable) ∧
        (v ≠ .null → v.encode .default ≠ .null ∧ s.Admits policy f.type (v.encode .default))) :
    s.Admits policy (.model m.name) (.obj (members .default m slots)) := by
  refine .model m.name m _ known (fun _ key => mem_fieldNames_of_members distinct)
    (fun f member mandatory => ?_) fun f member json found notNull => ?_
  · obtain ⟨v, held⟩ := Option.isSome_iff_exists.mp (needed f member mandatory)
    rw [lookup_members_of_mem distinct member, held]
    refine ⟨_, rfl, ((slot f member v held).2 fun null => ?_).1⟩
    have nullable := (slot f member v held).1 null
    rw [mandatory] at nullable
    cases nullable
  · rw [lookup_members_of_mem distinct member] at found
    obtain ⟨v, held, rfl⟩ := Option.map_eq_some_iff.mp found
    refine ((slot f member v held).2 fun null => notNull ?_).2
    rw [null, encode]

/-- A value that passes the check is written as a value of the type that it fits. -/
theorem admits_encode (closed : s.Closed) (wellTyped : v.WellTyped) (owned : s.Owns v)
    (writable : v.Writable) {path : String} (valid : v.validate path = .ok ())
    (fits : conforms type v) : s.Admits policy type (v.encode .default) := by
  -- On the value; the parts of a list fit the type of its elements, and those of an instance
  -- the types of its fields.
  induction wellTyped generalizing type path with
  | atom v atom => exact admits_encode_atom atom fits writable
  | list items notNull each ih =>
    cases owned with
    | atom _ atom => cases atom
    | list _ owned =>
      cases writable with
      | atom _ atom => cases atom
      | list _ writable =>
        cases type with
        | list element =>
          have fits := conforms_list_iff.mp fits
          have passes := of_validateItems valid
          rw [encode, encodeItems_eq]
          refine .list element _ (fun json member => ?_) fun json member => ?_
          · obtain ⟨v, listed, rfl⟩ := List.mem_map.mp member
            exact encode_ne_null (fits v listed) (writable v listed)
          · obtain ⟨v, listed, rfl⟩ := List.mem_map.mp member
            obtain ⟨place, valid⟩ := passes v listed
            exact ih v listed (owned v listed) (writable v listed) valid (fits v listed)
        | _ => cases fits
  | model m slots sorted permitted each ih =>
    cases owned with
    | atom _ atom => cases atom
    | model _ _ known owned =>
      cases writable with
      | atom _ atom => cases atom
      | model _ _ writable =>
        cases type with
        | model name =>
          obtain rfl : m.name = name := eq_of_beq fits
          have distinct := (closed m (ModelSet.get?_eq_some known).1).distinct
          have passes := of_validate_model valid
          rw [encode_model]
          refine admits_members known distinct (fun f member => (passes f member).2) ?_
          intro f member v held
          have inside := Members.mem_of_lookup held
          obtain ⟨null, fits⟩ := (permitted _ inside).of_mem distinct member
          obtain ⟨place, valid⟩ := (passes f member).1 v held
          refine ⟨null, fun given => ⟨encode_ne_null (fits given) (writable _ inside), ?_⟩⟩
          exact ih _ inside (owned _ inside) (writable _ inside) valid (fits given)
        | _ => cases fits

end Value

end ApiContract
