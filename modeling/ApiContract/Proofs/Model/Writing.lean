import ApiContract.Model.Instance
import ApiContract.Proofs.Members

/-!
# The members an instance is written with

## Main definitions

* `Value.members` — the members of the object that an instance is written as

## Main results

* `Value.encode_eq_null_iff` — what is written as `null`
* `Value.lookup_members` — a member is written for each declared slot that is set
* `Value.members_congr` — instances with the same written slots are written alike
-/

namespace ApiContract.Value

variable {c : Codec} {m n : Model} {slots others : List (String × Value)} {v : Value}

/-- The members of the object that an instance is written as. -/
def members (c : Codec) (m : Model) (slots : List (String × Value)) : List (String × Json) :=
  Members.ofList (m.fields.filterMap fun f =>
    (Members.lookup f.name (encodeSlots c slots)).map fun json => (f.name, json))

theorem encode_model : (Value.model m slots).encode c = .obj (members c m slots) := by
  rw [encode]
  rfl

/-- Only `null` is written as `null`, and so are numbers that are not finite. -/
theorem encode_eq_null_iff :
    v.encode c = .null ↔ v = .null ∨ ∃ x, v = .number x ∧ ¬ Decimal.isFinite x := by
  cases v with
  | number x => by_cases finite : Decimal.isFinite x <;> simp [encode, Json.ofFloat, finite]
  | model m slots => simp [encode_model]
  | _ => simp [encode]

theorem encodeItems_eq (items : List Value) : encodeItems c items = items.map (encode c) := by
  induction items with
  | nil => rfl
  | cons v rest ih => rw [encodeItems, ih, List.map_cons]

theorem encodeSlots_eq (slots : List (String × Value)) :
    encodeSlots c slots = slots.map fun p => (p.1, p.2.encode c) := by
  induction slots with
  | nil => rfl
  | cons p rest ih => rw [encodeSlots, ih, List.map_cons]

theorem lookup_encodeSlots (key : String) :
    Members.lookup key (encodeSlots c slots) = (Members.lookup key slots).map (encode c) := by
  rw [encodeSlots_eq]
  exact Members.lookup_map (fun _ => encode c) key slots

theorem sorted_members : Members.Sorted (members c m slots) :=
  Members.sorted_ofList _

private theorem lookup_declared (key : String) (fields : List Field)
    (written : List (String × Json)) :
    Members.lookup key (fields.filterMap fun f =>
        (Members.lookup f.name written).map fun json => (f.name, json)) =
      if key ∈ fields.map Field.name then Members.lookup key written else none := by
  induction fields with
  | nil => rfl
  | cons f rest ih =>
    rw [List.filterMap_cons]
    cases found : Members.lookup f.name written with
    | none =>
      rw [Option.map_none, ih, List.map_cons]
      by_cases here : key = f.name
      · simp [here, found]
      · simp [here]
    | some json =>
      rw [Option.map_some, Members.lookup_cons, ih, List.map_cons]
      by_cases here : key = f.name
      · simp [here, found]
      · simp [here, Ne.symm here]

private theorem keys_declared_sublist (fields : List Field) (written : List (String × Json)) :
    (Members.keys (fields.filterMap fun f =>
      (Members.lookup f.name written).map fun json => (f.name, json))).Sublist
        (fields.map Field.name) := by
  induction fields with
  | nil => exact .refl _
  | cons f rest ih =>
    rw [List.filterMap_cons]
    cases Members.lookup f.name written with
    | none => exact ih.cons _
    | some json => exact ih.cons_cons _

/-- A member is written for each declared slot that is set, and for nothing else. -/
theorem lookup_members (distinct : m.fieldNames.Nodup) (key : String) :
    Members.lookup key (members c m slots) =
      if key ∈ m.fieldNames then (Members.lookup key slots).map (encode c) else none := by
  have once := distinct.sublist (keys_declared_sublist m.fields (encodeSlots c slots))
  rw [members, Members.lookup_ofList once, lookup_declared, lookup_encodeSlots, Model.fieldNames]

theorem lookup_members_of_mem (distinct : m.fieldNames.Nodup) {f : Field} (member : f ∈ m.fields) :
    Members.lookup f.name (members c m slots) = (Members.lookup f.name slots).map (encode c) :=
  (lookup_members distinct f.name).trans (if_pos (List.mem_map_of_mem member))

/-- Only declared fields are written. -/
theorem mem_fieldNames_of_members (distinct : m.fieldNames.Nodup) {key : String}
    (member : key ∈ Members.keys (members c m slots)) : key ∈ m.fieldNames := by
  rw [← Members.isSome_lookup_iff, lookup_members distinct] at member
  by_contra absent
  rw [if_neg absent] at member
  cases member

/-- Instances with the same written slots are written alike, whatever the order of the fields
of their models. -/
theorem members_congr (left : m.fieldNames.Nodup) (right : n.fieldNames.Nodup)
    (names : ∀ name, name ∈ m.fieldNames ↔ name ∈ n.fieldNames)
    (same : ∀ name ∈ m.fieldNames,
      (Members.lookup name slots).map (encode c) = (Members.lookup name others).map (encode c)) :
    members c m slots = members c n others := by
  refine sorted_members.ext sorted_members fun key => ?_
  rw [lookup_members left, lookup_members right]
  by_cases declared : key ∈ m.fieldNames
  · rw [if_pos declared, if_pos ((names key).mp declared), same key declared]
  · rw [if_neg declared, if_neg fun there => declared ((names key).mpr there)]

end ApiContract.Value
