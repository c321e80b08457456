import ApiContract.Proofs.Model.WellTyped

/-!
# Instances carry the models of their set

A nested instance fits a field by the name of its model alone. Still it carries the very model
that its set has under this name, at every depth, as long as all that is put into it was made
from the same set.

## Main definitions

* `ModelSet.Owns` — at every depth, instances carry the models of the set

## Main results

* `ModelSet.owns_of_readValue` — what is read carries the models of the set
* `ModelSet.owns_of_reaches` — so do all instances that are reached
-/

namespace ApiContract

/-- Every instance in a value carries the model that the set has under its name. -/
inductive ModelSet.Owns (s : ModelSet) : Value → Prop
  | atom (v : Value) (atom : v.isAtom) : Owns s v
  | list (items : List Value) (each : ∀ v ∈ items, Owns s v) : Owns s (.list items)
  | model (m : Model) (slots : List (String × Value)) (known : s.get? m.name = some m)
      (each : ∀ p ∈ slots, Owns s p.2) : Owns s (.model m slots)

namespace ModelSet

variable {s : ModelSet} {c : Codec} {mode : Mode} {type element : FieldType} {json : Json}
  {path : String} {v : Value} {i j : Instance}

theorem owns_ofInstance_iff : s.Owns (Value.ofInstance i) ↔
    s.get? i.model.name = some i.model ∧ ∀ p ∈ i.slots, s.Owns p.2 := by
  constructor
  · intro owns
    cases owns with
    | atom _ atom => cases atom
    | model _ _ known each => exact ⟨known, each⟩
  · rintro ⟨known, each⟩
    exact .model i.model i.slots known each

/-! ### What is read -/

/-- Whatever holds of the slots before a reading, and of all that is read for a field, holds of
the slots afterwards. -/
theorem forall_slots_of_readObject {members : List (String × Json)}
    (property : String → Value → Prop) (distinct : i.model.fieldNames.Nodup)
    (sorted : Members.Sorted i.slots) (before : ∀ p ∈ i.slots, property p.1 p.2)
    (null : ∀ key, property key .null)
    (each : ∀ p ∈ members, ∀ f ∈ i.model.fields, ∀ path v,
      readValue s c mode p.2 f.type path = .ok v → property f.name v)
    (ok : readObject c path (memberReaders s c mode members) i = .ok j) :
    j.model = i.model ∧ ∀ p ∈ j.slots, property p.1 p.2 := by
  obtain ⟨_, filled⟩ := (readObject_eq_ok_iff distinct sorted).mp ok
  refine ⟨filled.model, ?_⟩
  rintro ⟨key, v⟩ member
  have held : j.get? key = some v := Members.lookup_of_mem filled.sorted.nodup_keys member
  have kept : ∀ v, i.get? key = some v → property key v := fun v there =>
    before (key, v) (Members.mem_of_lookup there)
  -- Only a declared field is read, and its slot stays where no value is given for it.
  by_cases declared : key ∈ i.model.fieldNames
  · obtain ⟨f, listed, rfl⟩ := List.mem_map.mp declared
    obtain ⟨v?, read, slot⟩ := filled.slots f listed
    rw [readNamed_eq_ok_iff] at read
    rw [held] at slot
    generalize found : Members.lookup f.name members = json? at read
    cases read with
    | absent => exact kept _ slot.symm
    | skipped => exact kept _ slot.symm
    | nulled =>
      obtain rfl : v = .null := Option.some.inj slot
      exact null f.name
    | read json w _ reads =>
      obtain rfl : v = w := Option.some.inj slot
      exact each (f.name, json) (Members.mem_of_lookup found) f listed _ _ reads
  · rw [filled.others key declared] at held
    exact kept _ held

/-- What is read carries the models of the set. -/
theorem owns_of_readValue (closed : s.Closed) :
    ∀ {type path v}, readValue s c mode json type path = .ok v → s.Owns v := by
  have scalar : ∀ {json type path v}, readAtom s mode json type path = .ok v → s.Owns v := by
    intro json type path v ok
    rcases scalar_of_readAtom ok with ⟨text, plain⟩ | strict
    · exact .atom v (Value.conforms_of_plainScalar? plain).1
    · exact .atom v (Value.conforms_of_strictScalar? strict).1
  -- On the parts of the JSON value, in either mode.
  induction json using Json.parts_induction with
  | atom json atom =>
    intro type path v ok
    rw [readValue_atom atom] at ok
    exact scalar ok
  | arr items ih =>
    intro type path v ok
    rw [readValue] at ok
    cases type with
    | list element =>
      obtain ⟨vs, read, rfl⟩ := map_eq_ok.mp ok
      refine .list vs fun v member => ?_
      obtain ⟨item, listed, place, reads⟩ := exists_of_mem_readItems read member
      exact ih item listed reads
    | _ => exact scalar ok
  | obj members ih =>
    intro type path v ok
    cases type with
    | model name =>
      obtain ⟨_, m, i, same, found, read, rfl⟩ := readValue_model_eq_ok_iff.mp ok
      obtain rfl := Json.obj.inj same
      obtain ⟨declared, rfl⟩ := get?_eq_some found
      obtain ⟨model, each⟩ := forall_slots_of_readObject (fun _ => s.Owns)
        (closed m declared).distinct Members.Sorted.nil (List.forall_mem_nil _)
        (fun _ => .atom _ rfl) (fun p member _ _ _ _ => ih p member) read
      exact owns_ofInstance_iff.mpr ⟨model ▸ found, each⟩
    | _ =>
      rw [readValue] at ok
      exact scalar ok

theorem owns_of_decode (closed : s.Closed) {name : String}
    (read : s.decode c name json = .ok i) : s.Owns (Value.ofInstance i) :=
  owns_of_readValue closed (decode_eq_ok_iff.mp read)

/-! ### What is set -/

theorem owns_of_assign {name : String} {outcome : Except ModelError Unit}
    (before : s.Owns (Value.ofInstance i)) (given : s.Owns v)
    (ran : (Instance.assign name v).on i = (outcome, j)) : s.Owns (Value.ofInstance j) := by
  obtain ⟨known, each⟩ := owns_ofInstance_iff.mp before
  have put : ∀ w, s.Owns w → s.Owns (Value.ofInstance (i.put name w)) := by
    intro w owns
    refine owns_ofInstance_iff.mpr ⟨known, fun p member => ?_⟩
    rcases Members.mem_insert member with rfl | other
    · exact owns
    · exact each p other
  have spec := Instance.assign_spec i name v
  rw [ran] at spec
  cases spec with
  | undeclared => exact before
  | missing => exact before
  | mismatched => exact before
  | nulled => exact put .null (.atom _ rfl)
  | emptied =>
    have kept := Members.erase_sublist name i.slots
    exact owns_ofInstance_iff.mpr ⟨known, fun p member => each p (kept.subset member)⟩
  | filled f =>
    rcases Instance.widen_cases f.type v with same | ⟨_, x, widened⟩
    · rw [same]
      exact put v given
    · rw [widened]
      exact put _ (.atom _ rfl)

theorem owns_of_setFiles {files : List (String × List UInt8)}
    (before : s.Owns (Value.ofInstance i)) (ok : setFiles files i = .ok j) :
    s.Owns (Value.ofInstance j) := by
  induction files generalizing i with
  | nil =>
    obtain rfl := Except.ok.inj ok
    exact before
  | cons file rest ih =>
    obtain ⟨name, content⟩ := file
    rw [setFiles] at ok
    split at ok
    · obtain ⟨k, set, ok⟩ := bind_eq_ok.mp ok
      exact ih (owns_of_assign before (.atom _ rfl) (Change.result_eq_ok_iff.mp set)) ok
    · exact ih before ok

theorem owns_of_instance? {name : String} (made : s.instance? name = .ok i) :
    s.Owns (Value.ofInstance i) := by
  obtain ⟨m, found, rfl⟩ := instance?_eq_ok_iff.mp made
  obtain ⟨_, rfl⟩ := get?_eq_some found
  exact .model m [] found (List.forall_mem_nil _)

theorem owns_of_decodeForm (closed : s.Closed) {name : String}
    {files : List (String × List UInt8)} (read : s.decodeForm c name json files = .ok i) :
    s.Owns (Value.ofInstance i) := by
  obtain ⟨empty, made, read⟩ := bind_eq_ok.mp read
  obtain ⟨m, _, rfl⟩ := instance?_eq_ok_iff.mp made
  obtain ⟨preset, set, read⟩ := bind_eq_ok.mp read
  obtain ⟨known, each⟩ := owns_ofInstance_iff.mp (owns_of_setFiles (owns_of_instance? made) set)
  have sorted := (setFiles_holds (.empty m) set).2.sorted
  -- The fields are read on top of the files, which are no instances.
  generalize withoutFiles files json = form at read
  cases form with
  | obj members =>
    obtain ⟨model, after⟩ := forall_slots_of_readObject (fun _ => s.Owns)
      (closed _ (get?_eq_some known).1).distinct sorted each (fun _ => .atom _ rfl)
      (fun _ _ _ _ _ _ => owns_of_readValue closed) read
    rw [← model] at known
    exact owns_ofInstance_iff.mpr ⟨known, after⟩
  | _ => cases read

/-! ### Instances that are reached -/

mutual

/-- An instance that is reached carries the models of the set, at every depth. -/
theorem owns_of_reaches (closed : s.Closed) {i : Instance} :
    s.Reaches i → s.Owns (Value.ofInstance i)
  | .empty name i made => owns_of_instance? made
  | .decoded c name json i read => owns_of_decode closed read
  | .decodedForm c name form files i read => owns_of_decodeForm closed read
  | .assigned i j name v outcome before given ran =>
    owns_of_assign (owns_of_reaches closed before) (owns_of_takes closed given) ran
  | .unset i name before => by
    obtain ⟨known, each⟩ := owns_ofInstance_iff.mp (owns_of_reaches closed before)
    have kept := Members.erase_sublist name i.slots
    exact owns_ofInstance_iff.mpr ⟨known, fun p member => each p (kept.subset member)⟩

theorem owns_of_takes (closed : s.Closed) {v : Value} : s.Takes v → s.Owns v
  | .scalar v atom => .atom v atom
  | .nested i reached => owns_of_reaches closed reached
  | .list items each => .list items fun v member => owns_of_takes closed (each v member)

end

end ModelSet

end ApiContract
