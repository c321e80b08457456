import ApiContract.Proofs.Model.Ownership

/-!
# Number fields hold numbers

An integer may be given for a number. A field that is set to one holds the number instead, and
nothing that is read is an integer where a number is asked for. So no slot of a number field
ever holds an integer, at any depth. Only lists of numbers may do so, as setting a field does
not look into them.

## Main definitions

* `Value.Widened` — at every depth, the slots of number fields hold numbers

## Main results

* `Instance.widen_eq_self_iff` — which values widening leaves as they are
* `ModelSet.widened_of_readValue` — what is read is widened
* `ModelSet.widened_of_reaches` — so are all instances that are reached
-/

namespace ApiContract

namespace Instance

variable {type : FieldType} {v : Value}

/-- Widening changes an integer that stands for a number, and nothing else. -/
theorem widen_eq_self_iff : widen type v = v ↔ ¬ (type = .number ∧ ∃ n, v = .integer n) := by
  unfold widen
  split
  · simp
  · rename_i other
    exact ⟨fun _ ⟨number, n, integer⟩ => other n number integer, fun _ => rfl⟩

theorem widen_list (type : FieldType) (items : List Value) :
    widen type (.list items) = .list items :=
  widen_eq_self_iff.mpr fun ⟨_, _, other⟩ => nomatch other

theorem widen_model (type : FieldType) (m : Model) (slots : List (String × Value)) :
    widen type (.model m slots) = .model m slots :=
  widen_eq_self_iff.mpr fun ⟨_, _, other⟩ => nomatch other

theorem widen_widen (type : FieldType) (v : Value) : widen type (widen type v) = widen type v := by
  rcases widen_cases type v with same | ⟨_, x, widened⟩
  · rw [same, same]
  · rw [widened, widen_eq_self_iff]
    rintro ⟨_, n, ⟨⟩⟩

end Instance

/-- At every depth, the slots of number fields hold what widening leaves as it is. -/
inductive Value.Widened : Value → Prop
  | atom (v : Value) (atom : v.isAtom) : Widened v
  | list (items : List Value) (each : ∀ v ∈ items, Widened v) : Widened (.list items)
  | model (m : Model) (slots : List (String × Value))
      (slot : ∀ p ∈ slots, ∀ f, m.field? p.1 = some f → Instance.widen f.type p.2 = p.2)
      (each : ∀ p ∈ slots, Widened p.2) : Widened (.model m slots)

/-- What a slot of a model holds is widened, both for its field and inside. -/
def Model.HoldsWidened (m : Model) (key : String) (v : Value) : Prop :=
  (∀ f, m.field? key = some f → Instance.widen f.type v = v) ∧ v.Widened

theorem Value.widened_ofInstance_iff {i : Instance} :
    (ofInstance i).Widened ↔ ∀ p ∈ i.slots, i.model.HoldsWidened p.1 p.2 := by
  constructor
  · intro widened
    cases widened with
    | atom _ atom => cases atom
    | model _ _ slot each => exact fun p member => ⟨slot p member, each p member⟩
  · intro holds
    exact .model i.model i.slots (fun p member => (holds p member).1)
      fun p member => (holds p member).2

theorem Model.holdsWidened_null (m : Model) (key : String) : m.HoldsWidened key .null :=
  ⟨fun _ _ => Instance.widen_eq_self_iff.mpr fun ⟨_, _, other⟩ => (nomatch other), .atom _ rfl⟩

namespace ModelSet

variable {s : ModelSet} {c : Codec} {mode : Mode} {type : FieldType} {json : Json} {path : String}
  {v : Value} {i j : Instance}

/-! ### What is read -/

private theorem widened_of_readAtom (ok : readAtom s mode json type path = .ok v) :
    Instance.widen type v = v ∧ v.Widened := by
  rcases scalar_of_readAtom ok with ⟨text, plain⟩ | strict
  · refine ⟨Instance.widen_eq_self_iff.mpr ?_, .atom v (Value.conforms_of_plainScalar? plain).1⟩
    rintro ⟨rfl, n, rfl⟩
    rw [plainScalar?, Option.map_eq_some_iff] at plain
    obtain ⟨_, _, other⟩ := plain
    cases other
  · refine ⟨Instance.widen_eq_self_iff.mpr ?_, .atom v (Value.conforms_of_strictScalar? strict).1⟩
    rintro ⟨rfl, n, rfl⟩
    obtain ⟨_, _, other⟩ := Option.map_eq_some_iff.mp strict
    cases other

/-- Reading an object into an instance keeps it widened when all that is read is. -/
theorem widened_of_readObject {members : List (String × Json)}
    (distinct : i.model.fieldNames.Nodup) (sorted : Members.Sorted i.slots)
    (before : (Value.ofInstance i).Widened)
    (each : ∀ p ∈ members, ∀ type path v, readValue s c mode p.2 type path = .ok v →
      Instance.widen type v = v ∧ v.Widened)
    (ok : readObject c path (memberReaders s c mode members) i = .ok j) :
    (Value.ofInstance j).Widened := by
  have read : ∀ p ∈ members, ∀ f ∈ i.model.fields, ∀ path v,
      readValue s c mode p.2 f.type path = .ok v → i.model.HoldsWidened f.name v := by
    intro p member f field path v reads
    obtain ⟨here, inside⟩ := each p member f.type path v reads
    refine ⟨fun g named => ?_, inside⟩
    rw [Model.field?_of_mem distinct field] at named
    exact Option.some.inj named ▸ here
  obtain ⟨model, after⟩ := forall_slots_of_readObject i.model.HoldsWidened distinct sorted
    (Value.widened_ofInstance_iff.mp before) i.model.holdsWidened_null read ok
  exact Value.widened_ofInstance_iff.mpr (model ▸ after)

theorem widened_empty (m : Model) : (Value.ofInstance { model := m }).Widened :=
  .model m [] (List.forall_mem_nil _) (List.forall_mem_nil _)

/-- What is read is no integer where a number is asked for, at any depth. -/
theorem widened_of_readValue (closed : s.Closed) :
    ∀ {type path v}, readValue s c mode json type path = .ok v →
      Instance.widen type v = v ∧ v.Widened := by
  -- On the parts of the JSON value, in either mode.
  induction json using Json.parts_induction with
  | atom json atom =>
    intro type path v ok
    rw [readValue_atom atom] at ok
    exact widened_of_readAtom ok
  | arr items ih =>
    intro type path v ok
    rw [readValue] at ok
    cases type with
    | list element =>
      obtain ⟨vs, read, rfl⟩ := map_eq_ok.mp ok
      refine ⟨rfl, .list vs fun v member => ?_⟩
      obtain ⟨item, listed, place, reads⟩ := exists_of_mem_readItems read member
      exact (ih item listed reads).2
    | _ => exact widened_of_readAtom ok
  | obj members ih =>
    intro type path v ok
    cases type with
    | model name =>
      obtain ⟨_, m, i, same, found, read, rfl⟩ := readValue_model_eq_ok_iff.mp ok
      obtain rfl := Json.obj.inj same
      exact ⟨rfl, widened_of_readObject (closed m (get?_eq_some found).1).distinct
        Members.Sorted.nil (widened_empty m) (fun p member _ _ _ => ih p member) read⟩
    | _ =>
      rw [readValue] at ok
      exact widened_of_readAtom ok

theorem widened_of_decode (closed : s.Closed) {name : String}
    (read : s.decode c name json = .ok i) : (Value.ofInstance i).Widened :=
  (widened_of_readValue closed (decode_eq_ok_iff.mp read)).2

/-! ### What is set -/

theorem widened_of_assign {name : String} {outcome : Except ModelError Unit}
    (before : (Value.ofInstance i).Widened) (given : v.Widened)
    (ran : (Instance.assign name v).on i = (outcome, j)) : (Value.ofInstance j).Widened := by
  have each := Value.widened_ofInstance_iff.mp before
  -- Only the slot of the name changes, so that what is put there has to be widened.
  have put : ∀ w, i.model.HoldsWidened name w → (Value.ofInstance (i.put name w)).Widened := by
    intro w holds
    refine Value.widened_ofInstance_iff.mpr fun p member => ?_
    rcases Members.mem_insert member with rfl | other
    · exact holds
    · exact each p other
  have spec := Instance.assign_spec i name v
  rw [ran] at spec
  cases spec with
  | undeclared => exact before
  | missing => exact before
  | mismatched => exact before
  | nulled => exact put .null (i.model.holdsWidened_null name)
  | emptied =>
    have kept := Members.erase_sublist name i.slots
    exact Value.widened_ofInstance_iff.mpr fun p member => each p (kept.subset member)
  | filled f declared =>
    refine put _ ⟨fun g named => ?_, ?_⟩
    · rw [declared] at named
      exact Option.some.inj named ▸ Instance.widen_widen f.type v
    · rcases Instance.widen_cases f.type v with same | ⟨_, x, widened⟩
      · rwa [same]
      · rw [widened]
        exact .atom _ rfl

theorem widened_of_setFiles {files : List (String × List UInt8)}
    (before : (Value.ofInstance i).Widened) (ok : setFiles files i = .ok j) :
    (Value.ofInstance j).Widened := by
  induction files generalizing i with
  | nil =>
    obtain rfl := Except.ok.inj ok
    exact before
  | cons file rest ih =>
    obtain ⟨name, content⟩ := file
    rw [setFiles] at ok
    split at ok
    · obtain ⟨k, set, ok⟩ := bind_eq_ok.mp ok
      exact ih (widened_of_assign before (.atom _ rfl) (Change.result_eq_ok_iff.mp set)) ok
    · exact ih before ok

theorem widened_of_decodeForm (closed : s.Closed) {name : String}
    {files : List (String × List UInt8)} (read : s.decodeForm c name json files = .ok i) :
    (Value.ofInstance i).Widened := by
  obtain ⟨empty, made, read⟩ := bind_eq_ok.mp read
  obtain ⟨m, found, rfl⟩ := instance?_eq_ok_iff.mp made
  obtain ⟨preset, set, read⟩ := bind_eq_ok.mp read
  have filled := widened_of_setFiles (widened_empty m) set
  obtain ⟨same, holds⟩ := setFiles_holds (.empty m) set
  have distinct : preset.model.fieldNames.Nodup :=
    same ▸ (closed m (get?_eq_some found).1).distinct
  -- The fields are read on top of the files, which are no integers.
  generalize withoutFiles files json = form at read
  cases form with
  | obj members =>
    exact widened_of_readObject distinct holds.sorted filled
      (fun p _ type path v => widened_of_readValue closed) read
  | _ => cases read

/-! ### Instances that are reached -/

mutual

/-- In an instance that is reached no slot of a number field holds an integer, at any depth. -/
theorem widened_of_reaches (closed : s.Closed) {i : Instance} :
    s.Reaches i → (Value.ofInstance i).Widened
  | .empty name i made => by
    obtain ⟨m, _, rfl⟩ := instance?_eq_ok_iff.mp made
    exact widened_empty m
  | .decoded c name json i read => widened_of_decode closed read
  | .decodedForm c name form files i read => widened_of_decodeForm closed read
  | .assigned i j name v outcome before given ran =>
    widened_of_assign (widened_of_reaches closed before) (widened_of_takes closed given) ran
  | .unset i name before => by
    have each := Value.widened_ofInstance_iff.mp (widened_of_reaches closed before)
    have kept := Members.erase_sublist name i.slots
    exact Value.widened_ofInstance_iff.mpr fun p member => each p (kept.subset member)

theorem widened_of_takes (closed : s.Closed) {v : Value} : s.Takes v → v.Widened
  | .scalar v atom => .atom v atom
  | .nested i reached => widened_of_reaches closed reached
  | .list items each => .list items fun v member => widened_of_takes closed (each v member)

end

end ModelSet

end ApiContract
