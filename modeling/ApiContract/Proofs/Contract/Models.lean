import ApiContract.Proofs.Contract.Dependency

/-!
# What holds of compiled models

The models of a document refer to each other by name only. Once they are compiled, every
name that a field refers to is the name of a model of the same set, and no model has two
fields of one name, whatever it inherits and replaces.

## Main definitions

* `ModelSet.Closed` — the models of a set suffice to read each of them

## Main results

* `Definition.base_cases` — what a model is before its own properties are added
* `Definition.model_induction` — what holds of the model of a definition, field by field
* `Definition.model_spec` — what the model of a definition refers to
* `compileModels_closed` — compiled sets are closed
-/

namespace ApiContract

/-! ### Fields -/

namespace Model

variable {f g : Field} {fields : List Field}

theorem mem_putField (member : g ∈ putField f fields) : g = f ∨ g ∈ fields := by
  induction fields with
  | nil => simpa [putField] using member
  | cons h rest ih =>
    rw [putField] at member
    split at member
    · exact (List.mem_cons.mp member).imp_right (List.mem_cons_of_mem _)
    · rcases List.mem_cons.mp member with rfl | later
      · exact .inr List.mem_cons_self
      · exact (ih later).imp_right (List.mem_cons_of_mem _)

theorem mem_names_putField {name : String} :
    name ∈ (putField f fields).map Field.name ↔ name = f.name ∨ name ∈ fields.map Field.name := by
  induction fields with
  | nil => simp [putField]
  | cons h rest ih =>
    rw [putField]
    split
    · rename_i same
      simp [same]
    · rw [List.map_cons, List.mem_cons, ih, List.map_cons, List.mem_cons, or_left_comm]

/-- A field that is put among others shares its name with none of them. -/
theorem nodup_putField (distinct : (fields.map Field.name).Nodup) :
    ((putField f fields).map Field.name).Nodup := by
  induction fields with
  | nil => simp [putField]
  | cons h rest ih =>
    rw [List.map_cons, List.nodup_cons] at distinct
    rw [putField]
    split
    · rename_i same
      rw [List.map_cons, List.nodup_cons, ← same]
      exact distinct
    · rename_i differ
      rw [List.map_cons, List.nodup_cons, mem_names_putField]
      exact ⟨fun taken => taken.elim differ distinct.1, ih distinct.2⟩

theorem isSome_field?_iff {m : Model} {name : String} :
    (m.field? name).isSome ↔ name ∈ m.fieldNames := by
  simp [field?, fieldNames]

theorem field?_eq_some {m : Model} {name : String} (found : m.field? name = some f) :
    f ∈ m.fields ∧ f.name = name :=
  ⟨List.mem_of_find?_eq_some found, by simpa using List.find?_some found⟩

/-- When names are distinct, a field is found under its name. -/
theorem field?_of_mem {m : Model} (distinct : m.fieldNames.Nodup) (member : f ∈ m.fields) :
    m.field? f.name = some f := by
  have declared : (m.field? f.name).isSome := isSome_field?_iff.mpr (List.mem_map_of_mem member)
  obtain ⟨g, found⟩ := Option.isSome_iff_exists.mp declared
  obtain ⟨listed, same⟩ := field?_eq_some found
  rw [found, List.inj_on_of_nodup_map distinct listed member same]

end Model

/-! ### Sets of models -/

namespace ModelSet

variable {s : ModelSet} {m n : Model} {name : String}

theorem get?_eq_some (found : s.get? name = some m) : m ∈ s.models ∧ m.name = name :=
  ⟨List.mem_of_find?_eq_some found, by simpa using List.find?_some found⟩

private theorem find?_name_cons (n : Model) (rest : List Model) :
    (n :: rest).find? (fun m => m.name == name) =
      if n.name = name then some n else rest.find? fun m => m.name == name := by
  rw [List.find?_cons]
  by_cases here : n.name = name
  · rw [if_pos here, beq_iff_eq.mpr here]
  · rw [if_neg here, beq_eq_false_iff_ne.mpr here]

private theorem find?_putModel (models : List Model) :
    (putModel m models).find? (fun n => n.name == name) =
      if m.name = name then some m else models.find? fun n => n.name == name := by
  induction models with
  | nil =>
    rw [putModel, find?_name_cons]
  | cons n rest ih =>
    rw [putModel, find?_name_cons]
    split
    · rename_i same
      rw [find?_name_cons, same]
      split <;> rfl
    · rename_i differ
      rw [find?_name_cons, ih]
      split
      · rename_i here
        rw [if_neg fun same => differ (here.trans same.symm)]
      · rfl

/-- Adding a model changes what is found under its name. -/
theorem get?_insert (s : ModelSet) (m : Model) (name : String) :
    (s.insert m).get? name = if m.name = name then some m else s.get? name :=
  find?_putModel s.models

theorem contains_insert : (s.insert m).contains name ↔ m.name = name ∨ s.contains name := by
  rw [contains, get?_insert]
  split
  · rename_i same
    simp [same]
  · rename_i differ
    simp [differ, contains]

private theorem mem_putModel {models : List Model} (member : n ∈ putModel m models) :
    n = m ∨ n ∈ models := by
  induction models with
  | nil => simpa [putModel] using member
  | cons k rest ih =>
    rw [putModel] at member
    split at member
    · exact (List.mem_cons.mp member).imp_right (List.mem_cons_of_mem _)
    · rcases List.mem_cons.mp member with rfl | later
      · exact .inr List.mem_cons_self
      · exact (ih later).imp_right (List.mem_cons_of_mem _)

theorem mem_insert (member : n ∈ (s.insert m).models) : n = m ∨ n ∈ s.models :=
  mem_putModel member

theorem contains_iff : s.contains name ↔ name ∈ s.names := by
  simp [contains, get?, names]

theorem exists_of_mem_names (member : name ∈ s.names) : ∃ m, s.get? name = some m :=
  Option.isSome_iff_exists.mp (contains_iff.mpr member)

/-- When names are distinct, every model of a set is found under its name. -/
theorem get?_of_mem (distinct : s.names.Nodup) (member : m ∈ s.models) :
    s.get? m.name = some m := by
  obtain ⟨n, found⟩ := exists_of_mem_names (List.mem_map_of_mem (f := Model.name) member)
  obtain ⟨declared, same⟩ := get?_eq_some found
  rw [found, List.inj_on_of_nodup_map distinct declared member same]

end ModelSet

/-! ### The types of properties -/

/-- The model that a type names, if any, is one of the known ones. -/
def FieldType.RefersTo (type : FieldType) (known : List String) : Prop :=
  ∀ name, type.referencedModel? = some name → name ∈ known

/-- The type of a property refers to a known model, if to any. -/
theorem Property.refersTo_fieldType {p : Property} {known : List String} {context : String}
    {type : FieldType} (ok : p.fieldType known context = .ok type) : type.RefersTo known := by
  intro name named
  have needed := dependency?_of_fieldType ok
  rw [named, Option.some_or, Option.map_some] at needed
  exact mem_of_dependency? needed

/-! ### The model of a definition -/

section Compiled

variable {known : List String} {set : ModelSet}

/-- A model has no two fields of one name, and its fields refer to known models. -/
structure Model.Sound (m : Model) (known : List String) : Prop where
  distinct : m.fieldNames.Nodup
  declared : ∀ f ∈ m.fields, f.type.RefersTo known

/-- The models of a set refer to each other only. -/
def ModelSet.Closed (s : ModelSet) : Prop :=
  ∀ m ∈ s.models, m.Sound s.names

theorem Model.Sound.withField {m : Model} {f : Field} (sound : m.Sound known)
    (declared : f.type.RefersTo known) : (m.withField f).Sound known where
  distinct := nodup_putField sound.distinct
  declared g member := by
    rcases mem_putField member with rfl | before
    · exact declared
    · exact sound.declared g before

theorem Model.fields_extend_empty (name api : String) (parent : Model) :
    ((Model.empty name api).extend parent).fields =
      parent.fields.map fun f => { f with inherited := true } :=
  List.append_nil _

/-- A model before its own properties are added is empty, or extends the parent. -/
theorem Definition.base_cases {d : Definition} {name : String} {base : Model}
    (ok : d.base name set = .ok base) :
    d.parentName = none ∧ base = .empty name set.api ∨
      ∃ n, d.parentName = some n.name ∧ set.get? n.name = some n ∧
        base = (Model.empty name set.api).extend n := by
  rw [Definition.base] at ok
  split at ok
  · rename_i none
    exact .inl ⟨none, (Except.ok.inj ok).symm⟩
  · rename_i parent some
    split at ok
    · rename_i n found
      obtain ⟨_, rfl⟩ := ModelSet.get?_eq_some found
      exact .inr ⟨n, some, found, (Except.ok.inj ok).symm⟩
    · cases ok

private theorem base_sound {d : Definition} {name : String} {base : Model}
    (sound : ∀ m ∈ set.models, m.Sound known) (ok : d.base name set = .ok base) :
    base.Sound known ∧ base.name = name := by
  rcases Definition.base_cases ok with ⟨_, rfl⟩ | ⟨n, _, found, rfl⟩
  · exact ⟨⟨List.nodup_nil, fun f member => absurd member List.not_mem_nil⟩, rfl⟩
  · have inherited := sound n (ModelSet.get?_eq_some found).1
    refine ⟨⟨?_, fun f member => ?_⟩, rfl⟩
    · rw [Model.fieldNames, Model.fields_extend_empty, List.map_map]
      exact inherited.distinct
    · rw [Model.fields_extend_empty] at member
      obtain ⟨g, before, rfl⟩ := List.mem_map.mp member
      exact inherited.declared g before

/-- What holds of a model before its own properties are added, and still holds when the field
of one of them is, holds of the model of the definition. -/
theorem Definition.model_induction {d : Definition} {name : String} {m : Model}
    (holds : Model → Prop) (ok : d.model name known set = .ok m)
    (base : ∀ m, d.base name set = .ok m → holds m)
    (add : ∀ m, ∀ p ∈ d.properties, ∀ f : Field, f.name = p.1 →
      p.2.fieldType known (name ++ "." ++ p.1) = .ok f.type → holds m → holds (m.withField f)) :
    holds m := by
  rw [Definition.model] at ok
  obtain ⟨start, first, ok⟩ := bind_eq_ok.mp ok
  refine foldlM_invariant holds (fun before after p member step before_holds => ?_) ok
    (base start first)
  obtain ⟨f, typed, step⟩ := bind_eq_ok.mp step
  obtain rfl := Except.ok.inj step
  obtain ⟨type, resolved, typed⟩ := bind_eq_ok.mp typed
  obtain rfl := Except.ok.inj typed
  exact add before p member _ rfl resolved before_holds

/-- The model of a definition has its name, fields of distinct names, and refers to known
models. -/
theorem Definition.model_spec {d : Definition} {name : String} {m : Model}
    (sound : ∀ m ∈ set.models, m.Sound known) (ok : d.model name known set = .ok m) :
    m.Sound known ∧ m.name = name := by
  refine d.model_induction (fun m => m.Sound known ∧ m.name = name) ok
    (fun base first => base_sound sound first) fun m p _ f _ resolved holds => ?_
  exact ⟨holds.1.withField (Property.refersTo_fieldType resolved), holds.2⟩

/-- Models that are compiled one after the other are sound, and none that has a definition
is left out. -/
private theorem foldlM_compile {definitions : List (String × Definition)} {order : List String}
    {start last : ModelSet} (sound : ∀ m ∈ start.models, m.Sound known)
    (done : order.foldlM (fun set name =>
      match Members.lookup name definitions with
      | none => Except.ok (ε := ContractError) set
      | some d => do return set.insert (← d.model name known set)) start = .ok last) :
    (∀ m ∈ last.models, m.Sound known) ∧ last.api = start.api ∧
      ∀ name, (name ∈ order ∧ name ∈ definitions.map Prod.fst) ∨ start.contains name →
        last.contains name := by
  induction order generalizing start with
  | nil =>
    obtain rfl := Except.ok.inj done
    exact ⟨sound, rfl, fun name there => there.resolve_left (by simp)⟩
  | cons first rest ih =>
    rw [List.foldlM_cons] at done
    obtain ⟨next, step, done⟩ := bind_eq_ok.mp done
    split at step
    · rename_i missing
      obtain rfl := Except.ok.inj step
      obtain ⟨all, api, kept⟩ := ih sound done
      refine ⟨all, api, fun name there => kept name ?_⟩
      rcases there with ⟨member, declared⟩ | before
      · -- What has no definition is no declared model.
        rcases List.mem_cons.mp member with rfl | later
        · exact absurd declared (Members.lookup_eq_none_iff.mp missing)
        · exact .inl ⟨later, declared⟩
      · exact .inr before
    · rename_i d _
      obtain ⟨m, compiled, step⟩ := bind_eq_ok.mp step
      obtain rfl := Except.ok.inj step
      obtain ⟨here, named⟩ := Definition.model_spec sound compiled
      have onward : ∀ n ∈ (start.insert m).models, n.Sound known := by
        intro n member
        rcases ModelSet.mem_insert member with rfl | before
        · exact here
        · exact sound n before
      obtain ⟨all, api, kept⟩ := ih onward done
      refine ⟨all, api, fun name there => kept name ?_⟩
      rw [ModelSet.contains_insert]
      rcases there with ⟨member, declared⟩ | before
      · rcases List.mem_cons.mp member with rfl | later
        · exact .inr (.inl named)
        · exact .inl ⟨later, declared⟩
      · exact .inr (.inr before)

end Compiled

/-- Compiled sets are closed. -/
theorem compileModels_closed {api : String} {definitions : List (String × Definition)}
    {s : ModelSet} (ok : compileModels api definitions = .ok s) : s.Closed ∧ s.api = api := by
  rw [compileModels] at ok
  obtain ⟨order, ordered, ok⟩ := bind_eq_ok.mp ok
  have initially : ∀ m ∈ ({ api } : ModelSet).models, m.Sound (definitions.map Prod.fst) :=
    List.forall_mem_nil _
  obtain ⟨sound, same, complete⟩ := foldlM_compile initially ok
  refine ⟨fun m member => ⟨(sound m member).distinct, fun f field name named => ?_⟩, same⟩
  -- While models are compiled they may refer to models to come; at the end all are there.
  have known := (sound m member).declared f field name named
  rw [← ModelSet.contains_iff]
  exact complete name (.inl ⟨mem_of_orderModels ordered known, known⟩)

end ApiContract
