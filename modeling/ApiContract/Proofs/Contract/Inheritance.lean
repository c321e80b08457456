import ApiContract.Proofs.Contract.Closure
import ApiContract.Proofs.Service.Acceptance

/-!
# What a model inherits

A model has the fields of its parent, in their order and before its own. A property that the
definition declares again replaces the inherited field, with whatever type and presence it
has; every other field is the parent's.

## Main definitions

* `Model.Inherits` — a model has the fields of another, save for those that it declares itself
* `ModelSet.InOrder` — each model of a set is that of its definition, given those before it

## Main results

* `Definition.model_inherits` — what the model of a definition inherits
* `ModelSet.models_induction` — what holds of a model by those before it, holds of all
* `compileModels_inOrder` — compiled sets are in order
* `ModelSet.InOrder.inherits` — every model of a compiled set inherits from its parent there
-/

namespace ApiContract

/-- A model has a field for each one of its parent, the very same unless its name is among the
given ones. -/
structure Model.Inherits (m parent : Model) (own : List String) : Prop where
  names : ∀ f ∈ parent.fields, f.name ∈ m.fieldNames
  kept : ∀ f ∈ parent.fields, f.name ∉ own → { f with inherited := true } ∈ m.fields

theorem Model.mem_putField_of_ne {f g : Field} {fields : List Field} (member : g ∈ fields)
    (differ : g.name ≠ f.name) : g ∈ putField f fields := by
  induction fields with
  | nil => cases member
  | cons h rest ih =>
    rw [putField]
    rcases List.mem_cons.mp member with rfl | later
    · rw [if_neg differ]
      exact List.mem_cons_self
    · split
      · exact List.mem_cons_of_mem _ later
      · exact List.mem_cons_of_mem _ (ih later)

section Definitions

variable {d : Definition} {set : ModelSet} {name : String} {known : List String} {m base : Model}

/-- A model before its own properties are added has all fields of its parent. -/
theorem Definition.base_inherits (ok : d.base name set = .ok base) :
    base.name = name ∧ base.parent = d.parentName ∧ ∀ parent, d.parentName = some parent →
      ∃ n, set.get? parent = some n ∧ ∀ own, base.Inherits n own := by
  rcases base_cases ok with ⟨none, rfl⟩ | ⟨n, some, found, rfl⟩
  · refine ⟨rfl, none.symm, fun parent named => ?_⟩
    rw [none] at named
    cases named
  · refine ⟨rfl, some.symm, fun parent named => ?_⟩
    obtain rfl := Option.some.inj (some.symm.trans named)
    have fields : ∀ f ∈ n.fields,
        { f with inherited := true } ∈ ((Model.empty name set.api).extend n).fields :=
      fun f member => Model.fields_extend_empty name set.api n ▸ List.mem_map_of_mem member
    exact ⟨n, found, fun own => ⟨fun f member => List.mem_map.mpr ⟨_, fields f member, rfl⟩,
      fun f member _ => fields f member⟩⟩

/-- A field that is added replaces at most the field of its own name. -/
theorem Model.Inherits.withField {parent : Model} {own : List String} {f : Field}
    (inherits : m.Inherits parent own) (declared : f.name ∈ own) :
    (m.withField f).Inherits parent own where
  names g member := Model.mem_names_putField.mpr (.inr (inherits.names g member))
  kept g member other :=
    Model.mem_putField_of_ne (inherits.kept g member other) fun same => other (same ▸ declared)

/-- The model of a definition has its name and the parent that it names, and inherits from the
parent all but the properties of the definition. -/
theorem Definition.model_inherits (ok : d.model name known set = .ok m) :
    m.name = name ∧ m.parent = d.parentName ∧ ∀ parent, d.parentName = some parent →
      ∃ n, set.get? parent = some n ∧ m.Inherits n (d.properties.map Prod.fst) := by
  refine d.model_induction (fun m => m.name = name ∧ m.parent = d.parentName ∧ ∀ parent,
    d.parentName = some parent →
      ∃ n, set.get? parent = some n ∧ m.Inherits n (d.properties.map Prod.fst)) ok ?_ ?_
  · intro base first
    obtain ⟨same, named, inherits⟩ := base_inherits first
    refine ⟨same, named, fun parent some => ?_⟩
    obtain ⟨n, found, all⟩ := inherits parent some
    exact ⟨n, found, all _⟩
  · rintro before p property f declared - ⟨same, named, inherits⟩
    refine ⟨same, named, fun parent some => ?_⟩
    obtain ⟨n, found, holds⟩ := inherits parent some
    exact ⟨n, found, holds.withField (declared ▸ List.mem_map_of_mem property)⟩

end Definitions

/-! ### Compiled sets -/

/-- Each model of a set is that of its definition, given the models before it. -/
def ModelSet.InOrder (s : ModelSet) (definitions : List (String × Definition)) : Prop :=
  ∀ before m after, s.models = before ++ m :: after →
    ∃ d, Members.lookup m.name definitions = some d ∧
      d.model m.name (definitions.map Prod.fst) { s with models := before } = .ok m

/-- What holds of a model when it holds of all before it holds of every model of a set. -/
theorem ModelSet.models_induction {s : ModelSet} (holds : Model → Prop)
    (step : ∀ before m after, s.models = before ++ m :: after → (∀ n ∈ before, holds n) → holds m) :
    ∀ m ∈ s.models, holds m := by
  suffices upTo : ∀ before after, s.models = before ++ after → ∀ m ∈ before, holds m from
    upTo s.models [] (List.append_nil _).symm
  intro before
  induction before using List.reverseRecOn with
  | nil => exact fun _ _ => List.forall_mem_nil _
  | append_singleton before m ih =>
    intro after split
    rw [List.append_assoc, List.singleton_append] at split
    have earlier := ih _ split
    exact List.forall_mem_append.mpr ⟨earlier, List.forall_mem_singleton.mpr
      (step before m after split earlier)⟩

namespace ModelSet.InOrder

variable {definitions : List (String × Definition)} {api name : String} {s t : ModelSet}
  {placed rest : List String}

/-- The model that comes next is that of its definition. -/
theorem next (inOrder : s.InOrder definitions) (fresh : name ∉ s.names)
    (ok : compileNext definitions s name = .ok t) : t.InOrder definitions := by
  rw [compileNext] at ok
  split at ok
  · obtain rfl := Except.ok.inj ok
    exact inOrder
  · rename_i d found
    obtain ⟨m, compiled, ok⟩ := bind_eq_ok.mp ok
    obtain rfl := Except.ok.inj ok
    obtain ⟨rfl, _⟩ := Definition.model_inherits compiled
    intro before n after split
    rw [models_insert fresh] at split
    rcases List.eq_nil_or_concat after with rfl | ⟨others, last, rfl⟩
    · obtain ⟨rfl, same⟩ := List.append_inj' split rfl
      obtain rfl : m = n := by simpa using same
      exact ⟨d, found, compiled⟩
    · -- The new model is the last one, so this one was there before.
      rw [List.concat_eq_append, ← List.cons_append, ← List.append_assoc] at split
      exact inOrder before n others (List.append_inj' split rfl).1

theorem run (inOrder : s.InOrder definitions) (holds : s.CompiledUpTo definitions placed)
    (distinct : (placed ++ rest).Nodup) (declared : ∀ n ∈ rest, n ∈ definitions.map Prod.fst)
    (ok : rest.foldlM (compileNext definitions) s = .ok t) : t.InOrder definitions := by
  induction rest generalizing s placed with
  | nil =>
    obtain rfl := Except.ok.inj ok
    exact inOrder
  | cons name rest ih =>
    have fresh : name ∉ placed := fun taken =>
      (List.nodup_append.mp distinct).2.2 _ taken _ List.mem_cons_self rfl
    rw [List.foldlM_cons] at ok
    obtain ⟨u, first, later⟩ := bind_eq_ok.mp ok
    exact ih (inOrder.next (holds.names ▸ fresh) first)
      (holds.next fresh (declared name List.mem_cons_self) first) (by rwa [← List.append_cons])
      (fun n member => declared n (List.mem_cons_of_mem _ member)) later

/-- A model that names a parent inherits from it all but the properties of its definition. -/
theorem inherits (inOrder : s.InOrder definitions) {child parent : String} {m : Model}
    (found : s.get? child = some m) (named : m.parent = some parent) :
    ∃ d n, Members.lookup child definitions = some d ∧ s.get? parent = some n ∧
      m.Inherits n (d.properties.map Prod.fst) := by
  obtain ⟨member, rfl⟩ := get?_eq_some found
  obtain ⟨before, after, split⟩ := List.append_of_mem member
  obtain ⟨d, declared, compiled⟩ := inOrder before m after split
  obtain ⟨_, same, inherits⟩ := Definition.model_inherits compiled
  obtain ⟨n, above, holds⟩ := inherits parent (same ▸ named)
  refine ⟨d, n, declared, ?_, holds⟩
  -- What is found among the models before is found among all of them.
  rw [get?, split, List.find?_append]
  exact Option.or_eq_some_iff.mpr (.inl above)

end ModelSet.InOrder

/-- In a compiled set each model is that of its definition, given the models before it. -/
theorem compileModels_inOrder {definitions : List (String × Definition)} {api : String}
    {s : ModelSet} (distinct : (definitions.map Prod.fst).Nodup)
    (compiled : compileModels api definitions = .ok s) : s.InOrder definitions := by
  obtain ⟨order, ordered, ok⟩ := bind_eq_ok.mp compiled
  obtain ⟨perm, _⟩ := topological_of_orderModels distinct ordered
  have none : ({ api } : ModelSet).InOrder definitions := fun before m after split => by
    cases before <;> cases split
  exact none.run (.nil api) (perm.nodup_iff.mpr distinct) (fun n member => perm.mem_iff.mp member)
    ok

end ApiContract
