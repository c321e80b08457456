import ApiContract.Proofs.Contract.Models
import ApiContract.Proofs.Model.Language
import ApiContract.Proofs.Model.WellTyped

/-!
# The order within compiled sets

Models are put in order by the dependencies of their properties, and compiled by the types of
their properties, and whatever model a type names is a dependency of its property. A model
inherits fields whose types its own definition does not mention; these name models that its
parent comes after, and so come before the model as well.

## Main definitions

* `Model.Follows` — a model refers to dependencies of its definition only
* `ModelSet.CompiledUpTo` — what holds of a set while the models of a document are compiled

## Main results

* `Topological.mem_of_transGen` — what is depended on through others comes before, too
* `ModelSet.CompiledUpTo.run` — what holds of all models once they are compiled
* `compileModels_ordered` — what a model refers to is in its set and comes before it
-/

namespace ApiContract

open Relation

/-! ### The dependencies of models -/

theorem Topological.mem_of_transGen {dependsOn : String → String → Prop} {order : List String}
    (topological : Topological dependsOn order) {before after : List String} {m n : String}
    (split : order = before ++ m :: after) (depends : TransGen dependsOn m n) : n ∈ before := by
  induction depends with
  | single step => exact topological before m after split _ step
  | tail _ step ih =>
    -- What is in between comes before, and what that depends on before it.
    obtain ⟨first, rest, here⟩ := List.append_of_mem ih
    have shifted := split.trans (congrArg (fun l => l ++ m :: after) here)
    rw [List.append_assoc, List.cons_append] at shifted
    rw [here]
    exact List.mem_append_left _ (topological first _ _ shifted _ step)

/-- A model of a document has the parent that its definition names. Its fields refer to models
that the definition depends on, if only through others, save for lists of the model itself. -/
structure Model.Follows (definitions : List (String × Definition)) (m : Model) : Prop where
  declared : ∃ d, (m.name, d) ∈ definitions ∧ m.parent = d.parentName
  refers : ∀ f ∈ m.fields, ∀ n, f.type.referencedModel? = some n →
    TransGen (DependsOn definitions) m.name n ∨ n = m.name ∧ f.type.element?.isSome

section Follows

variable {definitions : List (String × Definition)} {d : Definition} {s : ModelSet}
  {m above : Model} {name : String}

theorem Model.Follows.dependsOn (follows : m.Follows definitions) {n : String}
    (named : m.parent = some n) : DependsOn definitions m.name n := by
  obtain ⟨d, declared, same⟩ := follows.declared
  exact ⟨d, declared, .inl (same ▸ named)⟩

/-- A property of a definition refers to a dependency, or to a list of the model. -/
theorem Property.dependsOn_of_fieldType {p : String × Property} {context : String}
    {type : FieldType} (declared : (name, d) ∈ definitions) (member : p ∈ d.properties)
    (ok : p.2.fieldType (definitions.map Prod.fst) context = .ok type) {n : String}
    (named : type.referencedModel? = some n) :
    TransGen (DependsOn definitions) name n ∨ n = name ∧ type.element?.isSome := by
  have needed := dependency?_of_fieldType ok
  rw [named, Option.some_or, Option.map_some] at needed
  by_cases itself : type.element?.isSome ∧ n = name
  · exact .inr itself.symm
  · exact .inl (.single ⟨d, declared, .inr ⟨p, member, _, needed, itself⟩⟩)

/-- The fields that a model inherits refer to what its parent refers to, and to the parent. -/
theorem Model.Follows.inherited (follows : above.Follows definitions)
    (depends : DependsOn definitions name above.name) {f : Field} (member : f ∈ above.fields)
    {n : String} (named : f.type.referencedModel? = some n) :
    TransGen (DependsOn definitions) name n := by
  rcases follows.refers f member n named with further | ⟨rfl, _⟩
  · exact .head depends further
  · exact .single depends

private theorem base_follows (declared : (name, d) ∈ definitions)
    (follows : ∀ m ∈ s.models, m.Follows definitions) {base : Model}
    (ok : d.base name s = .ok base) : base.name = name ∧ base.Follows definitions := by
  rcases Definition.base_cases ok with ⟨none, rfl⟩ | ⟨parent, some, found, rfl⟩
  · exact ⟨rfl, ⟨d, declared, none.symm⟩, fun f member => absurd member List.not_mem_nil⟩
  · refine ⟨rfl, ⟨d, declared, some.symm⟩, fun f inherited n named => .inl ?_⟩
    rw [Model.fields_extend_empty] at inherited
    obtain ⟨g, before, rfl⟩ := List.mem_map.mp inherited
    exact (follows parent (ModelSet.get?_eq_some found).1).inherited ⟨d, declared, .inl some⟩
      before named

/-- The model of a definition refers to dependencies of the definition when the models before
it do so. -/
theorem Definition.model_follows (declared : (name, d) ∈ definitions)
    (follows : ∀ m ∈ s.models, m.Follows definitions)
    (ok : d.model name (definitions.map Prod.fst) s = .ok m) :
    m.name = name ∧ m.Follows definitions := by
  refine d.model_induction (fun m => m.name = name ∧ m.Follows definitions) ok
    (fun base first => base_follows declared follows first) ?_
  rintro before p property f - resolved ⟨rfl, holds⟩
  refine ⟨rfl, holds.declared, fun g member n named => ?_⟩
  rcases Model.mem_putField member with rfl | other
  · exact Property.dependsOn_of_fieldType declared property resolved named
  · exact holds.refers g other n named

end Follows

/-! ### Compiling the models in order -/

/-- A definition whose parent is there is not refused for want of it. -/
theorem Definition.model_ne_invalidParent {d : Definition} {s : ModelSet} {known : List String}
    {name child parent : String} (there : ∀ n, d.parentName = some n → n ∈ s.names) :
    d.model name known s ≠ .error (.invalidParent child parent) := by
  intro failed
  rcases Definition.error_of_model failed with ⟨parent, named, missing, _⟩ | ⟨_, typing⟩
  · obtain ⟨m, found⟩ := ModelSet.exists_of_mem_names (there parent named)
    rw [missing] at found
    cases found
  · cases typing

theorem ModelSet.models_insert {s : ModelSet} {m : Model} (fresh : m.name ∉ s.names) :
    (s.insert m).models = s.models ++ [m] := by
  suffices last : ∀ models : List Model, m.name ∉ models.map Model.name →
      putModel m models = models ++ [m] from last s.models fresh
  intro models
  induction models with
  | nil => exact fun _ => rfl
  | cons n rest ih =>
    intro fresh
    rw [List.map_cons, List.mem_cons, not_or] at fresh
    rw [putModel, if_neg (Ne.symm fresh.1), ih fresh.2, List.cons_append]

theorem ModelSet.names_insert {s : ModelSet} {m : Model} (fresh : m.name ∉ s.names) :
    (s.insert m).names = s.names ++ [m.name] := by
  rw [names, models_insert fresh, List.map_append]
  rfl

/-- A set has the models of these names, in this order, and each refers to dependencies only. -/
structure ModelSet.CompiledUpTo (s : ModelSet) (definitions : List (String × Definition))
    (placed : List String) : Prop where
  names : s.names = placed
  follows : ∀ m ∈ s.models, m.Follows definitions

namespace ModelSet.CompiledUpTo

variable {definitions : List (String × Definition)} {s t : ModelSet} {placed rest : List String}
  {name child parent : String}

theorem nil (api : String) : CompiledUpTo { api } definitions [] :=
  ⟨rfl, fun _ member => nomatch member⟩

/-- The model that comes next is added after the others. -/
theorem next (holds : s.CompiledUpTo definitions placed) (fresh : name ∉ placed)
    (declared : name ∈ definitions.map Prod.fst) (ok : compileNext definitions s name = .ok t) :
    t.CompiledUpTo definitions (placed ++ [name]) := by
  rw [compileNext] at ok
  split at ok
  · rename_i missing
    exact absurd declared (Members.lookup_eq_none_iff.mp missing)
  · rename_i d found
    obtain ⟨m, compiled, ok⟩ := bind_eq_ok.mp ok
    obtain rfl := Except.ok.inj ok
    obtain ⟨rfl, here⟩ :=
      Definition.model_follows (Members.mem_of_lookup found) holds.follows compiled
    refine ⟨?_, fun n member => ?_⟩
    · rw [names_insert (holds.names ▸ fresh), holds.names]
    · rcases mem_insert member with rfl | before
      · exact here
      · exact holds.follows n before

/-- The model that comes next is not refused for want of its parent. -/
theorem next_ne_invalidParent (holds : s.CompiledUpTo definitions placed)
    (ready : ∀ n, DependsOn definitions name n → n ∈ placed) :
    compileNext definitions s name ≠ .error (.invalidParent child parent) := by
  intro failed
  rw [compileNext] at failed
  split at failed
  · cases failed
  · rename_i d found
    have there : ∀ n, d.parentName = some n → n ∈ s.names := fun n named =>
      holds.names ▸ ready n ⟨d, Members.mem_of_lookup found, .inl named⟩
    rcases bind_eq_error.mp failed with here | ⟨_, _, ended⟩
    · exact Definition.model_ne_invalidParent there here
    · cases ended

/-- All models of an order are added, none of which is refused for want of its parent. -/
theorem run (holds : s.CompiledUpTo definitions placed) (distinct : (placed ++ rest).Nodup)
    (declared : ∀ n ∈ rest, n ∈ definitions.map Prod.fst)
    (topological : Topological (DependsOn definitions) (placed ++ rest)) :
    (∀ t, rest.foldlM (compileNext definitions) s = .ok t →
        t.CompiledUpTo definitions (placed ++ rest)) ∧
      ∀ child parent, rest.foldlM (compileNext definitions) s ≠
        .error (.invalidParent child parent) := by
  induction rest generalizing s placed with
  | nil =>
    refine ⟨fun t ok => ?_, fun _ _ failed => nomatch failed⟩
    obtain rfl := Except.ok.inj ok
    rwa [List.append_nil]
  | cons name rest ih =>
    have fresh : name ∉ placed := fun taken =>
      (List.nodup_append.mp distinct).2.2 _ taken _ List.mem_cons_self rfl
    have onward : ∀ t, compileNext definitions s name = .ok t → _ := fun t ok =>
      ih (holds.next fresh (declared name List.mem_cons_self) ok)
        (by rwa [← List.append_cons]) (fun n member => declared n (List.mem_cons_of_mem _ member))
        (by rwa [← List.append_cons])
    rw [List.foldlM_cons, List.append_cons]
    constructor
    · intro t ok
      obtain ⟨u, first, later⟩ := bind_eq_ok.mp ok
      exact (onward u first).1 t later
    · intro child parent failed
      rcases bind_eq_error.mp failed with first | ⟨u, first, later⟩
      · exact holds.next_ne_invalidParent (topological placed name rest rfl) first
      · exact (onward u first).2 child parent later

end ModelSet.CompiledUpTo

/-! ### Compiled sets -/

section Compiled

variable {definitions : List (String × Definition)} {api : String} {s : ModelSet}
  {order : List String}

/-- The order of models has each declared model once, after all that it depends on. -/
theorem topological_of_orderModels (distinct : (definitions.map Prod.fst).Nodup)
    (ok : orderModels definitions = .ok order) :
    order.Perm (definitions.map Prod.fst) ∧ Topological (DependsOn definitions) order := by
  obtain ⟨_, needs, _⟩ := bind_eq_ok.mp ok
  rcases orderModels_cases distinct (parents_of_dependencies needs) with
    ⟨_, placed, spec⟩ | ⟨_, failed, _⟩
  · rw [ok] at placed
    cases placed
    exact spec
  · rw [ok] at failed
    cases failed

/-- Compiling the models in order, from none to all. -/
theorem compileModels_run (distinct : (definitions.map Prod.fst).Nodup)
    (ok : orderModels definitions = .ok order) :
    (∀ s, compileModels api definitions = .ok s → s.CompiledUpTo definitions order) ∧
      ∀ child parent, compileModels api definitions ≠ .error (.invalidParent child parent) := by
  obtain ⟨perm, topological⟩ := topological_of_orderModels distinct ok
  have once : order.Nodup := perm.nodup_iff.mpr distinct
  rw [compileModels_eq, ok]
  exact (ModelSet.CompiledUpTo.nil api).run once (fun n member => perm.mem_iff.mp member)
    topological

/-- Each declared model is compiled once. -/
theorem names_of_compileModels (distinct : (definitions.map Prod.fst).Nodup)
    (compiled : compileModels api definitions = .ok s) :
    s.names.Perm (definitions.map Prod.fst) := by
  obtain ⟨order, ordered, _⟩ := bind_eq_ok.mp compiled
  rw [((compileModels_run distinct ordered).1 s compiled).names]
  exact (topological_of_orderModels distinct ordered).1

end Compiled

/-! ### Forms -/

namespace ModelSet

variable {s : ModelSet} {c : Codec} {name : String} {m : Model} {form : Json}

theorem setFiles_knowsModels (files : List (String × List UInt8)) (i : Instance) :
    KnowsModels (setFiles files i) := by
  induction files generalizing i with
  | nil => exact .ok i
  | cons file rest ih =>
    obtain ⟨name, content⟩ := file
    rw [setFiles]
    split
    · refine KnowsModels.bind (fun unknown failed => ?_) ih
      have spec := Instance.assign_spec i name (.bytes content)
      have outcome := Change.result_eq_error_iff.mp failed
      generalize (Instance.assign name (.bytes content)).on i = ran at spec outcome
      cases spec <;> cases outcome
    · exact ih i

/-- A form of a model is read without wanting for another one. -/
theorem decodeForm_knowsModels (closed : s.Closed) (found : s.get? name = some m)
    (files : List (String × List UInt8)) : KnowsModels (s.decodeForm c name form files) := by
  have empty : s.instance? name = .ok { model := m } := by rw [instance?, found]
  intro unknown failed
  rw [decodeForm, empty] at failed
  change (setFiles files { model := m } >>= _) = _ at failed
  rcases bind_eq_error.mp failed with preset | ⟨i, preset, read⟩
  · exact setFiles_knowsModels files _ unknown preset
  · have same : i.model = m := (setFiles_holds (.empty m) preset).1
    exact readInto_knowsModels closed (get?_eq_some found).1 same unknown read

end ModelSet

/-- A document that declares each of its models once compiles to these models. Whatever model
the type of a field names, through any depth of lists, comes before the model with the field,
unless it is that model itself in a list; so does the parent of a model, which is the one
that its definition names. When the models can be put in order, compiling them never wants for
a parent, and reading a body or a form of a compiled model never wants for a model. -/
theorem compileModels_ordered {api : String} {definitions : List (String × Definition)}
    (distinct : (definitions.map Prod.fst).Nodup) :
    (∀ s, compileModels api definitions = .ok s →
        s.names.Perm (definitions.map Prod.fst) ∧
        (∀ before m after, s.models = before ++ m :: after →
          (∀ f ∈ m.fields, ∀ n, f.type.referencedModel? = some n →
            n ∈ before.map Model.name ∨ n = m.name ∧ f.type.element?.isSome) ∧
          (∀ parent, m.parent = some parent → parent ∈ before.map Model.name) ∧
          ∃ d, (m.name, d) ∈ definitions ∧ m.parent = d.parentName) ∧
        ∀ name ∈ s.names, ∀ c json files unknown,
          s.decode c name json ≠ .error (.unknownModel unknown) ∧
            s.decodeForm c name json files ≠ .error (.unknownModel unknown)) ∧
      ∀ order, orderModels definitions = .ok order → ∀ child parent,
        compileModels api definitions ≠ .error (.invalidParent child parent) := by
  refine ⟨fun s compiled => ⟨names_of_compileModels distinct compiled, ?_, ?_⟩, ?_⟩
  · intro before m after split
    obtain ⟨order, ordered, _⟩ := bind_eq_ok.mp compiled
    have compiledAll := (compileModels_run distinct ordered).1 s compiled
    have topological := (topological_of_orderModels distinct ordered).2
    have follows := compiledAll.follows m (by rw [split]; simp)
    have here : order = before.map Model.name ++ m.name :: after.map Model.name := by
      rw [← compiledAll.names, ModelSet.names, split]
      simp
    refine ⟨fun f member n named => ?_, fun parent named => ?_, follows.declared⟩
    · exact (follows.refers f member n named).imp_left (topological.mem_of_transGen here)
    · exact topological _ _ _ here _ (follows.dependsOn named)
  · intro name member c json files unknown
    have closed := (compileModels_closed compiled).1
    obtain ⟨m, found⟩ := ModelSet.exists_of_mem_names member
    exact ⟨ModelSet.decode_knowsModels closed found unknown,
      ModelSet.decodeForm_knowsModels closed found files unknown⟩
  · exact fun order ordered => (compileModels_run distinct ordered).2

/-! ### A shelter for dogs -/

/-- Puppies are dogs, dogs are animals and have litters of dogs. -/
def shelterDefinitions : List (String × Definition) :=
  [("Puppy", { parent := some "Dog" }),
    ("Dog", { parent := some "zoo.Animal",
              properties := [("litter", .mk (some "array") none none none
                (some (.mk none none (some "#/definitions/Dog") none none false false none))
                false false none)] }),
    ("Animal", {})]

/-- The model of puppies, whose litters are inherited. -/
def puppy : Model where
  name := "Puppy"
  api := "shelter"
  parent := some "Dog"
  fields := [⟨"litter", .list (.model "Dog"), .optional, none, true⟩]

/-- The models of the shelter before that of puppies. -/
def grown : List Model :=
  [{ name := "Animal", api := "shelter" },
    { name := "Dog", api := "shelter", parent := some "Animal",
      fields := [⟨"litter", .list (.model "Dog"), .optional, none, false⟩] }]

/-- What a puppy inherits from dogs is a list of dogs, which come before it. -/
theorem compileModels_ordered_shelter :
    (shelterDefinitions.map Prod.fst).Nodup ∧
      compileModels "shelter" shelterDefinitions = .ok ⟨"shelter", grown ++ [puppy]⟩ ∧
      ("Dog" ∈ grown.map Model.name ∨
        "Dog" = puppy.name ∧ (FieldType.list (.model "Dog")).element?.isSome) ∧
      (∀ c json files unknown,
        ModelSet.decodeForm ⟨"shelter", grown ++ [puppy]⟩ c "Puppy" json files ≠
          .error (.unknownModel unknown)) ∧
      ∀ child parent,
        compileModels "barn" shelterDefinitions ≠ .error (.invalidParent child parent) := by
  have distinct : (shelterDefinitions.map Prod.fst).Nodup := by decide
  have needs : dependencies shelterDefinitions =
      .ok [("Puppy", ["Dog"]), ("Dog", ["Animal"]), ("Animal", [])] := rfl
  have order : orderModels shelterDefinitions = .ok ["Animal", "Dog", "Puppy"] := by
    rw [orderModels, needs]
    simp [bind, Except.bind, placeAll, placeReady]
  have compiled : compileModels "shelter" shelterDefinitions =
      .ok ⟨"shelter", grown ++ [puppy]⟩ := by
    rw [compileModels, order]
    rfl
  obtain ⟨_, ordered, known⟩ := (compileModels_ordered distinct).1 _ compiled
  obtain ⟨earlier, _⟩ := ordered grown puppy [] rfl
  refine ⟨distinct, compiled, earlier _ List.mem_cons_self "Dog" rfl, ?_,
    (compileModels_ordered distinct).2 _ order⟩
  exact fun c json files unknown => (known "Puppy" (by decide) c json files unknown).2

end ApiContract
