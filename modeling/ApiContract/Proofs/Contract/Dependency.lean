import ApiContract.Contract.Models
import ApiContract.Proofs.Contract.Order

/-!
# Dependencies and types

What a property depends on is read off its declaration before any type is known, so that the
models can be put in order. It is the model that the type of the property then refers to, and
through an array exactly when that type is a list, with one exception: a token that is both a
primitive type and the name of a model is the primitive type, but counts as a dependency on
the model.

## Main definitions

* `Property.shadow?` — the model that a primitive type hides
* `References`, `Shadows` — the dependencies that the compiled types and the parents show, and
  those that they do not
* `compileNext` — one model of a document added to those before

## Main results

* `Property.dependency?_of_fieldType`, `Property.dependency?_of_refused` — the dependency of a
  property, given its type, and without one
* `dependsOn_iff` — a dependency is a reference or is hidden
* `dependencies_agree` — dependencies by types, and what a cycle is made of
-/

namespace ApiContract

open Relation

/-- What is reported of a property that has no type, with the place that it stands at. -/
inductive ContractError.IsTyping (context : String) : ContractError → Prop
  | token (token : String) : IsTyping context (.unknownType token context)
  | reference (reference : String) : IsTyping context (.unresolvedReference reference context)

/-! ### Properties -/

/-- The model that goes by the name of a primitive type. -/
def FieldType.shadowOf? (token : String) (known : List String) : Option String :=
  if known.contains token && (primitive? token).isSome then some token else none

namespace Property

/-- The model that the type of a property which is no array hides. -/
def plainShadow? (p : Property) (known : List String) : Option String :=
  match p.reference, p.values, p.format.orElse fun _ => p.type with
  | some _, _, _ => none
  | none, some _, _ => none
  | none, none, some token => FieldType.shadowOf? token known
  | none, none, none => none

/-- The model whose name a property declares as a primitive type, at any depth of arrays. -/
def shadow? (known : List String) : Property → Option String
  | p@(.mk _ _ _ _ items _ _ _) =>
    if p.isArray then
      match items with
      | some element => element.shadow? known
      | none => none
    else p.plainShadow? known

end Property

section Types

variable {known : List String} {context token name : String} {type : FieldType} {p : Property}
  {e : ContractError}

theorem FieldType.referencedModel?_of_primitive? (found : primitive? token = some type) :
    type.referencedModel? = none ∧ type.element? = none := by
  unfold primitive? at found
  split at found <;> cases found <;> exact ⟨rfl, rfl⟩

/-- A known token is the name of a model, unless it is that of a primitive type. -/
theorem FieldType.known_of_ofToken (ok : ofToken token known context = .ok type) :
    (if known.contains token then some token else none) =
        type.referencedModel?.or (shadowOf? token known) ∧ type.element? = none := by
  rw [ofToken] at ok
  split at ok
  · rename_i primitive found
    obtain rfl := Except.ok.inj ok
    obtain ⟨none, plain⟩ := referencedModel?_of_primitive? found
    refine ⟨?_, plain⟩
    rw [none, Option.none_or, shadowOf?, found, Option.isSome_some, Bool.and_true]
  · split at ok
    · rename_i declared
      obtain rfl := Except.ok.inj ok
      exact ⟨if_pos declared, rfl⟩
    · cases ok

theorem resolveReference_eq_ok_iff {reference : String} :
    resolveReference reference known context = .ok name ↔
      (modelOfReference? reference).filter known.contains = some name := by
  rw [resolveReference, modelOfReference]
  cases modelOfReference? reference with
  | none => exact ⟨fun failed => (nomatch failed), fun none => (nomatch none)⟩
  | some model =>
    rw [Option.filter_some]
    change (if known.contains model then Except.ok model else .error _) = _ ↔ _
    split <;> simp

theorem error_of_resolveReference {reference : String}
    (failed : resolveReference reference known context = .error e) :
    e = .unresolvedReference reference context := by
  rcases bind_eq_error.mp failed with unnamed | ⟨_, _, unknown⟩
  · rw [modelOfReference] at unnamed
    split at unnamed <;> cases unnamed
    rfl
  · split at unknown <;> cases unknown
    rfl

theorem FieldType.error_of_ofToken (failed : ofToken token known context = .error e) :
    e = .unknownType token context ∧ ¬ known.contains token := by
  rw [ofToken] at failed
  split at failed
  · cases failed
  · split at failed
    · cases failed
    · rename_i unknown
      exact ⟨(Except.error.inj failed).symm, unknown⟩

namespace Property

/-- Both look at reference, values, format and type in the same order. -/
theorem plainDependency?_of_plainType (ok : p.plainType known context = .ok type) :
    p.plainDependency? known = type.referencedModel?.or (p.plainShadow? known) ∧
      type.element? = none := by
  revert ok
  rw [plainType, plainDependency?, plainShadow?]
  cases p.reference with
  | some reference =>
    intro ok
    obtain ⟨model, resolved, rfl⟩ := map_eq_ok.mp ok
    exact ⟨resolveReference_eq_ok_iff.mp resolved, rfl⟩
  | none =>
    cases p.values with
    | some values =>
      intro ok
      obtain rfl := Except.ok.inj ok
      exact ⟨rfl, rfl⟩
    | none =>
      cases p.format.orElse fun _ => p.type with
      | some token => exact FieldType.known_of_ofToken
      | none =>
        intro ok
        cases ok

/-- A property depends on the model that its type refers to, or else on the one that its type
hides, and through an array exactly when its type is a list. -/
theorem dependency?_of_fieldType (ok : p.fieldType known context = .ok type) :
    p.dependency? known = (type.referencedModel?.or (p.shadow? known)).map
      fun n => (n, type.element?.isSome) := by
  fun_induction fieldType known context p generalizing type with
  | case1 _ _ _ _ _ _ _ element isArray _ ih =>
    obtain ⟨inner, below, rfl⟩ := map_eq_ok.mp ok
    rw [dependency?, shadow?, if_pos isArray, if_pos isArray, ih below, Option.map_map]
    rfl
  | case2 => cases ok
  | case3 _ _ _ _ _ _ _ _ plain =>
    obtain ⟨same, flat⟩ := plainDependency?_of_plainType ok
    unfold dependency? shadow?
    rw [if_neg plain, if_neg plain, same, flat]
    rfl

/-- What is hidden is a known model that has the name of a primitive type. -/
theorem primitive_of_shadow? (hidden : p.shadow? known = some name) :
    name ∈ known ∧ (FieldType.primitive? name).isSome := by
  fun_induction shadow? known p with
  | case1 _ _ _ _ _ _ _ element _ _ ih => exact ih hidden
  | case2 => cases hidden
  | case3 =>
    rw [plainShadow?] at hidden
    split at hidden
    · cases hidden
    · cases hidden
    · rw [FieldType.shadowOf?] at hidden
      split at hidden
      · rename_i both
        obtain rfl := Option.some.inj hidden
        simpa using both
      · cases hidden
    · cases hidden

theorem shadow?_eq_none (plain : ∀ n ∈ known, FieldType.primitive? n = none) :
    p.shadow? known = none := by
  refine Option.eq_none_iff_forall_ne_some.mpr fun name hidden => ?_
  obtain ⟨declared, primitive⟩ := primitive_of_shadow? hidden
  rw [plain name declared] at primitive
  cases primitive

theorem plainDependency?_of_refused (failed : p.plainType known context = .error e) :
    p.plainDependency? known = none ∧ e.IsTyping context := by
  revert failed
  rw [plainType, plainDependency?]
  cases p.reference with
  | some reference =>
    intro failed
    have unresolved := map_eq_error.mp failed
    obtain rfl := error_of_resolveReference unresolved
    refine ⟨Option.eq_none_iff_forall_ne_some.mpr fun name found => ?_, .reference reference⟩
    rw [resolveReference_eq_ok_iff.mpr found] at unresolved
    cases unresolved
  | none =>
    cases p.values with
    | some values =>
      intro failed
      cases failed
    | none =>
      cases p.format.orElse fun _ => p.type with
      | some token =>
        intro failed
        obtain ⟨rfl, unknown⟩ := FieldType.error_of_ofToken failed
        exact ⟨if_neg unknown, .token token⟩
      | none =>
        intro failed
        obtain rfl := Except.error.inj failed
        exact ⟨rfl, .token noToken⟩

/-- A property without a type depends on no model, and what is reported is where it stands. -/
theorem dependency?_of_refused (failed : p.fieldType known context = .error e) :
    p.dependency? known = none ∧ e.IsTyping context := by
  fun_induction fieldType known context p with
  | case1 _ _ _ _ _ _ _ element isArray _ ih =>
    obtain ⟨none, typing⟩ := ih (map_eq_error.mp failed)
    rw [dependency?, if_pos isArray, none, Option.map_none]
    exact ⟨rfl, typing⟩
  | case2 _ _ _ _ _ _ _ isArray =>
    obtain rfl := Except.error.inj failed
    rw [dependency?, if_pos isArray]
    exact ⟨rfl, .token _⟩
  | case3 _ _ _ _ _ _ _ _ plain =>
    obtain ⟨none, typing⟩ := plainDependency?_of_refused failed
    unfold dependency?
    rw [if_neg plain, none, Option.map_none]
    exact ⟨rfl, typing⟩

end Property

end Types

/-! ### Declared models -/

/-- A declared model refers to its parent and to the models that the compiled types of its
properties name, through any depth of lists. A list of itself is no reference. -/
def References (definitions : List (String × Definition)) (m n : String) : Prop :=
  ∃ d, (m, d) ∈ definitions ∧
    (d.parentName = some n ∨ ∃ p ∈ d.properties, ∃ type,
      p.2.fieldType (definitions.map Prod.fst) (m ++ "." ++ p.1) = .ok type ∧
        type.referencedModel? = some n ∧ ¬ (type.element?.isSome ∧ n = m))

/-- A declared model has a property whose compiled type names no model, but hides one. A list
that hides the model itself does not count. -/
def Shadows (definitions : List (String × Definition)) (m n : String) : Prop :=
  ∃ d, (m, d) ∈ definitions ∧ ∃ p ∈ d.properties, ∃ type,
    p.2.fieldType (definitions.map Prod.fst) (m ++ "." ++ p.1) = .ok type ∧
      type.referencedModel? = none ∧ p.2.shadow? (definitions.map Prod.fst) = some n ∧
        ¬ (type.element?.isSome ∧ n = m)

section Declared

variable {definitions : List (String × Definition)} {m n name : String} {d : Definition}
  {api : String} {s : ModelSet} {known stuck : List String} {e : ContractError}

/-- Each dependency shows in a compiled type or a parent, unless a primitive type hides it. -/
theorem dependsOn_iff :
    DependsOn definitions m n ↔ References definitions m n ∨ Shadows definitions m n := by
  constructor
  · rintro ⟨d, member, parent | ⟨p, property, throughArray, needed, other⟩⟩
    · exact .inl ⟨d, member, .inl parent⟩
    · cases typed : p.2.fieldType (definitions.map Prod.fst) (m ++ "." ++ p.1) with
      | error e =>
        rw [(Property.dependency?_of_refused typed).1] at needed
        cases needed
      | ok type =>
        rw [Property.dependency?_of_fieldType typed] at needed
        obtain ⟨_, found, same⟩ := Option.map_eq_some_iff.mp needed
        obtain ⟨rfl, rfl⟩ := Prod.mk.inj same
        rcases Option.or_eq_some_iff.mp found with named | ⟨none, hidden⟩
        · exact .inl ⟨d, member, .inr ⟨p, property, type, typed, named, other⟩⟩
        · exact .inr ⟨d, member, p, property, type, typed, none, hidden, other⟩
  · rintro (⟨d, member, parent | ⟨p, property, type, typed, named, other⟩⟩ |
      ⟨d, member, p, property, type, typed, none, hidden, other⟩)
    · exact ⟨d, member, .inl parent⟩
    · refine ⟨d, member, .inr ⟨p, property, type.element?.isSome, ?_, other⟩⟩
      rw [Property.dependency?_of_fieldType typed, named]
      rfl
    · refine ⟨d, member, .inr ⟨p, property, type.element?.isSome, ?_, other⟩⟩
      rw [Property.dependency?_of_fieldType typed, none, hidden]
      rfl

/-- When no declared model has the name of a primitive type, none is hidden. -/
theorem not_shadows (plain : ∀ n ∈ definitions.map Prod.fst, FieldType.primitive? n = none) :
    ¬ Shadows definitions m n := by
  rintro ⟨_, _, _, _, _, _, _, hidden, _⟩
  rw [Property.shadow?_eq_none plain] at hidden
  cases hidden

theorem LeadsIntoCycle.mono {r s : String → String → Prop} (weaker : ∀ m n, r m n → s m n)
    (leads : LeadsIntoCycle r m) : LeadsIntoCycle s m := by
  obtain ⟨k, path, cycle⟩ := leads
  exact ⟨k, ReflTransGen.mono weaker _ _ path, TransGen.mono weaker _ _ cycle⟩

/-! ### What is reported of a document -/

/-- When the dependencies are known, all parents are declared. -/
theorem parents_of_dependencies {graph : List (String × List String)}
    (ok : dependencies definitions = .ok graph) :
    ∀ p ∈ definitions, ∀ parent ∈ p.2.parentName, parent ∈ definitions.map Prod.fst := by
  intro p member parent named
  obtain ⟨_, _, listed⟩ := exists_of_mapM ok member
  obtain ⟨_, here, _⟩ := bind_eq_ok.mp listed
  rw [Definition.dependencies, Option.mem_def.mp named] at here
  by_contra undeclared
  dsimp only at here
  rw [if_neg (by simpa using undeclared)] at here
  cases here

/-- The dependencies are known unless a parent is not declared. -/
theorem error_of_dependencies (failed : dependencies definitions = .error e) :
    ∃ child parent, e = .invalidParent child parent := by
  obtain ⟨⟨name, d⟩, _, refused⟩ := exists_of_mapM_error failed
  rcases bind_eq_error.mp refused with here | ⟨_, _, ended⟩
  · rw [Definition.dependencies] at here
    split at here
    · cases here
    · split at here
      · cases here
      · exact ⟨_, _, (Except.error.inj here).symm⟩
  · cases ended

/-- Models that are reported as cyclic lead into a cycle of dependencies. -/
theorem leadsIntoCycle_of_orderModels (distinct : (definitions.map Prod.fst).Nodup)
    (failed : orderModels definitions = .error (.cyclicDependency stuck)) :
    stuck ≠ [] ∧ ∀ m ∈ stuck, LeadsIntoCycle (DependsOn definitions) m := by
  rcases bind_eq_error.mp failed with refused | ⟨graph, needs, _⟩
  · obtain ⟨_, _, same⟩ := error_of_dependencies refused
    cases same
  · rcases orderModels_cases distinct (parents_of_dependencies needs) with
      ⟨_, placed, _⟩ | ⟨reported, here, some, _, exact⟩
    · rw [failed] at placed
      cases placed
    · rw [failed] at here
      cases here
      exact ⟨some, fun m member => ((exact m).mp member).2⟩

/-- The set with the model of a name, if the document declares it. -/
def compileNext (definitions : List (String × Definition)) (s : ModelSet) (name : String) :
    Except ContractError ModelSet :=
  match Members.lookup name definitions with
  | none => .ok s
  | some d => do return s.insert (← d.model name (definitions.map Prod.fst) s)

theorem compileModels_eq (api : String) (definitions : List (String × Definition)) :
    compileModels api definitions =
      orderModels definitions >>= fun order => order.foldlM (compileNext definitions) { api } :=
  rfl

/-- A model is refused for want of its parent or for the type of a property. -/
theorem Definition.error_of_model (failed : d.model name known s = .error e) :
    (∃ parent, d.parentName = some parent ∧ s.get? parent = none ∧ e = .invalidParent name parent) ∨
      ∃ context, e.IsTyping context := by
  rcases bind_eq_error.mp failed with base | ⟨_, _, fields⟩
  · rw [Definition.base] at base
    split at base
    · cases base
    · rename_i parent named
      split at base
      · cases base
      · rename_i missing
        exact .inl ⟨parent, named, missing, (Except.error.inj base).symm⟩
  · obtain ⟨m, p, _, step⟩ := exists_of_foldlM_error fields
    rcases bind_eq_error.mp step with field | ⟨_, _, ended⟩
    · rcases bind_eq_error.mp field with type | ⟨_, _, ended⟩
      · exact .inr ⟨_, (Property.dependency?_of_refused type).2⟩
      · cases ended
    · cases ended

/-- No document is reported as cyclic once its models are in order. -/
theorem orderModels_of_compileModels
    (failed : compileModels api definitions = .error (.cyclicDependency stuck)) :
    orderModels definitions = .error (.cyclicDependency stuck) := by
  rw [compileModels_eq] at failed
  rcases bind_eq_error.mp failed with here | ⟨order, _, later⟩
  · exact here
  · obtain ⟨s, name, _, step⟩ := exists_of_foldlM_error later
    rw [compileNext] at step
    split at step
    · cases step
    · rcases bind_eq_error.mp step with refused | ⟨_, _, ended⟩
      · rcases Definition.error_of_model refused with ⟨_, _, _, same⟩ | ⟨_, typing⟩
        · cases same
        · cases typing
      · cases ended

/-- Whatever models are declared, a property that has a type depends on the model that its type
names, through an array exactly when the type is a list, or else on the model that its type
hides, if there is one. So it depends exactly on what its type names when no declared model has
the name of a primitive type. A document with these models is refused as cyclic only when models
lead into a cycle of references, and of hidden models where there are any. -/
theorem dependencies_agree (known : List String) :
    (∀ (context : String) (p : Property) (type : FieldType),
      p.fieldType known context = .ok type →
        p.dependency? known = (type.referencedModel?.or (p.shadow? known)).map
            (fun n => (n, type.element?.isSome)) ∧
          ((∀ n ∈ known, FieldType.primitive? n = none) →
            p.dependency? known = type.referencedModel?.map
              fun n => (n, type.element?.isSome))) ∧
      ∀ (api : String) (definitions : List (String × Definition)) (stuck : List String),
        definitions.map Prod.fst = known → known.Nodup →
        compileModels api definitions = .error (.cyclicDependency stuck) →
          stuck ≠ [] ∧
          (∀ m ∈ stuck,
            LeadsIntoCycle (fun m n => References definitions m n ∨ Shadows definitions m n) m) ∧
          ((∀ n ∈ known, FieldType.primitive? n = none) →
            ∀ m ∈ stuck, LeadsIntoCycle (References definitions) m) := by
  constructor
  · intro context p type typed
    have needed := Property.dependency?_of_fieldType typed
    refine ⟨needed, fun plain => ?_⟩
    rw [needed, Property.shadow?_eq_none plain, Option.or_none]
  · rintro api definitions stuck rfl distinct refused
    obtain ⟨some, leads⟩ :=
      leadsIntoCycle_of_orderModels distinct (orderModels_of_compileModels refused)
    refine ⟨some, fun m member => ?_, fun plain m member => ?_⟩
    · exact (leads m member).mono fun _ _ => dependsOn_iff.mp
    · exact (leads m member).mono fun _ _ depends =>
        (dependsOn_iff.mp depends).resolve_right (not_shadows plain)

end Declared

/-! ### Hens and eggs -/

/-- The eggs that a hen has laid. -/
def eggs : Property :=
  .mk (some "array") none none none
    (some (.mk none none (some "#/definitions/Egg") none none false false none)) true false none

/-- Hens have their eggs, and each egg has its hen. -/
def henhouse : List (String × Definition) :=
  [("Hen", { properties := [("eggs", eggs)] }),
    ("Egg", { properties := [("hen",
      .mk none none (some "#/definitions/Hen") none none true false none)] })]

/-- Hens depend on eggs through a list. The document is refused, and its types form a cycle. -/
theorem dependencies_agree_henhouse :
    eggs.fieldType ["Hen", "Egg"] "Hen.eggs" = .ok (.list (.model "Egg")) ∧
      eggs.dependency? ["Hen", "Egg"] = some ("Egg", true) ∧
      (henhouse.map Prod.fst).Nodup ∧
      compileModels "farm" henhouse = .error (.cyclicDependency ["Hen", "Egg"]) ∧
      (∀ n ∈ henhouse.map Prod.fst, FieldType.primitive? n = none) ∧
      LeadsIntoCycle (References henhouse) "Hen" := by
  have typed : eggs.fieldType ["Hen", "Egg"] "Hen.eggs" = .ok (.list (.model "Egg")) := rfl
  have distinct : (henhouse.map Prod.fst).Nodup := by decide
  have needs : dependencies henhouse = .ok [("Hen", ["Egg"]), ("Egg", ["Hen"])] := rfl
  have refused : compileModels "farm" henhouse = .error (.cyclicDependency ["Hen", "Egg"]) := by
    rw [compileModels, orderModels, needs]
    simp [bind, Except.bind, placeAll, placeReady]
  have plain : ∀ n ∈ henhouse.map Prod.fst, FieldType.primitive? n = none := by decide
  obtain ⟨types, documents⟩ := dependencies_agree ["Hen", "Egg"]
  obtain ⟨_, _, cyclic⟩ := documents "farm" henhouse _ rfl distinct refused
  exact ⟨typed, (types _ _ _ typed).2 plain, distinct, refused, plain,
    cyclic plain "Hen" List.mem_cons_self⟩

/-! ### A model called string -/

/-- A property of the primitive type `string`. -/
def plainText : Property :=
  .mk (some "string") none none none none false false none

/-- A model that has the name of a primitive type, and a property of that type. -/
def stringModel : List (String × Definition) :=
  [("string", { properties := [("text", plainText)] })]

/-- The property has a primitive type, and yet depends on the model. The document is refused as
cyclic, though no model refers to any. -/
theorem dependencies_shadowed :
    plainText.fieldType ["string"] "string.text" = .ok .string ∧
      FieldType.string.referencedModel? = none ∧
      plainText.dependency? ["string"] = some ("string", false) ∧
      compileModels "api" stringModel = .error (.cyclicDependency ["string"]) ∧
      ∀ m n, ¬ References stringModel m n := by
  have needs : dependencies stringModel = .ok [("string", ["string"])] := rfl
  refine ⟨rfl, rfl, rfl, ?_, ?_⟩
  · rw [compileModels, orderModels, needs]
    simp [bind, Except.bind, placeAll, placeReady]
  · rintro m n ⟨d, declared, why⟩
    obtain ⟨rfl, rfl⟩ := Prod.mk.inj (List.mem_singleton.mp declared)
    rcases why with parent | ⟨p, property, type, typed, named, _⟩
    · cases parent
    · obtain rfl := List.mem_singleton.mp property
      obtain rfl := Except.ok.inj typed
      cases named

end ApiContract
