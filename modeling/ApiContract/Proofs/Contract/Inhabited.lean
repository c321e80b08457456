import ApiContract.Proofs.Contract.Inheritance

/-!
# Bodies of compiled models

Each model of a compiled document has a body. A field that is no list names a model that comes
before its own, so a body can be put together from the bodies of the models before, and a list
may be empty, be it of the model itself. Only a field without any allowed value would have
nothing to hold.

## Main definitions

* `ModelSet.Inhabits` — a JSON value is one of a type, whatever the policy

## Main results

* `compileModels_types` — what holds of the types of all properties holds of those of all fields
* `compileModels_before` — the model that a field names without a list comes before
* `compileModels_inhabited` — every compiled model has a body that is decoded
-/

namespace ApiContract

/-- A JSON value is not `null` and one of a type, whether undeclared members are tolerated or
not. -/
structure ModelSet.Inhabits (s : ModelSet) (type : FieldType) (json : Json) : Prop where
  wellFormed : json.WellFormed
  notNull : json ≠ .null
  admits : ∀ policy, s.Admits policy type json

/-! ### Values of types -/

section Values

variable {s : ModelSet} {type : FieldType} {m : Model}

/-- A type has a value when it is no list of values without any, and when its model has a body,
if it is one. -/
theorem FieldType.exists_inhabits (valued : type ≠ .oneOf [])
    (body : ∀ name, type = .model name → ∃ json, s.Inhabits type json) :
    ∃ json, s.Inhabits type json := by
  cases type with
  | bool => exact ⟨.bool false, .bool false, nofun, fun _ => .bool false⟩
  | integer => exact ⟨.int 0, .int 0 (by decide), nofun, fun _ => .integer 0 (by decide)⟩
  | number => exact ⟨.int 0, .int 0 (by decide), nofun, fun _ => .whole 0⟩
  | string => exact ⟨.str "", .str "", nofun, fun _ => .string ""⟩
  | bytes => exact ⟨.str "", .str "", nofun, fun _ => .bytes ""⟩
  | timestamp =>
    obtain ⟨t, reads⟩ : ∃ t, Instant.read? "2000-01-01" = some t := ⟨_, rfl⟩
    exact ⟨.str "2000-01-01", .str _, nofun, fun _ => .timestamp _ t reads⟩
  | oneOf allowed =>
    obtain ⟨text, member⟩ := List.exists_mem_of_ne_nil allowed fun none => valued (none ▸ rfl)
    exact ⟨.str text, .str text, nofun, fun _ => .oneOf allowed text member⟩
  | list element =>
    exact ⟨.arr [], .arr [] (List.forall_mem_nil _), nofun, fun _ =>
      .list element [] (List.forall_mem_nil _) (List.forall_mem_nil _)⟩
  | model name => exact body name rfl

/-- A model has a body when each of its fields has a value: the body with all of these. -/
theorem Model.exists_inhabits (found : s.get? m.name = some m) (distinct : m.fieldNames.Nodup)
    (each : ∀ f ∈ m.fields, ∃ json, s.Inhabits f.type json) :
    ∃ members, s.Inhabits (.model m.name) (.obj members) := by
  choose! value inhabits using each
  let pairs := m.fields.map fun f => (f.name, value f)
  have keys : Members.keys pairs = m.fieldNames := by
    rw [Members.keys, List.map_map]
    rfl
  have lookup : ∀ key, Members.lookup key (Members.ofList pairs) = Members.lookup key pairs :=
    Members.lookup_ofList (keys ▸ distinct)
  have held : ∀ key json, Members.lookup key (Members.ofList pairs) = some json →
      ∃ f ∈ m.fields, f.name = key ∧ value f = json := by
    intro key json here
    rw [lookup] at here
    obtain ⟨f, member, same⟩ := List.mem_map.mp (Members.mem_of_lookup here)
    exact ⟨f, member, congrArg Prod.fst same, congrArg Prod.snd same⟩
  have given : ∀ f ∈ m.fields, Members.lookup f.name (Members.ofList pairs) = some (value f) :=
    fun f member => (lookup f.name).trans
      (Members.lookup_of_mem (keys ▸ distinct) (List.mem_map.mpr ⟨f, member, rfl⟩))
  have sorted := Members.sorted_ofList pairs
  refine ⟨Members.ofList pairs, .obj _ sorted ?_, by simp, fun policy =>
    .model m.name m _ found ?_ ?_ ?_⟩
  · rintro ⟨key, json⟩ member
    obtain ⟨f, declared, _, rfl⟩ := held key json (Members.lookup_of_mem sorted.nodup_keys member)
    exact (inhabits f declared).wellFormed
  · intro _ key member
    obtain ⟨json, here⟩ := Option.isSome_iff_exists.mp (Members.isSome_lookup_iff.mpr member)
    obtain ⟨f, declared, rfl, _⟩ := held key json here
    exact List.mem_map_of_mem declared
  · exact fun f member _ => ⟨value f, given f member, (inhabits f member).notNull⟩
  · intro f member json here _
    obtain rfl := Option.some.inj ((given f member).symm.trans here)
    exact (inhabits f member).admits policy

end Values

/-! ### Types of properties -/

section Properties

variable {known : List String} {context token : String} {type : FieldType}

private theorem ofToken_ne_oneOf (ok : FieldType.ofToken token known context = .ok type) :
    type ≠ .oneOf [] := by
  rw [FieldType.ofToken] at ok
  split at ok
  · rename_i primitive found
    obtain rfl := Except.ok.inj ok
    unfold FieldType.primitive? at found
    split at found <;> cases found <;> simp
  · split at ok <;> cases ok
    simp

/-- A property whose list of values is not empty is not of the type without values. -/
theorem Property.fieldType_ne_oneOf {p : Property} (listed : p.values ≠ some [])
    (ok : p.fieldType known context = .ok type) : type ≠ .oneOf [] := by
  fun_induction fieldType known context p generalizing type with
  | case1 =>
    obtain ⟨element, _, rfl⟩ := map_eq_ok.mp ok
    simp
  | case2 => cases ok
  | case3 =>
    rw [plainType] at ok
    split at ok
    · obtain ⟨model, _, rfl⟩ := map_eq_ok.mp ok
      simp
    · rename_i values _ none some
      obtain rfl := Except.ok.inj ok
      intro empty
      rw [List.map_eq_nil_iff.mp (FieldType.oneOf.inj empty)] at some
      exact listed some
    · exact ofToken_ne_oneOf ok
    · cases ok

end Properties

/-! ### Compiled models -/

section Compiled

variable {api : String} {definitions : List (String × Definition)} {s : ModelSet}

/-- What holds of the types of all properties of a document holds of the types of all fields of
its models, inherited ones included. -/
theorem compileModels_types (holds : FieldType → Prop)
    (each : ∀ p ∈ definitions, ∀ q ∈ p.2.properties, ∀ context type,
      q.2.fieldType (definitions.map Prod.fst) context = .ok type → holds type)
    (distinct : (definitions.map Prod.fst).Nodup)
    (compiled : compileModels api definitions = .ok s) :
    ∀ m ∈ s.models, ∀ f ∈ m.fields, holds f.type := by
  refine ModelSet.models_induction (fun m => ∀ f ∈ m.fields, holds f.type) ?_
  intro before m after split earlier
  obtain ⟨d, found, made⟩ := compileModels_inOrder distinct compiled before m after split
  refine d.model_induction (fun m => ∀ f ∈ m.fields, holds f.type) made ?_ ?_
  · intro base first f member
    rcases Definition.base_cases first with ⟨_, rfl⟩ | ⟨n, _, found, rfl⟩
    · cases member
    · rw [Model.fields_extend_empty] at member
      obtain ⟨g, inherited, rfl⟩ := List.mem_map.mp member
      exact earlier n (ModelSet.get?_eq_some found).1 g inherited
  · intro above p property f _ typed rest g member
    rcases Model.mem_putField member with rfl | other
    · exact each _ (Members.mem_of_lookup found) p property _ _ typed
    · exact rest g other

/-- A field of a compiled model that holds another model holds one that comes before. -/
theorem compileModels_before (distinct : (definitions.map Prod.fst).Nodup)
    (compiled : compileModels api definitions = .ok s) {before after : List Model} {m : Model}
    (split : s.models = before ++ m :: after) {f : Field} (member : f ∈ m.fields) {name : String}
    (typed : f.type = .model name) : ∃ n ∈ before, n.name = name := by
  obtain ⟨order, ordered, _⟩ := bind_eq_ok.mp compiled
  have compiledAll := (compileModels_run distinct ordered).1 s compiled
  have topological := (topological_of_orderModels distinct ordered).2
  have here : order = before.map Model.name ++ m.name :: after.map Model.name := by
    rw [← compiledAll.names, ModelSet.names, split, List.map_append, List.map_cons]
  have follows := compiledAll.follows m (split ▸ List.mem_append_right _ List.mem_cons_self)
  rcases follows.refers f member name (by rw [typed]; rfl) with depends | ⟨_, list⟩
  · exact List.mem_map.mp (topological.mem_of_transGen here depends)
  · rw [typed] at list
    cases list

/-- Every model of a document that compiles has a body, when no property lists its values and
lists none: some object is decoded as the model, even if undeclared members are rejected. -/
theorem compileModels_inhabited (distinct : (definitions.map Prod.fst).Nodup)
    (listed : ∀ p ∈ definitions, ∀ q ∈ p.2.properties, q.2.values ≠ some [])
    (compiled : compileModels api definitions = .ok s) {name : String} (declared : name ∈ s.names) :
    ∃ members, Json.WellFormed (.obj members) ∧
      ∀ c : Codec, ∃ i, s.decode c name (.obj members) = .ok i := by
  have closed := (compileModels_closed compiled).1
  have once : s.names.Nodup := (names_of_compileModels distinct compiled).nodup_iff.mpr distinct
  have valued : ∀ m ∈ s.models, ∀ f ∈ m.fields, f.type ≠ .oneOf [] :=
    compileModels_types (· ≠ .oneOf [])
      (fun p member q property _ _ => Property.fieldType_ne_oneOf (listed p member q property))
      distinct compiled
  -- A field that is no list holds a model that comes before, which has a body already.
  have bodies : ∀ m ∈ s.models, ∃ members, s.Inhabits (.model m.name) (.obj members) := by
    refine ModelSet.models_induction _ fun before m after split earlier => ?_
    have member : m ∈ s.models := split ▸ List.mem_append_right _ List.mem_cons_self
    refine m.exists_inhabits (ModelSet.get?_of_mem once member) (closed m member).distinct
      fun f field => FieldType.exists_inhabits (valued m member f field) fun name typed => ?_
    obtain ⟨n, above, rfl⟩ := compileModels_before distinct compiled split field typed
    obtain ⟨members, inhabits⟩ := earlier n above
    exact ⟨.obj members, typed ▸ inhabits⟩
  obtain ⟨m, member, rfl⟩ := List.mem_map.mp declared
  obtain ⟨members, inhabits⟩ := bodies m member
  refine ⟨members, inhabits.wellFormed, fun c => ?_⟩
  obtain ⟨v, read⟩ : ∃ v, s.readValue c .strict (.obj members) (.model m.name) "$" = .ok v :=
    (ModelSet.exists_readValue_iff closed).mpr (inhabits.admits c.unknownFields)
  obtain ⟨_, _, i, _, _, _, rfl⟩ := ModelSet.readValue_model_eq_ok_iff.mp read
  exact ⟨i, ModelSet.decode_eq_ok_iff.mpr read⟩

end Compiled

/-! ### An orchard -/

/-- Trees have shoots that are trees, a kind and the plot that they stand on; old trees are
trees. -/
def orchardDefinitions : List (String × Definition) :=
  [("OldTree", { parent := some "Tree" }),
    ("Tree", { properties :=
      [("kind", .mk none none none (some [.string "apple", .string "pear"]) none true false none),
        ("planted", .mk (some "date") none none none none true false none),
        ("plot", .mk none none (some "#/definitions/Plot") none none true false none),
        ("shoots", .mk (some "array") none none none
          (some (.mk none none (some "#/definitions/Tree") none none false false none))
          true false none)] }),
    ("Plot", { properties := [("area", .mk (some "number") none none none none true false none)] })]

/-- The model of trees. -/
def fruitTree : Model where
  name := "Tree"
  api := "orchard"
  fields := [⟨"kind", .oneOf ["apple", "pear"], .mandatory, none, false⟩,
    ⟨"planted", .timestamp, .mandatory, none, false⟩,
    ⟨"plot", .model "Plot", .mandatory, none, false⟩,
    ⟨"shoots", .list (.model "Tree"), .mandatory, none, false⟩]

/-- The models of the orchard. -/
def orchard : ModelSet where
  api := "orchard"
  models := [{ name := "Plot", api := "orchard",
               fields := [⟨"area", .number, .mandatory, none, false⟩] },
    fruitTree, (Model.empty "OldTree" "orchard").extend fruitTree]

/-- Some body is decoded as an old tree, whose shoots must be given and are trees. -/
theorem compileModels_inhabited_oldTree :
    (orchardDefinitions.map Prod.fst).Nodup ∧
      (∀ p ∈ orchardDefinitions, ∀ q ∈ p.2.properties, q.2.values ≠ some []) ∧
      compileModels "orchard" orchardDefinitions = .ok orchard ∧ "OldTree" ∈ orchard.names ∧
      ∃ members, Json.WellFormed (.obj members) ∧
        ∀ c : Codec, ∃ i, orchard.decode c "OldTree" (.obj members) = .ok i := by
  have distinct : (orchardDefinitions.map Prod.fst).Nodup := by decide
  have listed : ∀ p ∈ orchardDefinitions, ∀ q ∈ p.2.properties, q.2.values ≠ some [] := by
    simp [orchardDefinitions, or_imp, forall_and, Property.values]
  have needs : dependencies orchardDefinitions =
      .ok [("OldTree", ["Tree"]), ("Tree", ["Plot"]), ("Plot", [])] := rfl
  have order : orderModels orchardDefinitions = .ok ["Plot", "Tree", "OldTree"] := by
    rw [orderModels, needs]
    simp [bind, Except.bind, placeAll, placeReady]
  have compiled : compileModels "orchard" orchardDefinitions = .ok orchard := by
    rw [compileModels, order]
    rfl
  have declared : "OldTree" ∈ orchard.names := by decide
  exact ⟨distinct, listed, compiled, declared,
    compileModels_inhabited distinct listed compiled declared⟩

end ApiContract
