import ApiContract.Proofs.Contract.Inheritance
import ApiContract.Proofs.Model.Conformance

/-!
# Results in place of declared models

An operation may be answered with a descendant of the model that it declares. What a client
gets then has the members of the declared model as long as no definition on the way down
redeclares an inherited property as something else: a redeclared property replaces the
inherited one, with whatever type and presence it has. Members that the declared model does not
have are for the client to tolerate.

## Main definitions

* `Field.Narrows` — a field that takes no more than another
* `ModelSet.Narrows` — a child whose redeclared properties narrow those of its parent

## Main results

* `ModelSet.Narrows.admits` — the bodies of such a child are bodies of its parent
* `Binding.check_conforms` — what an accepted result is written as
-/

namespace ApiContract

open Relation

/-- A field takes no other JSON values than another one does, and is mandatory if that is. -/
structure Field.Narrows (s : ModelSet) (g f : Field) : Prop where
  mandatory : f.presence = .mandatory → g.presence = .mandatory
  type : ∀ json, s.Admits .tolerate g.type json → s.Admits .tolerate f.type json

/-- A model names another as its parent, and each property that its definition declares again
narrows the field that it replaces. -/
structure ModelSet.Narrows (s : ModelSet) (definitions : List (String × Definition))
    (child parent : String) : Prop where
  parentOf : s.ParentOf child parent
  redeclared : ∀ m n d, s.get? child = some m → s.get? parent = some n →
    Members.lookup child definitions = some d →
    ∀ f ∈ n.fields, f.name ∈ d.properties.map Prod.fst →
      ∀ g ∈ m.fields, g.name = f.name → g.Narrows s f

namespace ModelSet

variable {s : ModelSet} {definitions : List (String × Definition)} {child parent : String}
  {json : Json}

/-- Where undeclared members are tolerated, a body of a child that narrows its parent is one of
the parent. -/
theorem Narrows.admits (narrows : s.Narrows definitions child parent)
    (inOrder : s.InOrder definitions) (closed : s.Closed)
    (admits : s.Admits .tolerate (.model child) json) :
    s.Admits .tolerate (.model parent) json := by
  cases admits with
  | model _ m members found _ mandatory each =>
    obtain ⟨m', found', named⟩ := narrows.parentOf
    obtain rfl := Option.some.inj (found.symm.trans found')
    obtain ⟨d, n, declared, above, inherits⟩ := inOrder.inherits found named
    have distinct := (closed m (get?_eq_some found).1).distinct
    -- A field of the parent is there again, or something that takes no more is in its place.
    have field : ∀ f ∈ n.fields, ∃ g ∈ m.fields, g.name = f.name ∧ g.Narrows s f := by
      intro f member
      obtain ⟨g, there, same⟩ := List.mem_map.mp (inherits.names f member)
      refine ⟨g, there, same, ?_⟩
      by_cases own : f.name ∈ d.properties.map Prod.fst
      · exact narrows.redeclared m n d found above declared f member own g there same
      · have kept := inherits.kept f member own
        obtain rfl := List.inj_on_of_nodup_map distinct there kept same
        exact ⟨id, fun _ => id⟩
    refine .model parent n members above nofun (fun f member needed => ?_) ?_
    · obtain ⟨g, there, same, narrows⟩ := field f member
      rw [← same]
      exact mandatory g there (narrows.mandatory needed)
    · intro f member json held notNull
      obtain ⟨g, there, same, narrows⟩ := field f member
      exact narrows.type json (each g there json (same ▸ held) notNull)

end ModelSet

namespace Binding

variable {definitions : List (String × Definition)} {api : String} {s : ModelSet} {b : Binding}
  {i : Instance}

theorem check_eq_ok {v : Verified} (accepted : b.check s (.instance i) = .ok v) :
    b.Declares s i.model.name ∧ i.validate = .ok () := by
  rw [check] at accepted
  split at accepted
  · rename_i declared
    cases valid : i.validate with
    | ok => exact ⟨declares_of_accepts declared, rfl⟩
    | error e =>
      rw [valid] at accepted
      cases accepted
  · cases accepted

/-- An instance that is accepted as the result of an operation is of a model that the operation
declares, or of a descendant of one. It is written as a body of each declared model from which
its own descends by narrowing alone; undeclared members are tolerated. -/
theorem check_conforms (distinct : (definitions.map Prod.fst).Nodup)
    (compiled : compileModels api definitions = .ok s) (reached : s.Reaches i)
    (writable : (Value.ofInstance i).Writable) {v : Verified}
    (accepted : b.check s (.instance i) = .ok v) :
    (∃ result ∈ b.results, ReflTransGen s.ParentOf i.model.name result) ∧
      ∀ result ∈ b.results, ReflTransGen (s.Narrows definitions) i.model.name result →
        ∃ j, s.decode { unknownFields := .tolerate } result (i.toJson .default) = .ok j := by
  obtain ⟨declares, valid⟩ := check_eq_ok accepted
  refine ⟨declares, fun result declared line => ?_⟩
  clear declared
  have closed := (compileModels_closed compiled).1
  have inOrder := compileModels_inOrder distinct compiled
  have wellTyped := reached.wellTyped fun m member => (closed m member).distinct
  have own : s.Admits .tolerate (.model i.model.name) (i.toJson .default) :=
    Value.admits_encode closed wellTyped (ModelSet.owns_of_reaches closed reached) writable valid
      (beq_self_eq_true _)
  -- From parent to parent what is written remains a body.
  have above : s.Admits .tolerate (.model result) (i.toJson .default) := by
    induction line with
    | refl => exact own
    | tail _ step ih => exact step.admits inOrder closed ih
  have values : (∃ v, s.readValue { unknownFields := .tolerate } .strict (i.toJson .default)
      (.model result) "$" = .ok v) ↔ s.Admits .tolerate (.model result) (i.toJson .default) :=
    ModelSet.exists_readValue_iff closed
  obtain ⟨v, read⟩ := values.mpr above
  obtain ⟨_, _, j, _, _, _, rfl⟩ := ModelSet.readValue_model_eq_ok_iff.mp read
  exact ⟨j, ModelSet.decode_eq_ok_iff.mpr read⟩

end Binding

/-! ### Horses, whose age is declared again -/

/-- Animals have a number as their age. Horses are animals, whose age has a type of its own. -/
def stableDefinitions (age : String) : List (String × Definition) := [
  ("Animal", { properties := [
    ("age", .mk (some "number") none none none none true false none)] }),
  ("Horse", { parent := some "Animal", properties := [
    ("age", .mk (some age) none none none none true false none)] })]

/-- Animals. -/
def animal : Model :=
  { name := "Animal", api := "stable", fields := [⟨"age", .number, .mandatory, none, false⟩] }

/-- Horses, whose age is of a type. -/
def horse (age : FieldType) : Model :=
  { name := "Horse", api := "stable", parent := some "Animal",
    fields := [⟨"age", age, .mandatory, none, false⟩] }

/-- The models of the stable. -/
def stable (age : FieldType) : ModelSet := ⟨"stable", [animal, horse age]⟩

/-- The contract of the stable, with an operation that gives an animal. -/
def stableDocument (age : String) : Document :=
  { format := .string "2.0"
    definitions := stableDefinitions age
    paths := [("/animal", [("GET", {
      operationId := some "get_animal", responses := [("200", some "#/definitions/Animal")] })])] }

/-- A handler of the operation. -/
def giveNothing : Handler := fun _ => { ending := .answered .nothing }

/-- The binding of the operation. -/
def getAnimal : Binding where
  api := "stable"
  method := "GET"
  route := "/animal"
  params := []
  bodyModel := none
  handlerName := "get_animal"
  handler := giveNothing
  decoratorName := none
  decorator := none
  results := ["Animal"]
  produces := "application/json"

theorem compileEndpoints_stable (age : String) :
    compileEndpoints "stable" (stableDocument age)
      (HandlerTable.empty.withHandler "get_animal" giveNothing) .require = .ok [getAnimal] :=
  rfl

theorem compileModels_stable {age : String} {type : FieldType}
    (primitive : FieldType.primitive? age = some type) :
    compileModels "stable" (stableDefinitions age) = .ok (stable type) := by
  -- The type is a literal, one of those with a primitive type.
  unfold FieldType.primitive? at primitive
  have needs : dependencies (stableDefinitions age) =
      .ok [("Animal", []), ("Horse", ["Animal"])] := by
    split at primitive <;> cases primitive <;> rfl
  have order : orderModels (stableDefinitions age) = .ok ["Animal", "Horse"] := by
    rw [orderModels, needs]
    simp [bind, Except.bind, placeAll, placeReady]
  rw [compileModels, order]
  split at primitive <;> cases primitive <;> rfl

/-- A horse of an age. -/
def horseOf (type : FieldType) (age : Value) : Instance := ⟨horse type, [("age", age)]⟩

theorem writable_horse {type : FieldType} {age : Value} (writable : age.Writable) :
    (Value.ofInstance (horseOf type age)).Writable := by
  refine .model _ _ fun p member => ?_
  obtain rfl := List.mem_singleton.mp member
  exact writable

/-- Whole numbers of years are numbers of years. -/
theorem narrows_horse :
    (stable .integer).Narrows (stableDefinitions "integer") "Horse" "Animal" where
  parentOf := ⟨horse .integer, rfl, rfl⟩
  redeclared m n d foundHorse foundAnimal _ f inAnimal _ g inHorse _ := by
    obtain rfl : horse .integer = m := Option.some.inj foundHorse
    obtain rfl : animal = n := Option.some.inj foundAnimal
    obtain rfl := List.mem_singleton.mp inHorse
    obtain rfl := List.mem_singleton.mp inAnimal
    refine ⟨fun _ => rfl, fun json admits => ?_⟩
    cases admits with
    | integer n _ => exact .whole n

/-- A horse of seven years is an animal of seven years. -/
theorem Binding.check_conforms_horse :
    (∃ v, getAnimal.check (stable .integer) (.instance (horseOf .integer (.integer 7))) = .ok v) ∧
      ∃ j, (stable .integer).decode { unknownFields := .tolerate } "Animal"
        ((horseOf .integer (.integer 7)).toJson .default) = .ok j := by
  have compiled : compileModels "stable" (stableDefinitions "integer") = .ok (stable .integer) :=
    compileModels_stable rfl
  have reached : (stable .integer).Reaches (horseOf .integer (.integer 7)) :=
    .decoded .default "Horse" (.obj [("age", .int 7)]) _ rfl
  have writable : (Value.ofInstance (horseOf .integer (.integer 7))).Writable :=
    writable_horse (.atom _ rfl nofun nofun)
  have accepted : getAnimal.check (stable .integer)
      (.instance (horseOf .integer (.integer 7))) = .ok _ := rfl
  obtain ⟨_, conforms⟩ :=
    Binding.check_conforms (by decide) compiled reached writable accepted
  exact ⟨⟨_, accepted⟩, conforms "Animal" (List.mem_singleton_self _) (.single narrows_horse)⟩

/-- A horse whose age is a text may be given for an animal, but what it is written as is no body
of an animal. -/
theorem Binding.check_redeclared :
    compileModels "stable" (stableDocument "string").definitions = .ok (stable .string) ∧
      compileEndpoints "stable" (stableDocument "string")
        (HandlerTable.empty.withHandler "get_animal" giveNothing) .require = .ok [getAnimal] ∧
      ∃ i, (stable .string).decode .default "Horse" (.obj [("age", .str "old")]) = .ok i ∧
        (Value.ofInstance i).Writable ∧
        (∃ v, getAnimal.check (stable .string) (.instance i) = .ok v) ∧
        ∀ result ∈ getAnimal.results, ∀ j,
          (stable .string).decode { unknownFields := .tolerate } result (i.toJson .default) ≠
            .ok j := by
  refine ⟨compileModels_stable rfl, compileEndpoints_stable "string",
    horseOf .string (.string "old"), rfl, writable_horse (.atom _ rfl nofun nofun), ⟨_, rfl⟩, ?_⟩
  intro result declared j read
  obtain rfl := List.mem_singleton.mp declared
  cases read

end ApiContract
