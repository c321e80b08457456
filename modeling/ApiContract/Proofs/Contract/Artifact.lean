import ApiContract.Proofs.Contract.Closure
import ApiContract.Proofs.Contract.Compile
import ApiContract.Proofs.Model.Stored
import ApiContract.Proofs.Stamps
import ApiContract.Proofs.Time.Stored

/-!
# Reading back artifacts

An artifact that is written holds the models that it was made of, in their order. It can be read
back as long as its text nests no deeper than a text may, and only lists of lists can make it
nest deeper.

## Main definitions

* `ModelSet.Storable` — a set whose artifact can be read back

## Main results

* `Artifact.read_of_file?` — what is read from a file with the text of an artifact
* `Artifact.toModels_ofModels` — the models of an artifact are those it was made of
* `compileModels_names_nodup` — no two models of a compiled set share a name
* `Artifact.toModels_of_written` — compiled models are read back from what is written of them
-/

namespace ApiContract

/-! ### The models of an artifact -/

namespace ModelSet

/-- A model that takes the place of another leaves the names as they are. -/
theorem names_insert_of_mem {s : ModelSet} {m : Model} (taken : m.name ∈ s.names) :
    (s.insert m).names = s.names := by
  suffices put : ∀ models : List Model, m.name ∈ models.map Model.name →
      (putModel m models).map Model.name = models.map Model.name from put s.models taken
  intro models
  induction models with
  | nil => exact fun taken => nomatch taken
  | cons n rest ih =>
    intro taken
    rw [putModel]
    split
    · rename_i same
      rw [List.map_cons, List.map_cons, same]
    · rename_i differ
      rcases List.mem_cons.mp taken with same | later
      · exact absurd same.symm differ
      · rw [List.map_cons, List.map_cons, ih later]

theorem nodup_names_insert {s : ModelSet} (distinct : s.names.Nodup) (m : Model) :
    (s.insert m).names.Nodup := by
  by_cases taken : m.name ∈ s.names
  · rw [names_insert_of_mem taken]
    exact distinct
  · rw [names_insert taken]
    exact List.nodup_append.mpr ⟨distinct, List.nodup_singleton _, by
      rintro name there _ last rfl
      exact taken (List.mem_singleton.mp last ▸ there)⟩

/-- Models with names of their own are added one after the other. -/
theorem models_foldl_insert (s : ModelSet) {models : List Model}
    (distinct : (s.names ++ models.map Model.name).Nodup) :
    (models.foldl insert s).models = s.models ++ models := by
  induction models generalizing s with
  | nil => simp
  | cons m rest ih =>
    have fresh : m.name ∉ s.names := fun taken =>
      (List.nodup_append.mp distinct).2.2 _ taken _ List.mem_cons_self rfl
    have others : ((s.insert m).names ++ rest.map Model.name).Nodup := by
      rw [names_insert fresh, List.append_assoc]
      exact distinct
    rw [List.foldl_cons, ih _ others, models_insert fresh, List.append_assoc]
    rfl

end ModelSet

/-- No two models of a compiled set share a name. -/
theorem compileModels_names_nodup {api : String} {definitions : List (String × Definition)}
    {set : ModelSet} (compiled : compileModels api definitions = .ok set) : set.names.Nodup := by
  rw [compileModels_eq] at compiled
  obtain ⟨order, _, compiled⟩ := bind_eq_ok.mp compiled
  refine foldlM_invariant (fun s => s.names.Nodup) ?_ compiled List.nodup_nil
  intro s s' name _ next distinct
  rw [compileNext] at next
  split at next
  · obtain rfl := Except.ok.inj next
    exact distinct
  · obtain ⟨m, _, next⟩ := bind_eq_ok.mp next
    obtain rfl := Except.ok.inj next
    exact ModelSet.nodup_names_insert distinct m

/-- No type of a field is so deep that the artifact of the set, which nests by five more, cannot
be read back. -/
def ModelSet.Storable (s : ModelSet) : Prop :=
  ∀ m ∈ s.models, ∀ f ∈ m.fields, f.type.depth + 5 ≤ Json.maxDepth

namespace Artifact

/-- The models of an artifact are those that it was made of. -/
theorem toModels_ofModels {set : ModelSet} (distinct : set.names.Nodup) (source : Option String)
    (compiledAt : Instant) : (ofModels set source compiledAt).toModels = set := by
  have models := ModelSet.models_foldl_insert { api := set.api } distinct
  have api := ModelSet.api_foldl_insert set.models { api := set.api }
  exact congr_arg₂ ModelSet.mk api models

/-! ### The text of an artifact -/

theorem textual_toJson (a : Artifact) : a.toJson.Textual := by
  have models : (Json.arr (a.models.map Model.toJson)).Textual :=
    Json.textual_arr_map fun m _ => m.textual_toJson
  refine .obj _ ?_
  cases a.source <;> simp [models, Json.Textual.str]

/-- A stored artifact is read back. -/
theorem ofJson?_toJson {a : Artifact} (inRange : a.compiledAt.date.InRange)
    (types : ∀ m ∈ a.models, ∀ f ∈ m.fields, FieldType.ofJson? f.type.toJson = some f.type) :
    ofJson? a.toJson = some a := by
  obtain ⟨api, source, compiledAt, models⟩ := a
  have time := Instant.readStored?_formatExact inRange
  rw [toJson]
  dsimp only at time ⊢
  generalize TimePattern.formatExact compiledAt = text at time ⊢
  have read : Json.items? Model.ofJson? (.arr (models.map Model.toJson)) = some models :=
    Json.items?_map fun m member => Model.ofJson?_toJson (types m member)
  cases source
  all_goals
    show Option.bind (Instant.readStored? text) _ = _
    rw [time]
    show Option.bind (Json.items? Model.ofJson? (.arr (models.map Model.toJson))) _ = _
    rw [read]
    rfl

/-- The text of an artifact nests by five more than the types in it. -/
theorem depth_toJson_le_iff {a : Artifact} {n : Nat} :
    a.toJson.depth ≤ n + 5 ↔ ∀ m ∈ a.models, ∀ f ∈ m.fields, f.type.depth ≤ n := by
  have models : (Json.arr (a.models.map Model.toJson)).depth ≤ n + 4 ↔
      ∀ m ∈ a.models, ∀ f ∈ m.fields, f.type.depth ≤ n := by
    rw [Json.depth_arr_map_le_iff]
    exact forall₂_congr fun m _ => Model.depth_toJson_le_iff
  have text (s : String) : (Json.str s).depth ≤ n + 4 := Nat.zero_le _
  rw [toJson, Json.depth_obj_le_iff]
  cases a.source <;> simp [models, text]

theorem exists_file_of_read {a : Artifact} {files : Files} {l : Location}
    (found : read files l = .ok a) : ∃ file, files.file? l = some file := by
  rw [read, Files.read?_eq] at found
  cases here : files.file? l with
  | none =>
    rw [here] at found
    cases found
  | some file => exact ⟨file, rfl⟩

theorem depth_toJson_le_maxDepth_iff {a : Artifact} : a.toJson.depth ≤ Json.maxDepth ↔
    ∀ m ∈ a.models, ∀ f ∈ m.fields, f.type.depth + 5 ≤ Json.maxDepth := by
  rw [show Json.maxDepth = 122 + 5 from rfl, depth_toJson_le_iff]
  simp only [Nat.add_le_add_iff_right]

/-- From the text of an artifact that artifact is read, unless it nests too deep. -/
theorem bind_readAsWritten_pretty {a : Artifact} (inRange : a.compiledAt.date.InRange) :
    (Json.readAsWritten a.toJson.pretty).bind ofJson? =
      if a.toJson.depth ≤ Json.maxDepth then some a else none := by
  rw [Json.readAsWritten_pretty a.textual_toJson]
  split
  · rename_i within
    have types : ∀ m ∈ a.models, ∀ f ∈ m.fields,
        FieldType.ofJson? f.type.toJson = some f.type := by
      intro m member f field
      have bound := depth_toJson_le_maxDepth_iff.mp within m member f field
      have size : Json.maxDepth = 127 := rfl
      exact FieldType.ofJsonAt?_toJson (by omega)
    exact ofJson?_toJson inRange types
  · rfl

/-- From a file with the text of an artifact that artifact is read, unless it nests too deep. -/
theorem read_of_file? {a : Artifact} {files : Files} {l : Location} {written : Int}
    (inRange : a.compiledAt.date.InRange)
    (found : files.file? l = some (a.toJson.pretty, written)) :
    read files l =
      if a.toJson.depth ≤ Json.maxDepth then .ok a else .error (.invalidArtifact l.display) := by
  rw [read, Files.read?_eq, found, Option.map_some]
  dsimp only
  rw [bind_readAsWritten_pretty inRange]
  by_cases within : a.toJson.depth ≤ Json.maxDepth
  · rw [if_pos within, if_pos within]
  · rw [if_neg within, if_neg within]

theorem read_eq_ok_iff {a b : Artifact} {files : Files} {l : Location} {written : Int}
    (inRange : a.compiledAt.date.InRange)
    (found : files.file? l = some (a.toJson.pretty, written)) :
    read files l = .ok b ↔
      b = a ∧ ∀ m ∈ a.models, ∀ f ∈ m.fields, f.type.depth + 5 ≤ Json.maxDepth := by
  rw [read_of_file? inRange found, ← depth_toJson_le_maxDepth_iff]
  split
  · rename_i within
    simp [within, eq_comm]
  · rename_i deep
    simp [deep]

/-! ### The artifact of compiled models -/

/-- What is written of compiled models is read back as the same models in the same order, with
all that they hold, when no type among them nests too deep, and else is not read at all. -/
theorem toModels_of_written {api : String} {definitions : List (String × Definition)}
    {set : ModelSet} (compiled : compileModels api definitions = .ok set)
    (source : Option String) {compiledAt : Instant} (inRange : compiledAt.date.InRange) :
    (set.Storable → ((Json.readAsWritten (ofModels set source compiledAt).toJson.pretty).bind
        ofJson?).map toModels = some set) ∧
    (¬ set.Storable → (Json.readAsWritten (ofModels set source compiledAt).toJson.pretty).bind
        ofJson? = none) ∧
    ∀ files l files', (ofModels set source compiledAt).write files l = .ok files' →
      (set.Storable → (read files' l).map toModels = .ok set) ∧
      (¬ set.Storable → read files' l = .error (.invalidArtifact l.display)) := by
  have models := toModels_ofModels (compileModels_names_nodup compiled) source compiledAt
  have shallow : (ofModels set source compiledAt).toJson.depth ≤ Json.maxDepth ↔ set.Storable :=
    depth_toJson_le_maxDepth_iff
  have text := bind_readAsWritten_pretty (a := ofModels set source compiledAt) inRange
  refine ⟨fun storable => ?_, fun deep => ?_, fun files l files' written => ?_⟩
  · rw [text, if_pos (shallow.mpr storable), Option.map_some, models]
  · rw [text, if_neg (mt shallow.mp deep)]
  · obtain ⟨_, _, _, found⟩ := Files.puts_of_artifact written
    rw [read_of_file? inRange found]
    refine ⟨fun storable => ?_, fun deep => if_neg (mt shallow.mp deep)⟩
    rw [if_pos (shallow.mpr storable)]
    exact congrArg Except.ok models

end Artifact

/-! ### A model that nests deep -/

/-- Lists of lists of texts, so many within one another. -/
def nestedLists : Nat → Property
  | 0 => .mk (some "string") none none none none false false none
  | n + 1 => .mk (some "array") none none none (some (nestedLists n)) false false none

/-- The type of such lists. -/
def nestedListsType : Nat → FieldType
  | 0 => .string
  | n + 1 => .list (nestedListsType n)

/-- The definition of a model with such lists. -/
def deepDefinitions (n : Nat) : List (String × Definition) :=
  [("Deep", { properties := [("lists", nestedLists n)] })]

/-- The model that is compiled of it. -/
def deepModels (n : Nat) : ModelSet where
  api := "deep"
  models := [{ name := "Deep", api := "deep",
               fields := [⟨"lists", nestedListsType n, .optional, none, false⟩] }]

theorem isArray_nestedLists (n : Nat) : (nestedLists (n + 1)).isArray = true := by
  show Text.eqIgnoreCase "array" "array" = true
  decide

theorem fieldType_nestedLists (known : List String) (context : String) (n : Nat) :
    (nestedLists n).fieldType known context = .ok (nestedListsType n) := by
  induction n with
  | zero => rfl
  | succ n ih =>
    have array := isArray_nestedLists n
    rw [nestedLists] at array ⊢
    rw [Property.fieldType, if_pos array, ih]
    rfl

theorem dependency?_nestedLists (n : Nat) : (nestedLists n).dependency? ["Deep"] = none := by
  induction n with
  | zero => decide
  | succ n ih =>
    have array := isArray_nestedLists n
    rw [nestedLists] at array ⊢
    rw [Property.dependency?, if_pos array, ih]
    rfl

theorem depth_nestedListsType (n : Nat) : (nestedListsType n).depth = n + 1 := by
  induction n with
  | zero => rfl
  | succ n ih => rw [nestedListsType, FieldType.depth, ih]

theorem compileModels_deep (n : Nat) :
    compileModels "deep" (deepDefinitions n) = .ok (deepModels n) := by
  have needs : dependencies (deepDefinitions n) = .ok [("Deep", [])] := by
    simp [dependencies, deepDefinitions, Definition.dependencies, Definition.parentName,
      Definition.needs, dependency?_nestedLists]
    rfl
  have order : orderModels (deepDefinitions n) = .ok ["Deep"] := by
    rw [orderModels, needs]
    simp [bind, Except.bind, placeAll, placeReady]
  have field : (nestedLists n).field "Deep" "lists" ["Deep"] =
      .ok ⟨"lists", nestedListsType n, .optional, none, false⟩ := by
    rw [Property.field, fieldType_nestedLists]
    cases n <;> rfl
  have model : ({ properties := [("lists", nestedLists n)] } : Definition).model "Deep" ["Deep"]
      { api := "deep" } = .ok ⟨"Deep", "deep", none,
        [⟨"lists", nestedListsType n, .optional, none, false⟩]⟩ := by
    show ((nestedLists n).field "Deep" "lists" ["Deep"] >>= _) >>= _ = _
    rw [field]
    rfl
  rw [compileModels, order]
  show (Definition.model _ "Deep" ["Deep"] { api := "deep" } >>= _) >>= _ = _
  rw [model]
  rfl

theorem storable_deep_iff (n : Nat) : (deepModels n).Storable ↔ n ≤ 121 := by
  have size : Json.maxDepth = 127 := rfl
  simp only [ModelSet.Storable, deepModels, List.forall_mem_singleton, depth_nestedListsType, size]
  omega

namespace Artifact

/-- The artifact of a model with lists in 122 levels is written, but cannot be read back. -/
theorem not_read_deep :
    compileModels "deep" (deepDefinitions 122) = .ok (deepModels 122) ∧
      ∃ files, (ofModels (deepModels 122) none (Instant.ofUnix 0)).write {} "deep.models.json" =
          .ok files ∧
        read files "deep.models.json" = .error (.invalidArtifact "deep.models.json") := by
  have deep : ¬ (ofModels (deepModels 122) none (Instant.ofUnix 0)).toJson.depth ≤
      Json.maxDepth := by
    rw [depth_toJson_le_maxDepth_iff]
    exact mt (storable_deep_iff 122).mp (by decide)
  obtain ⟨files, written⟩ : ∃ files, (ofModels (deepModels 122) none (Instant.ofUnix 0)).write {}
      "deep.models.json" = .ok files := ⟨_, rfl⟩
  refine ⟨compileModels_deep 122, files, written, ?_⟩
  obtain ⟨_, _, _, found⟩ := Files.puts_of_artifact written
  rw [read_of_file? (Instant.inRange_ofUnix 0) found, if_neg deep]
  rfl

/-- The artifact of a model with lists in 121 levels is read back. -/
theorem toModels_of_written_deep :
    compileModels "deep" (deepDefinitions 121) = .ok (deepModels 121) ∧
      (Instant.ofUnix 0).date.InRange ∧
      ∃ files, (ofModels (deepModels 121) none (Instant.ofUnix 0)).write {} "deep.models.json" =
          .ok files ∧
        (read files "deep.models.json").map toModels = .ok (deepModels 121) := by
  have compiled := compileModels_deep 121
  have inRange := Instant.inRange_ofUnix 0
  have storable := (storable_deep_iff 121).mpr (Nat.le_refl _)
  obtain ⟨files, written⟩ : ∃ files, (ofModels (deepModels 121) none (Instant.ofUnix 0)).write {}
      "deep.models.json" = .ok files := ⟨_, rfl⟩
  have back := (toModels_of_written compiled none inRange).2.2 _ _ _ written
  exact ⟨compiled, inRange, files, written, back.1 storable⟩

end Artifact

end ApiContract
