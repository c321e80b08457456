import ApiContract.Model.Stored
import ApiContract.Proofs.Json.Text

/-!
# Reading back stored models

What is stored of a model is JSON without numbers, and it is the model again when it is read.
Only lists of lists make it nest deeper.

## Main definitions

* `FieldType.depth` — how deep a stored type nests

## Main results

* `FieldType.ofJsonAt?_toJson`, `Field.ofJson?_toJson`, `Model.ofJson?_toJson` — what is stored
  is read back
* `FieldType.depth_toJson`, `Model.depth_toJson_le_iff` — how deep a stored model nests
-/

namespace ApiContract

/-! ### Parts -/

/-- Items that are read back one by one are read back as a list. -/
theorem Json.items?_map {α : Type} {read : Json → Option α} {write : α → Json} {items : List α}
    (each : ∀ a ∈ items, read (write a) = some a) :
    items? read (.arr (items.map write)) = some items := by
  rw [items?]
  induction items with
  | nil => rfl
  | cons a rest ih =>
    rw [List.map_cons, List.mapM_cons, each a List.mem_cons_self,
      ih fun b member => each b (List.mem_cons_of_mem _ member)]
    rfl

theorem Json.textual_arr_map {α : Type} {write : α → Json} {items : List α}
    (each : ∀ a ∈ items, (write a).Textual) : (arr (items.map write)).Textual := by
  refine .arr _ fun item member => ?_
  obtain ⟨a, listed, rfl⟩ := List.mem_map.mp member
  exact each a listed

theorem Json.depth_arr_map_le_iff {α : Type} {write : α → Json} {items : List α} {n : Nat} :
    (arr (items.map write)).depth ≤ n + 1 ↔ ∀ a ∈ items, (write a).depth ≤ n := by
  rw [depth_arr_le_iff, List.forall_mem_map]

/-! ### Types -/

namespace FieldType

/-- How many arrays and objects enclose one another in a stored type. -/
def depth : FieldType → Nat
  | list element => element.depth + 1
  | oneOf _ => 2
  | _ => 1

theorem depth_toJson (type : FieldType) : type.toJson.depth = type.depth := by
  induction type with
  | list element ih =>
    rw [toJson, depth, ← ih]
    simp [holding, Json.depth, Json.depthOfMembers]
  | oneOf allowed =>
    have flat : Json.depthOfItems (allowed.map .str) = 0 :=
      Nat.le_zero.mp (Json.depthOfItems_le_iff.mpr (by simp [Json.depth]))
    simp [toJson, holding, Json.ofTexts, Json.depth, Json.depthOfMembers, depth, flat]
  | _ => rfl

theorem textual_toJson (type : FieldType) : type.toJson.Textual := by
  have bare (kind : String) : (bare kind).Textual :=
    .obj _ (List.forall_mem_singleton.mpr (.str kind))
  have holding (kind : String) {content : Json} (textual : content.Textual) :
      (holding kind content).Textual :=
    .obj _ (List.forall_mem_cons.mpr ⟨.str kind, List.forall_mem_singleton.mpr textual⟩)
  induction type with
  | list element ih => exact holding _ ih
  | oneOf allowed => exact holding _ (Json.textual_arr_map fun text _ => .str text)
  | model name => exact holding _ (.str name)
  | _ => exact bare _

/-- A stored type is read back to the depth that it has. -/
theorem ofJsonAt?_toJson {type : FieldType} {n : Nat} (shallow : type.depth ≤ n) :
    ofJsonAt? n type.toJson = some type := by
  induction type generalizing n with
  | list element ih =>
    cases n with
    | zero => cases shallow
    | succ n =>
      show Option.map list (ofJsonAt? n element.toJson) = _
      rw [ih (Nat.le_of_succ_le_succ shallow)]
      rfl
  | oneOf allowed =>
    cases n with
    | zero => cases shallow
    | succ n =>
      have texts : Json.items? Json.asStr? (.arr (allowed.map .str)) = some allowed :=
        Json.items?_map fun _ _ => rfl
      show Option.map oneOf (Json.items? Json.asStr? (.arr (allowed.map .str))) = _
      rw [texts]
      rfl
  | _ =>
    cases n with
    | zero => cases shallow
    | succ n => rfl

end FieldType

/-! ### Fields and models -/

theorem Presence.ofJson?_describe (p : Presence) : ofJson? (.str p.describe) = some p := by
  cases p <;> rfl

/-- A stored field is read back. -/
theorem Field.ofJson?_toJson {f : Field} (type : FieldType.ofJson? f.type.toJson = some f.type) :
    ofJson? f.toJson = some f := by
  obtain ⟨name, ty, presence, description, inherited⟩ := f
  dsimp only at type
  cases description
  all_goals
    show Option.bind (FieldType.ofJson? ty.toJson) _ = _
    rw [type]
    show Option.bind (Presence.ofJson? (.str presence.describe)) _ = _
    rw [Presence.ofJson?_describe]
    rfl

theorem Field.textual_toJson (f : Field) : f.toJson.Textual := by
  refine .obj _ ?_
  cases f.description <;>
    simp [FieldType.textual_toJson, Json.Textual.str, Json.Textual.bool]

theorem Field.depth_toJson_le_iff {f : Field} {n : Nat} :
    f.toJson.depth ≤ n + 1 ↔ f.type.depth ≤ n := by
  rw [toJson, Json.depth_obj_le_iff]
  cases f.description <;> simp [FieldType.depth_toJson, Json.depth]

/-- A stored model is read back. -/
theorem Model.ofJson?_toJson {m : Model}
    (types : ∀ f ∈ m.fields, FieldType.ofJson? f.type.toJson = some f.type) :
    ofJson? m.toJson = some m := by
  obtain ⟨name, api, parent, fields⟩ := m
  have read : Json.items? Field.ofJson? (.arr (fields.map Field.toJson)) = some fields :=
    Json.items?_map fun f member => Field.ofJson?_toJson (types f member)
  cases parent
  all_goals
    show Option.bind (Json.items? Field.ofJson? (.arr (fields.map Field.toJson))) _ = _
    rw [read]
    rfl

theorem Model.textual_toJson (m : Model) : m.toJson.Textual := by
  have fields : (Json.arr (m.fields.map Field.toJson)).Textual :=
    Json.textual_arr_map fun f _ => f.textual_toJson
  refine .obj _ ?_
  cases m.parent <;> simp [fields, Json.Textual.str]

theorem Model.depth_toJson_le_iff {m : Model} {n : Nat} :
    m.toJson.depth ≤ n + 3 ↔ ∀ f ∈ m.fields, f.type.depth ≤ n := by
  have fields : (Json.arr (m.fields.map Field.toJson)).depth ≤ n + 2 ↔
      ∀ f ∈ m.fields, f.type.depth ≤ n := by
    rw [Json.depth_arr_map_le_iff]
    exact forall₂_congr fun f _ => Field.depth_toJson_le_iff
  have text (s : String) : (Json.str s).depth ≤ n + 2 := Nat.zero_le _
  rw [toJson, Json.depth_obj_le_iff]
  cases m.parent <;> simp [fields, text]

end ApiContract
