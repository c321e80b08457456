import ApiContract.Proofs.Model.Agreement
import ApiContract.Proofs.Registration
import ApiContract.Proofs.Text.Split

/-!
# What the difference of two models lists

Two models are compared by the types and presences of their fields, in any order. Their
difference is a text that lists fields line by line, those of the first model in its order and
then what only the second has. It lists a field of either model exactly when the other does not
declare it alike, so that nothing is listed of models that have the same structure.

## Main definitions

* `Model.Line` — a line of a difference
* `Model.differences` — the lines of a difference

## Main results

* `Model.diff_eq_join` — a difference is made of its lines
* `Model.removed_mem_differences_iff`, `Model.added_mem_differences_iff` — which fields are listed
* `Model.nodup_differences` — no line is repeated
* `Registry.diff_of_conflict` — the difference that a refusal shows
* `Model.diff_eq_empty_iff` — when a difference is empty, and what it lists
-/

namespace ApiContract

namespace Model

variable {m n : Model} {f g : Field}

/-- A line of a difference: a field as the first or as the second model declares it. -/
inductive Line where
  | removed (field : Field)
  | added (field : Field)
  deriving DecidableEq, Repr

namespace Line

/-- The field on a line. -/
def field : Line → Field
  | removed f => f
  | added f => f

/-- A line as it is written. -/
def text : Line → String
  | removed f => "- " ++ f.shape
  | added f => "+ " ++ f.shape

theorem text_ne_empty (line : Line) : line.text ≠ "" := by
  cases line <;> simp [text]

/-- A line has the line breaks of its field only. -/
theorem plain_text {line : Line} (plain : '\n' ∉ line.field.shape.toList) :
    '\n' ∉ line.text.toList := by
  cases line <;> simpa [text, field] using plain

end Line

/-! ### Lines -/

/-- The lines for a field of the first model: none when the second declares it alike. -/
def changes (n : Model) (f : Field) : List Line :=
  match n.field? f.name with
  | some g => if g.type = f.type ∧ g.presence = f.presence then [] else [.removed f, .added g]
  | none => [.removed f]

/-- The line for a field of the second model that the first lacks. -/
def additions (m : Model) (f : Field) : List Line :=
  if (m.field? f.name).isSome then [] else [.added f]

/-- The lines of a difference. -/
def differences (m n : Model) : List Line :=
  m.fields.flatMap (changes n) ++ n.fields.flatMap (additions m)

theorem diffLines_eq (n : Model) (f : Field) : diffLines n f = (changes n f).map Line.text := by
  rw [diffLines, changes]
  cases n.field? f.name with
  | none => rfl
  | some g =>
    dsimp only
    split <;> rfl

theorem addedLines_eq (m : Model) (f : Field) :
    addedLines m f = (additions m f).map Line.text := by
  rw [addedLines, additions]
  split <;> rfl

/-- A difference is made of its lines. -/
theorem diff_eq_join (m n : Model) :
    m.diff n = Text.join "\n" ((m.differences n).map Line.text) := by
  rw [diff, differences, List.map_append, List.map_flatMap, List.map_flatMap,
    funext (diffLines_eq n), funext (addedLines_eq m)]

/-! ### Fields on lines -/

/-- Of fields that all have different names the one of a name is declared under it. -/
theorem declaration?_eq (distinct : m.fieldNames.Nodup) (name : String) :
    m.declaration? name = (m.field? name).map fun f => (f.type, f.presence) := by
  cases found : m.field? name with
  | none =>
    have absent : ∀ f ∈ m.fields, ¬(f.name == name) = true := by
      simpa [field?] using found
    rw [declaration?, List.find?_eq_none.mpr fun f listed => absent f (List.mem_reverse.mp listed)]
  | some f =>
    obtain ⟨member, rfl⟩ := field?_eq_some found
    rw [← lookup_shape_eq_declaration?, Option.map_some, lookup_shape distinct]
    exact ⟨f, member, rfl, rfl, rfl⟩

/-- Where a field is met under its name, the model declares the field alike exactly when the one
met has its type and presence. -/
theorem declaration?_ne_iff (distinct : n.fieldNames.Nodup) :
    n.declaration? f.name ≠ some (f.type, f.presence) ↔
      ∀ g, n.field? f.name = some g → ¬(g.type = f.type ∧ g.presence = f.presence) := by
  rw [declaration?_eq distinct]
  cases n.field? f.name <;> simp

theorem name_of_mem_changes {line : Line} (listed : line ∈ changes n f) :
    line.field.name = f.name := by
  rw [changes] at listed
  cases found : n.field? f.name with
  | none =>
    rw [found] at listed
    rw [List.mem_singleton.mp listed]
    rfl
  | some g =>
    rw [found] at listed
    dsimp only at listed
    split at listed
    · cases listed
    · simp only [List.mem_cons, List.not_mem_nil, or_false] at listed
      rcases listed with rfl | rfl
      · rfl
      · exact (field?_eq_some found).2

theorem removed_mem_changes_iff (distinct : n.fieldNames.Nodup) :
    .removed g ∈ changes n f ↔ g = f ∧ n.declaration? f.name ≠ some (f.type, f.presence) := by
  rw [declaration?_ne_iff distinct, changes]
  cases n.field? f.name with
  | none => simp
  | some h =>
    by_cases alike : h.type = f.type ∧ h.presence = f.presence
    · simp [alike]
    · simpa [alike] using fun _ => not_and.mp alike

/-- The first model's fields are listed that the second does not declare alike. -/
theorem removed_mem_differences_iff (right : n.fieldNames.Nodup) :
    .removed f ∈ m.differences n ↔
      f ∈ m.fields ∧ n.declaration? f.name ≠ some (f.type, f.presence) := by
  rw [differences, List.mem_append, List.mem_flatMap, List.mem_flatMap]
  have unlisted : ∀ h, .removed f ∉ additions m h := fun h listed => by
    rw [additions] at listed
    split at listed <;> simp at listed
  simp only [removed_mem_changes_iff right, unlisted, and_false, exists_false, or_false]
  constructor
  · rintro ⟨_, member, rfl, differs⟩
    exact ⟨member, differs⟩
  · rintro ⟨member, differs⟩
    exact ⟨f, member, rfl, differs⟩

theorem added_mem_changes_iff :
    .added g ∈ changes n f ↔
      n.field? f.name = some g ∧ ¬(g.type = f.type ∧ g.presence = f.presence) := by
  rw [changes]
  cases n.field? f.name with
  | none => simp
  | some h =>
    dsimp only
    by_cases alike : h.type = f.type ∧ h.presence = f.presence
    · rw [if_pos alike]
      simp only [List.not_mem_nil, Option.some.injEq, false_iff, not_and]
      rintro rfl
      exact fun differs => differs alike.1 alike.2
    · rw [if_neg alike]
      simp only [List.mem_cons, reduceCtorEq, Line.added.injEq, List.not_mem_nil, or_false,
        false_or, Option.some.injEq]
      constructor
      · rintro rfl
        exact ⟨rfl, alike⟩
      · rintro ⟨rfl, _⟩
        rfl

/-- The second model's fields are listed that the first does not declare alike. -/
theorem added_mem_differences_iff (left : m.fieldNames.Nodup) (right : n.fieldNames.Nodup) :
    .added g ∈ m.differences n ↔
      g ∈ n.fields ∧ m.declaration? g.name ≠ some (g.type, g.presence) := by
  rw [differences, List.mem_append, List.mem_flatMap, List.mem_flatMap, declaration?_ne_iff left]
  simp only [added_mem_changes_iff]
  constructor
  · rintro (⟨f, member, found, differs⟩ | ⟨h, member, listed⟩)
    · obtain ⟨there, named⟩ := field?_eq_some found
      refine ⟨there, fun other here => ?_⟩
      -- The field of that name is the one whose change is listed.
      rw [named, field?_of_mem left member] at here
      obtain rfl := Option.some.inj here
      exact fun alike => differs ⟨alike.1.symm, alike.2.symm⟩
    · rw [additions] at listed
      split at listed
      · cases listed
      · rename_i absent
        obtain rfl := Line.added.inj (List.mem_singleton.mp listed)
        refine ⟨member, fun other here => ?_⟩
        rw [here] at absent
        exact absurd rfl absent
  · rintro ⟨member, differs⟩
    cases found : m.field? g.name with
    | none =>
      refine .inr ⟨g, member, ?_⟩
      simp [additions, found]
    | some f =>
      obtain ⟨there, named⟩ := field?_eq_some found
      refine .inl ⟨f, there, ?_, fun alike => differs f found ⟨alike.1.symm, alike.2.symm⟩⟩
      rw [named]
      exact field?_of_mem right member

/-- The field on a line is one of the two models. -/
theorem field_mem_of_mem_differences {line : Line} (left : m.fieldNames.Nodup)
    (right : n.fieldNames.Nodup) (listed : line ∈ m.differences n) :
    line.field ∈ m.fields ++ n.fields := by
  cases line with
  | removed f =>
    exact List.mem_append_left _ ((removed_mem_differences_iff right).mp listed).1
  | added g =>
    exact List.mem_append_right _ ((added_mem_differences_iff left right).mp listed).1

/-- No line is repeated. -/
theorem nodup_differences (left : m.fieldNames.Nodup) (right : n.fieldNames.Nodup) :
    (m.differences n).Nodup := by
  refine List.nodup_append'.mpr ⟨List.nodup_flatMap.mpr ⟨fun f _ => ?_, ?_⟩,
    List.nodup_flatMap.mpr ⟨fun f _ => ?_, ?_⟩, ?_⟩
  · rw [changes]
    split
    · split <;> simp
    · simp
  · -- All lines for a field have its name.
    refine (List.pairwise_map.mp left).imp fun {f g} apart line here there => ?_
    exact apart ((name_of_mem_changes here).symm.trans (name_of_mem_changes there))
  · rw [additions]
    split <;> simp
  · refine (List.pairwise_map.mp right).imp fun {f g} apart line here there => ?_
    simp only [additions] at here there
    split at here
    · cases here
    · split at there
      · cases there
      · obtain rfl := List.mem_singleton.mp here
        obtain rfl := Line.added.inj (List.mem_singleton.mp there)
        exact apart rfl
  · -- What is added in the place of a field has a name that the first model knows.
    intro line here there
    obtain ⟨f, member, changed⟩ := List.mem_flatMap.mp here
    obtain ⟨g, _, added⟩ := List.mem_flatMap.mp there
    rw [additions] at added
    split at added
    · cases added
    · rename_i absent
      obtain rfl := List.mem_singleton.mp added
      have named : g.name = f.name := name_of_mem_changes changed
      rw [named, field?_of_mem left member] at absent
      exact absent rfl

/-- Models have the same structure exactly when no line is listed. -/
theorem differences_eq_nil_iff (left : m.fieldNames.Nodup) (right : n.fieldNames.Nodup) :
    m.differences n = [] ↔ m.SameFields n := by
  constructor
  · intro none name
    have unlisted : ∀ line, line ∉ m.differences n := by
      rw [none]
      exact fun _ => List.not_mem_nil
    -- A field that either model declares under the name would be listed if the other did not.
    cases here : m.declaration? name with
    | some d =>
      rw [declaration?_eq left] at here
      obtain ⟨f, found, rfl⟩ := Option.map_eq_some_iff.mp here
      obtain ⟨member, rfl⟩ := field?_eq_some found
      have alike := (removed_mem_differences_iff right).not.mp (unlisted (.removed f))
      exact (not_not.mp fun differs => alike ⟨member, differs⟩).symm
    | none =>
      cases there : n.declaration? name with
      | none => rfl
      | some d =>
        rw [declaration?_eq right] at there
        obtain ⟨g, found, rfl⟩ := Option.map_eq_some_iff.mp there
        obtain ⟨member, rfl⟩ := field?_eq_some found
        have alike := (added_mem_differences_iff left right).not.mp (unlisted (.added g))
        rw [← here]
        exact not_not.mp fun differs => alike ⟨member, differs⟩
  · intro same
    refine List.eq_nil_iff_forall_not_mem.mpr ?_
    rintro (f | g) listed
    · obtain ⟨member, differs⟩ := (removed_mem_differences_iff right).mp listed
      rw [← same f.name, declaration?_eq left, field?_of_mem left member] at differs
      exact differs rfl
    · obtain ⟨member, differs⟩ := (added_mem_differences_iff left right).mp listed
      rw [same g.name, declaration?_eq right, field?_of_mem right member] at differs
      exact differs rfl

/-- Text that has lines is not empty. -/
theorem join_text_eq_empty_iff {lines : List Line} :
    Text.join "\n" (lines.map Line.text) = "" ↔ lines = [] := by
  constructor
  · intro empty
    cases lines with
    | nil => rfl
    | cons line rest =>
      refine absurd ?_ line.text_ne_empty
      cases rest with
      | nil => simpa [Text.join] using empty
      | cons second more => simp [Text.join] at empty
  · rintro rfl
    rfl

end Model

/-- A refusal shows how the first declaration of a model differs from the new one, which does not
have its structure. -/
theorem Registry.diff_of_conflict {r : Registry} {s : ModelSet} {model owner api diff : String}
    (refused : r.register s = .error (.conflict model owner api diff)) :
    ∃ first m, r.lookup model = some first ∧ m ∈ s.models ∧ m.name = model ∧
      first.sameStructure m = false ∧ diff = first.diff m := by
  rw [register, Change.result_eq_error_iff, add_on] at refused
  split at refused
  · cases refused
  · cases conflict : s.models.findSome? fun m => r.conflict? m s.api with
    | none =>
      rw [conflict] at refused
      cases refused
    | some e =>
      rw [conflict] at refused
      obtain rfl := Except.error.inj refused
      obtain ⟨m, member, found⟩ := List.exists_of_findSome?_eq_some conflict
      obtain ⟨first, known, differs⟩ := Option.bind_eq_some_iff.mp found
      split at differs
      · cases differs
      · rename_i other
        obtain ⟨rfl, _, _, rfl⟩ := RegistryError.conflict.inj (Option.some.inj differs)
        exact ⟨first, m, known, member, rfl, Bool.eq_false_iff.mpr other, rfl⟩

/-- What a registry finds is a model of a registered set. -/
theorem Registry.exists_of_lookup {r : Registry} {name : String} {m : Model}
    (found : r.lookup name = some m) : ∃ s ∈ r.sets, m ∈ s.models := by
  obtain ⟨api, _, found⟩ := Option.bind_eq_some_iff.mp found
  obtain ⟨s, registered, found⟩ := Option.bind_eq_some_iff.mp found
  exact ⟨s, List.mem_of_find?_eq_some registered, List.mem_of_find?_eq_some found⟩

namespace Model

variable {m n : Model}

/-- The difference of two models is empty exactly when they have the same structure, in whatever
order their fields are. It is made of lines, none of them twice, and those list the fields of
either model that the other does not declare with the same type and presence. The text is cut into
these lines again at its line breaks, as long as the fields have none. A set that is refused for a
model that is registered otherwise shows the difference of the two, which is not empty. -/
theorem diff_eq_empty_iff (left : m.fieldNames.Nodup) (right : n.fieldNames.Nodup) :
    (m.diff n = "" ↔ m.sameStructure n = true) ∧
      (∃ lines : List Line, m.diff n = Text.join "\n" (lines.map Line.text) ∧ lines.Nodup ∧
        (∀ f, .removed f ∈ lines ↔
          f ∈ m.fields ∧ n.declaration? f.name ≠ some (f.type, f.presence)) ∧
        (∀ g, .added g ∈ lines ↔
          g ∈ n.fields ∧ m.declaration? g.name ≠ some (g.type, g.presence)) ∧
        ((∀ f ∈ m.fields ++ n.fields, '\n' ∉ f.shape.toList) → m.diff n ≠ "" →
          Text.split (m.diff n) '\n' = lines.map Line.text)) ∧
      ∀ (r : Registry) (s : ModelSet) (model owner api diff : String),
        (∀ t ∈ s :: r.sets, ∀ p ∈ t.models, p.fieldNames.Nodup) →
        r.register s = .error (.conflict model owner api diff) →
          diff ≠ "" ∧ ∃ first second, r.lookup model = some first ∧ second ∈ s.models ∧
            second.name = model ∧ diff = first.diff second := by
  have empty : ∀ {p q : Model}, p.fieldNames.Nodup → q.fieldNames.Nodup →
      (p.diff q = "" ↔ p.sameStructure q = true) := fun {p q} here there => by
    rw [diff_eq_join, join_text_eq_empty_iff, differences_eq_nil_iff here there, ← shape_eq_iff,
      sameStructure, beq_iff_eq]
  refine ⟨empty left right, ⟨m.differences n, diff_eq_join m n, nodup_differences left right,
    fun f => removed_mem_differences_iff right, fun g => added_mem_differences_iff left right,
    fun plain some => ?_⟩, fun r s model owner api diff distinct refused => ?_⟩
  · rw [diff_eq_join] at some ⊢
    refine Text.split_join (fun none => some ?_) ?_
    · rw [none]
      rfl
    · intro text listed
      obtain ⟨line, member, rfl⟩ := List.mem_map.mp listed
      exact Line.plain_text (plain _ (field_mem_of_mem_differences left right member))
  · obtain ⟨first, second, known, member, named, differs, rfl⟩ := Registry.diff_of_conflict refused
    refine ⟨fun none => ?_, first, second, known, member, named, rfl⟩
    obtain ⟨t, registered, here⟩ := Registry.exists_of_lookup known
    have before := distinct t (List.mem_cons_of_mem _ registered) first here
    have new := distinct s List.mem_cons_self second member
    rw [(empty before new).mp none] at differs
    cases differs

/-! ### Two kinds of tickets -/

/-- A ticket for a train. -/
def railTicket : Model where
  name := "Ticket"
  api := "rail"
  fields := [⟨"seat", .integer, .mandatory, none, false⟩,
    ⟨"price", .number, .optional, none, false⟩, ⟨"stops", .list .string, .nullable, none, false⟩]

/-- A ticket for a ferry: it has a gate and no stops, and always a price. -/
def ferryTicket : Model where
  name := "Ticket"
  api := "ferry"
  fields := [⟨"gate", .string, .optional, none, false⟩,
    ⟨"price", .number, .mandatory, none, false⟩,
    ⟨"seat", .integer, .mandatory, some "Row and place", false⟩]

/-- The price is on two lines, the seat on none. -/
theorem diff_eq_empty_iff_tickets :
    railTicket.fieldNames.Nodup ∧ ferryTicket.fieldNames.Nodup ∧
      (railTicket.diff ferryTicket ≠ "" ∧ railTicket.sameStructure ferryTicket = false) ∧
      (∀ f ∈ railTicket.fields ++ ferryTicket.fields, '\n' ∉ f.shape.toList) ∧
      (∃ lines : List Line, Text.split (railTicket.diff ferryTicket) '\n' = lines.map Line.text ∧
        .removed ⟨"price", .number, .optional, none, false⟩ ∈ lines ∧
        .added ⟨"price", .number, .mandatory, none, false⟩ ∈ lines ∧
        .removed ⟨"seat", .integer, .mandatory, none, false⟩ ∉ lines) ∧
      (∀ t ∈ [⟨"ferry", [ferryTicket]⟩, (⟨"rail", [railTicket]⟩ : ModelSet)], ∀ p ∈ t.models,
        p.fieldNames.Nodup) ∧
      ∃ diff, ({ sets := [⟨"rail", [railTicket]⟩] } : Registry).register ⟨"ferry", [ferryTicket]⟩ =
        .error (.conflict "Ticket" "rail" "ferry" diff) ∧ diff ≠ "" := by
  have left : railTicket.fieldNames.Nodup := by decide
  have right : ferryTicket.fieldNames.Nodup := by decide
  have other : railTicket.sameStructure ferryTicket = false := by decide
  have plain : ∀ f ∈ railTicket.fields ++ ferryTicket.fields, '\n' ∉ f.shape.toList := by decide
  have distinct : ∀ t ∈ [⟨"ferry", [ferryTicket]⟩, (⟨"rail", [railTicket]⟩ : ModelSet)],
      ∀ p ∈ t.models, p.fieldNames.Nodup := by decide
  obtain ⟨empty, ⟨lines, _, _, removed, added, cut⟩, conflict⟩ := diff_eq_empty_iff left right
  have some : railTicket.diff ferryTicket ≠ "" := fun none => by
    rw [empty.mp none] at other
    cases other
  have refused : ({ sets := [⟨"rail", [railTicket]⟩] } : Registry).register
      ⟨"ferry", [ferryTicket]⟩ =
        .error (.conflict "Ticket" "rail" "ferry" (railTicket.diff ferryTicket)) := by rfl
  exact ⟨left, right, ⟨some, other⟩, plain, ⟨lines, cut plain some,
    (removed _).mpr ⟨by decide, by decide⟩, (added _).mpr ⟨by decide, by decide⟩,
    fun listed => absurd ((removed _).mp listed).2 (by decide)⟩, distinct, _, refused,
    (conflict _ _ _ _ _ _ distinct refused).1⟩

end Model

end ApiContract
