import ApiContract.Proofs.Registry

/-!
# Sequences of registrations

Sets are registered one after another into an empty registry. All of them are accepted exactly
when no two are of one API and any two declare the models that they share alike. Both
conditions are about pairs of sets, so the order of the registrations does not matter for
that; it decides which declaration of a shared model is found later.

When some sets are refused, those that are accepted still form such a registry, and the others
have no part in it.

## Main definitions

* `Model.declaration?`, `Model.SameFields` — what a model declares under a name, and models
  that declare the same
* `ModelSet.SharesWith` — two sets that declare alike what both declare
* `Registry.afterAll`, `Registry.accepted` — the registry after some registrations, and the sets
  that were not refused

## Main results

* `Registry.exists_register_iff` — one registration, by the registered sets
* `Registry.exists_foldlM_register_iff` — all of them
* `Registry.sets_afterAll`, `Registry.consistent_afterAll` — a registry that some sets were
  refused by
* `Registry.registration_law` — when all are accepted, and what is found afterwards
-/

namespace ApiContract

/-! ### Structures -/

namespace Model

variable {m n : Model}

/-- The type and the presence that a model declares under a name; of several declarations of
one name the last counts. -/
def declaration? (m : Model) (name : String) : Option (FieldType × Presence) :=
  (m.fields.reverse.find? fun f => f.name == name).map fun f => (f.type, f.presence)

/-- Two models have the same fields, of the same types and presences, in any order. -/
def SameFields (m n : Model) : Prop :=
  ∀ name, m.declaration? name = n.declaration? name

theorem SameFields.symm (same : m.SameFields n) : n.SameFields m :=
  fun name => (same name).symm

theorem lookup_shape_eq_declaration? (m : Model) (name : String) :
    Members.lookup name m.shape = m.declaration? name := by
  rw [shape, Members.lookup_ofList_reverse, ← List.map_reverse, declaration?]
  induction m.fields.reverse with
  | nil => rfl
  | cons f rest ih =>
    rw [List.map_cons, Members.lookup_cons, List.find?_cons]
    by_cases here : f.name = name
    · simp [here]
    · simp only [if_neg here, beq_eq_false_iff_ne.mpr here, ih]

/-- Models are compared by their fields. -/
theorem shape_eq_iff : m.shape = n.shape ↔ m.SameFields n := by
  constructor
  · intro same name
    rw [← lookup_shape_eq_declaration?, same, lookup_shape_eq_declaration?]
  · intro same
    refine Members.Sorted.ext (Members.sorted_ofList _) (Members.sorted_ofList _) fun name => ?_
    have here := lookup_shape_eq_declaration? m name
    have there := lookup_shape_eq_declaration? n name
    exact here.trans ((same name).trans there.symm)

end Model

/-- Two sets declare alike what both of them declare. -/
def ModelSet.SharesWith (s t : ModelSet) : Prop :=
  ∀ name m n, s.get? name = some m → t.get? name = some n → m.SameFields n

theorem ModelSet.sharesWith_iff {s t : ModelSet} : s.SharesWith t ↔ s.AgreesWith t :=
  forall₅_congr fun _ _ _ _ _ => Model.shape_eq_iff.symm

namespace Registry

variable {r r' : Registry} {s t : ModelSet} {sets : List ModelSet} {name api : String}

/-! ### When registrations succeed -/

/-- A set is accepted exactly when its API is new and it agrees with all registered sets. -/
theorem exists_register_iff (consistent : r.Consistent) (distinct : s.names.Nodup) :
    (∃ r', r.register s = .ok r') ↔
      s.api ∉ r.sets.map ModelSet.api ∧ ∀ t ∈ r.sets, t.AgreesWith s := by
  simp only [register_eq_ok_iff, contains_eq_false_iff]
  constructor
  · rintro ⟨_, fresh, alike, _⟩
    refine ⟨fresh, fun t member name m n here there => ?_⟩
    obtain ⟨original, first, same⟩ := consistent.first t member name m here
    obtain ⟨declared, rfl⟩ := ModelSet.get?_eq_some there
    exact same.symm.trans (alike n declared original first)
  · rintro ⟨fresh, agree⟩
    refine ⟨_, fresh, fun m member original found => ?_, rfl⟩
    -- What is found is the declaration of a registered set.
    rw [consistent.linked.lookup_eq] at found
    obtain ⟨t, registered, here⟩ := List.exists_of_findSome?_eq_some found
    exact agree t registered m.name original m here (ModelSet.get?_of_mem distinct member)

/-- Further sets are all accepted exactly when, together with the registered ones, no two are
of one API and any two agree. -/
theorem exists_foldlM_register_iff (consistent : r.Consistent)
    (distinct : ∀ s ∈ sets, s.names.Nodup) :
    (∃ r', sets.foldlM register r = .ok r') ↔
      ((r.sets ++ sets).map ModelSet.api).Nodup ∧
        (r.sets ++ sets).Pairwise ModelSet.AgreesWith := by
  -- On the sets that are left; each that is accepted is registered for those after it.
  induction sets generalizing r with
  | nil =>
    have agree : r.sets.Pairwise ModelSet.AgreesWith :=
      List.pairwise_of_forall_mem_list fun s left t right => consistent.agree left right
    rw [List.append_nil]
    exact ⟨fun _ => ⟨consistent.linked.distinct, agree⟩, fun _ => ⟨r, rfl⟩⟩
  | cons s rest ih =>
    have here := exists_register_iff consistent (distinct s List.mem_cons_self)
    have later : ∀ s ∈ rest, s.names.Nodup :=
      fun t member => distinct t (List.mem_cons_of_mem _ member)
    rw [List.foldlM_cons]
    cases registered : r.register s with
    | ok next =>
      obtain ⟨_, _, same⟩ := register_eq_ok_iff.mp registered
      have onward := ih (consistent.register registered) later
      rw [same] at onward
      rw [List.append_cons]
      exact Iff.trans (by rw [same]; rfl) onward
    | error e =>
      refine ⟨fun ⟨_, failed⟩ => (nomatch failed), fun ⟨apis, agree⟩ => ?_⟩
      -- The conditions on all sets are enough for this one, which was refused.
      rw [List.map_append, List.map_cons] at apis
      have fresh : s.api ∉ r.sets.map ModelSet.api := fun taken =>
        (List.nodup_append.mp apis).2.2 _ taken _ List.mem_cons_self rfl
      have shared : ∀ t ∈ r.sets, t.AgreesWith s := fun t member =>
        (List.pairwise_append.mp agree).2.2 t member s List.mem_cons_self
      obtain ⟨_, accepted⟩ := here.mpr ⟨fresh, shared⟩
      rw [registered] at accepted
      cases accepted

/-! ### Registries that have refused sets -/

/-- The registry after sets were registered one after another, whether that has succeeded or
not. -/
def afterAll (sets : List ModelSet) : Registry :=
  sets.foldl (fun r s => ((add s).on r).2) empty

/-- The sets that a registry does not refuse when they are registered one after another. -/
def accepted (r : Registry) : List ModelSet → List ModelSet
  | [] => []
  | s :: rest =>
    match (add s).on r with
    | (.ok _, next) => s :: accepted next rest
    | (.error _, next) => accepted next rest

/-- A set that is refused changes nothing. -/
theorem add_on_of_error {e : RegistryError} (refused : r.register s = .error e) :
    (add s).on r = (.error e, r) := by
  rw [register, Change.result, add_on] at refused
  rw [add_on]
  by_cases taken : r.contains s.api
  · rw [if_pos taken] at refused ⊢
    rw [Except.error.inj refused]
  · rw [if_neg taken] at refused ⊢
    cases conflict : s.models.findSome? fun m => r.conflict? m s.api with
    | some found =>
      rw [conflict] at refused
      rw [Except.error.inj refused]
    | none =>
      rw [conflict] at refused
      cases refused

private theorem foldl_spec (consistent : r.Consistent) (sets : List ModelSet) :
    (sets.foldl (fun r s => ((add s).on r).2) r).sets = r.sets ++ accepted r sets ∧
      (sets.foldl (fun r s => ((add s).on r).2) r).Consistent := by
  induction sets generalizing r with
  | nil => exact ⟨(List.append_nil _).symm, consistent⟩
  | cons s rest ih =>
    rw [List.foldl_cons, accepted]
    cases registered : r.register s with
    | error e =>
      rw [add_on_of_error registered]
      exact ih consistent
    | ok next =>
      rw [Change.result_eq_ok_iff.mp registered]
      obtain ⟨same, onward⟩ := ih (consistent.register registered)
      obtain ⟨_, _, rfl⟩ := register_eq_ok_iff.mp registered
      exact ⟨by rw [same, List.append_assoc]; rfl, onward⟩

/-- The registered sets are those that were accepted. -/
theorem sets_afterAll (sets : List ModelSet) : (afterAll sets).sets = accepted empty sets :=
  (foldl_spec .empty sets).1

/-- Whatever is refused, the registry stays consistent. -/
theorem consistent_afterAll (sets : List ModelSet) : (afterAll sets).Consistent :=
  (foldl_spec .empty sets).2

/-- Sets are all accepted, in whatever order they come, exactly when no two are of one API and
any two declare alike what both declare. A set that is refused leaves the registry as it is.
After any registrations the registered APIs are those of the accepted sets, any two of them
declare alike what both declare, and a model is found as the first accepted set has it that
declares it, if there is one. -/
theorem registration_law (sets : List ModelSet) (distinct : ∀ s ∈ sets, s.names.Nodup) :
    ((∃ r, sets.foldlM register empty = .ok r) ↔
        (sets.map ModelSet.api).Nodup ∧ sets.Pairwise ModelSet.SharesWith) ∧
      (∀ others : List ModelSet, others.Perm sets → ((∃ r, others.foldlM register empty = .ok r) ↔
        ∃ r, sets.foldlM register empty = .ok r)) ∧
      (∀ s e, (afterAll sets).register s = .error e →
        afterAll (sets ++ [s]) = afterAll sets) ∧
      (∀ api s, (afterAll sets).get? api = some s ↔ s ∈ accepted empty sets ∧ s.api = api) ∧
      (∀ a b s t, (afterAll sets).get? a = some s → (afterAll sets).get? b = some t →
        s.SharesWith t) ∧
      ∀ name, (afterAll sets).lookup name = (accepted empty sets).findSome? fun s =>
        s.get? name := by
  have consistent := consistent_afterAll sets
  have agreement : ∀ {s t : ModelSet}, s.SharesWith t ↔ s.AgreesWith t := ModelSet.sharesWith_iff
  have all : ∀ sets : List ModelSet, (∀ s ∈ sets, s.names.Nodup) →
      ((∃ r, sets.foldlM register empty = .ok r) ↔
        (sets.map ModelSet.api).Nodup ∧ sets.Pairwise ModelSet.AgreesWith) :=
    fun sets distinct => exists_foldlM_register_iff .empty distinct
  refine ⟨?_, ?_, ?_, ?_, ?_, ?_⟩
  · rw [all sets distinct]
    exact and_congr_right' (List.Pairwise.iff fun _ _ => agreement.symm)
  · intro others perm
    rw [all sets distinct, all others fun s member => distinct s (perm.mem_iff.mp member),
      (perm.map ModelSet.api).nodup_iff, perm.pairwise_iff ModelSet.AgreesWith.symm]
  · intro s e refused
    rw [afterAll, List.foldl_append, List.foldl_cons, List.foldl_nil]
    show ((add s).on (afterAll sets)).2 = _
    rw [add_on_of_error refused]
  · intro api s
    rw [consistent.linked.get?_eq_some_iff, sets_afterAll]
  · intro a b s t left right
    exact agreement.mpr (consistent.agree (mem_of_get? left) (mem_of_get? right))
  · intro name
    rw [consistent.linked.lookup_eq, sets_afterAll]

/-! ### Three APIs that declare items -/

/-- The set of an API that declares items with the given fields, and further models. -/
def itemModels (api : String) (fields : List Field) (more : List Model) : ModelSet :=
  ⟨api, { name := "Item", api, fields } :: more⟩

/-- The models of an API in which the name of an item comes first. -/
def shop : ModelSet :=
  itemModels "shop" [⟨"name", .string, .mandatory, none, false⟩,
    ⟨"price", .number, .optional, none, false⟩] []

/-- The models of an API in which the price of an item comes first. -/
def depot : ModelSet :=
  itemModels "depot" [⟨"price", .number, .optional, none, false⟩,
    ⟨"name", .string, .mandatory, none, false⟩]
    [{ name := "Shelf", api := "depot", fields := [⟨"items", .list (.model "Item"), .optional,
      none, false⟩] }]

/-- The models of an API in which an item has no price. -/
def kiosk : ModelSet :=
  itemModels "kiosk" [⟨"name", .string, .mandatory, none, false⟩] []

/-- A set that is refused leaves room for a later one, which shares its model with the first. -/
theorem registration_law_items :
    (∀ s ∈ [shop, kiosk, depot], s.names.Nodup) ∧
      (¬ ∃ r, [shop, kiosk, depot].foldlM register empty = .ok r) ∧
      (afterAll [shop]).register kiosk =
        .error (.conflict "Item" "shop" "kiosk" "- price: number (optional)") ∧
      afterAll [shop, kiosk] = afterAll [shop] ∧
      (afterAll [shop, kiosk, depot]).get? "depot" = some depot ∧
      (afterAll [shop, kiosk, depot]).lookup "Item" = shop.get? "Item" ∧
      (afterAll [shop, kiosk, depot]).lookup "Shelf" = depot.get? "Shelf" ∧
      shop.SharesWith depot := by
  have distinct : ∀ s ∈ [shop, kiosk, depot], s.names.Nodup := by decide
  have kept : accepted empty [shop, kiosk, depot] = [shop, depot] := by rfl
  have refused : (afterAll [shop]).register kiosk =
      .error (.conflict "Item" "shop" "kiosk" "- price: number (optional)") := by rfl
  obtain ⟨all, _, _, present, shared, found⟩ := registration_law [shop, kiosk, depot] distinct
  obtain ⟨_, _, unchanged, _⟩ := registration_law [shop] (by decide)
  have first := (present "shop" shop).mpr ⟨by rw [kept]; exact List.mem_cons_self, rfl⟩
  have second := (present "depot" depot).mpr
    ⟨by rw [kept]; exact List.mem_cons_of_mem _ List.mem_cons_self, rfl⟩
  refine ⟨distinct, fun accepted => ?_, refused, unchanged kiosk _ refused, second, ?_, ?_,
    shared "shop" "depot" shop depot first second⟩
  · -- The item of the second set lacks the price.
    have alike := (List.pairwise_cons.mp (all.mp accepted).2).1 kiosk List.mem_cons_self
    have price := alike "Item" _ _ rfl rfl "price"
    exact absurd price (by decide)
  · rw [found, kept]
    rfl
  · rw [found, kept]
    rfl

end Registry

end ApiContract
