import ApiContract.Proofs.Contract.Models
import ApiContract.Registry

/-!
# The registry over all registrations

A new set is compared with the declaration of the API that was registered first. That is
enough for any two registered sets to agree, because the invariant holds each of them to that
one declaration.

The declaration is found by way of the owner of the model. Owners are kept beside the sets, so
a second invariant says that they are the APIs that the sets give: of those that declare the
model, the one that was registered first.

## Main definitions

* `ModelSet.AgreesWith` — two sets have models of the same structure under the same names
* `Registry.Reachable` — what successful registrations of compiled sets lead to
* `Registry.Linked` — the owners are those that the registered sets give
* `Registry.Consistent` — every model has the structure of its first declaration
* `Registry.Coherent` — moreover the registered sets are closed

## Main results

* `Registry.register_eq_ok_iff` — what a registration checks and does
* `Registry.Linked.lookup_eq` — a model is found as the first set has it that declares it
* `Registry.Consistent.register`, `Registry.Reachable.coherent` — one registration, and all of
  them, keep the invariants
* `Registry.Consistent.agree` — any two registered sets agree
-/

namespace ApiContract

/-- Models of one name have the same structure in both sets. -/
def ModelSet.AgreesWith (s t : ModelSet) : Prop :=
  ∀ name m n, s.get? name = some m → t.get? name = some n → m.shape = n.shape

theorem ModelSet.AgreesWith.symm {s t : ModelSet} (agree : s.AgreesWith t) : t.AgreesWith s :=
  fun name m n here there => (agree name n m there here).symm

/-- A set becomes the owner of those of its models that have none. -/
theorem ModelSet.lookup_addOwners (s : ModelSet) (owners : List (String × String))
    (name : String) :
    Members.lookup name (s.addOwners owners) =
      (Members.lookup name owners).or (if s.contains name then some s.api else none) := by
  have declared : s.contains name ↔ name ∈ s.names := contains_iff
  simp only [declared]
  rw [addOwners]
  -- On the names of the set; a name that is repeated has an owner the second time.
  generalize s.names = names
  induction names generalizing owners with
  | nil => simp
  | cons first rest ih =>
    rw [List.foldl_cons, ih, Members.lookup_insertNew, Option.or_assoc]
    congr 1
    by_cases here : first = name
    · simp [here]
    · simp [here, Ne.symm here]

namespace Registry

variable {r r' : Registry} {s t : ModelSet} {m : Model} {name api : String}

/-- What successful registrations of compiled sets lead to. -/
inductive Reachable : Registry → Prop
  | empty : Reachable empty
  | register {r r' : Registry} {s : ModelSet} {api : String}
      {definitions : List (String × Definition)} (before : Reachable r)
      (compiled : compileModels api definitions = .ok s) (registered : r.register s = .ok r') :
      Reachable r'

/-- No API is registered twice, and the owner of a model is the API of the first registered
set that declares it. -/
structure Linked (r : Registry) : Prop where
  distinct : (r.sets.map ModelSet.api).Nodup
  owner : ∀ name, Members.lookup name r.owners =
    (r.sets.find? fun s => s.contains name).map ModelSet.api

/-- Owners and sets belong together, and each registered model has the structure of its first
declaration. -/
structure Consistent (r : Registry) : Prop where
  linked : r.Linked
  first : ∀ s ∈ r.sets, ∀ name m, s.get? name = some m →
    ∃ original, r.lookup name = some original ∧ original.shape = m.shape

/-- The registered sets are consistent, and closed. -/
structure Coherent (r : Registry) : Prop extends r.Consistent where
  closed : ∀ s ∈ r.sets, s.Closed

/-! ### One registration -/

theorem conflict?_eq_none_iff :
    r.conflict? m api = none ↔ ∀ original, r.lookup m.name = some original →
      original.shape = m.shape := by
  rw [conflict?]
  cases r.lookup m.name with
  | none => simp
  | some original => simp [Model.sameStructure]

/-- A set that is refused leaves the registry as it is. -/
theorem add_on (r : Registry) (s : ModelSet) : (add s).on r =
    if r.contains s.api then (.error (.alreadyRegistered s.api), r)
    else match s.models.findSome? fun m => r.conflict? m s.api with
      | some e => (.error e, r)
      | none => (.ok (), { sets := r.sets ++ [s], owners := s.addOwners r.owners }) := by
  rw [add, Change.on_get_bind]
  by_cases taken : r.contains s.api
  · rw [if_pos taken, if_pos taken]
    rfl
  · rw [if_neg taken, if_neg taken]
    cases s.models.findSome? fun m => r.conflict? m s.api with
    | some e => rfl
    | none => rfl

/-- A registration checks that the API is new and that every model has the structure of its
first declaration. -/
theorem register_eq_ok_iff :
    r.register s = .ok r' ↔ r.contains s.api = false ∧
      (∀ m ∈ s.models, ∀ original, r.lookup m.name = some original →
        original.shape = m.shape) ∧
      r' = { sets := r.sets ++ [s], owners := s.addOwners r.owners } := by
  rw [register, Change.result_eq_ok_iff, add_on]
  cases r.contains s.api with
  | true => simp
  | false =>
    cases conflict : s.models.findSome? fun m => r.conflict? m s.api with
    | none =>
      rw [List.findSome?_eq_none_iff] at conflict
      have alike : ∀ m ∈ s.models, ∀ original, r.lookup m.name = some original →
          original.shape = m.shape := fun m member => conflict?_eq_none_iff.mp (conflict m member)
      simpa [eq_comm] using fun _ => alike
    | some e =>
      obtain ⟨m, member, found⟩ := List.exists_of_findSome?_eq_some conflict
      simp only [Bool.false_eq_true, if_false, Prod.mk.injEq, reduceCtorEq, false_and, true_and,
        false_iff, not_and]
      intro alike
      rw [conflict?_eq_none_iff.mpr (alike m member)] at found
      cases found

/-- A registration adds the set under its API and changes nothing else. -/
theorem get?_register (registered : r.register s = .ok r') (api : String) :
    r'.get? api = if s.api = api then some s else r.get? api := by
  obtain ⟨fresh, _, rfl⟩ := register_eq_ok_iff.1 registered
  have unknown : r.sets.find? (fun t => t.api == s.api) = none := by
    simpa [contains, get?] using fresh
  rw [get?, get?, List.find?_append, List.find?_singleton]
  by_cases own : s.api = api
  · simp [← own, unknown]
  · simp [own]

theorem get?_of_register (registered : r.register s = .ok r') (found : r.get? api = some t) :
    r'.get? api = some t := by
  have fresh : r.contains s.api = false := (register_eq_ok_iff.1 registered).1
  have other : s.api ≠ api := by
    rintro rfl
    simp [contains, found] at fresh
  rw [get?_register registered, if_neg other, found]

theorem mem_of_get? (found : r.get? api = some s) : s ∈ r.sets :=
  List.mem_of_find?_eq_some found

theorem contains_eq_false_iff : r.contains api = false ↔ api ∉ r.sets.map ModelSet.api := by
  simp [contains, get?]

/-! ### Owners -/

/-- When no API is registered twice, a set is found under its API. -/
theorem Linked.get?_eq_some_iff (linked : r.Linked) :
    r.get? api = some s ↔ s ∈ r.sets ∧ s.api = api := by
  constructor
  · intro found
    exact ⟨mem_of_get? found, by simpa using List.find?_some found⟩
  · rintro ⟨member, rfl⟩
    obtain ⟨t, found⟩ : ∃ t, r.get? s.api = some t :=
      Option.isSome_iff_exists.mp (List.find?_isSome.mpr ⟨s, member, by simp⟩)
    have same : t.api = s.api := by simpa using List.find?_some found
    rw [found, List.inj_on_of_nodup_map linked.distinct (mem_of_get? found) member same]

/-- A model is found as the first registered set has it that declares it. -/
theorem Linked.lookup_eq (linked : r.Linked) (name : String) :
    r.lookup name = r.sets.findSome? fun s => s.get? name := by
  rw [lookup, linked.owner]
  cases first : r.sets.find? fun s => s.contains name with
  | none =>
    have nowhere : ∀ s ∈ r.sets, s.get? name = none := by
      simpa [ModelSet.contains] using first
    rw [List.findSome?_eq_none_iff.mpr nowhere]
    rfl
  | some s =>
    have own : r.get? s.api = some s :=
      linked.get?_eq_some_iff.mpr ⟨List.mem_of_find?_eq_some first, rfl⟩
    obtain ⟨_, before, after, cut, earlier⟩ := List.find?_eq_some_iff_append.mp first
    have undeclared : ∀ t ∈ before, t.get? name = none := by
      simpa [ModelSet.contains] using earlier
    have declares : (s.get? name).isSome := by simpa [ModelSet.contains] using List.find?_some first
    obtain ⟨m, found⟩ := Option.isSome_iff_exists.mp declares
    rw [Option.map_some, Option.bind_some, own, Option.bind_some, cut, List.findSome?_append,
      List.findSome?_eq_none_iff.mpr undeclared, Option.none_or, List.findSome?_cons, found]

theorem Linked.empty : Linked empty :=
  ⟨List.nodup_nil, fun _ => rfl⟩

/-- A registration keeps owners and sets together. -/
theorem Linked.register (linked : r.Linked) (registered : r.register s = .ok r') :
    r'.Linked := by
  obtain ⟨fresh, _, rfl⟩ := register_eq_ok_iff.1 registered
  constructor
  · rw [List.map_append, List.map_singleton, List.nodup_append]
    refine ⟨linked.distinct, List.nodup_singleton _, fun api before other new => ?_⟩
    rw [List.mem_singleton.mp new]
    rintro rfl
    exact contains_eq_false_iff.mp fresh before
  · intro name
    rw [ModelSet.lookup_addOwners, linked.owner, List.find?_append, List.find?_singleton,
      Option.map_or]
    congr 1
    split <;> rfl

/-- A registration leaves the declarations that are found, and adds those of the set. -/
theorem Linked.lookup_register (linked : r.Linked) (registered : r.register s = .ok r')
    (name : String) : r'.lookup name = (r.lookup name).or (s.get? name) := by
  rw [linked.lookup_eq, (linked.register registered).lookup_eq]
  obtain ⟨_, _, rfl⟩ := register_eq_ok_iff.1 registered
  rw [List.findSome?_append, List.findSome?_cons]
  cases s.get? name <;> rfl

/-! ### All registrations -/

theorem Consistent.empty : Consistent empty :=
  ⟨.empty, List.forall_mem_nil _⟩

/-- One registration keeps the invariant. -/
theorem Consistent.register (consistent : r.Consistent) (registered : r.register s = .ok r') :
    r'.Consistent := by
  refine ⟨consistent.linked.register registered, ?_⟩
  intro t member name m found
  rw [consistent.linked.lookup_register registered]
  obtain ⟨_, alike, rfl⟩ := register_eq_ok_iff.1 registered
  rcases List.mem_append.mp member with before | new
  · obtain ⟨original, first, same⟩ := consistent.first t before name m found
    exact ⟨original, by rw [first, Option.some_or], same⟩
  · obtain rfl := List.mem_singleton.mp new
    obtain ⟨declared, rfl⟩ := ModelSet.get?_eq_some found
    -- The new set declares the model first, or the registration has compared the two.
    cases first : r.lookup m.name with
    | none => exact ⟨m, by rw [Option.none_or, found], rfl⟩
    | some original => exact ⟨original, Option.some_or, alike m declared original first⟩

/-- All registrations keep the invariants, when the sets are closed. -/
theorem Reachable.coherent (reachable : r.Reachable) : r.Coherent := by
  induction reachable with
  | empty => exact ⟨.empty, List.forall_mem_nil _⟩
  | register _ compiled registered ih =>
    refine ⟨ih.toConsistent.register registered, ?_⟩
    obtain ⟨_, _, rfl⟩ := register_eq_ok_iff.1 registered
    intro t member
    rcases List.mem_append.mp member with before | new
    · exact ih.closed t before
    · rw [List.mem_singleton.mp new]
      exact (compileModels_closed compiled).1

/-- Any two registered sets agree, because both agree with the first declarations. -/
theorem Consistent.agree (consistent : r.Consistent) (left : s ∈ r.sets) (right : t ∈ r.sets) :
    s.AgreesWith t := by
  intro name m n here there
  obtain ⟨original, first, same⟩ := consistent.first s left name m here
  obtain ⟨again, found, other⟩ := consistent.first t right name n there
  rw [first] at found
  obtain rfl := Option.some.inj found
  exact same.symm.trans other

end Registry

end ApiContract
