import ApiContract.Proofs.Contract.Models
import ApiContract.Service.Dispatch
import Mathlib.Data.Finset.Card
import Mathlib.Logic.Relation

/-!
# Results that an operation may have

A handler may answer with a model that its operation declares, or with a descendant of one.
The walk up the parents is bounded by the number of models. No bound is lost by that: a
longer line of ancestors passes through some model twice, and what lies between can be left
out, also in sets whose parents form a cycle or are missing.

## Main definitions

* `ModelSet.ParentOf` — one model names another as its parent
* `Binding.Declares` — a model or one of its ancestors is a declared result
* `ModelSet.ancestor?` — what a number of steps up leads to

## Main results

* `Binding.declares_of_accepts` — an accepted model is declared
* `Binding.accepts_of_declares` — a declared model is accepted
* `Binding.acceptsWithin_eq_accepts`, `Binding.acceptsWithin_line` — a larger bound accepts no
  more, and a smaller one less
* `Binding.accepts_iff_ancestor` — what the bounded walk accepts
-/

namespace ApiContract

open Relation

/-- One model names another as its parent. -/
def ModelSet.ParentOf (s : ModelSet) (child parent : String) : Prop :=
  ∃ m, s.get? child = some m ∧ m.parent = some parent

/-- A model or one of its ancestors is a result that the operation declares. -/
def Binding.Declares (b : Binding) (s : ModelSet) (name : String) : Prop :=
  ∃ result ∈ b.results, ReflTransGen s.ParentOf name result

/-! ### Lines of ancestors -/

namespace ModelSet

variable {s : ModelSet} {name parent result : String} {k n : Nat}

/-- The name that a number of steps from child to parent leads to. -/
def ancestor? (s : ModelSet) : Nat → String → Option String
  | 0, name => some name
  | n + 1, name => ((s.get? name).bind (·.parent)).bind (s.ancestor? n)

theorem parentOf_iff : s.ParentOf name parent ↔ (s.get? name).bind (·.parent) = some parent := by
  simp only [ParentOf, Option.bind_eq_some_iff]

theorem ancestor?_add (s : ModelSet) (k n : Nat) (name : String) :
    s.ancestor? (k + n) name = (s.ancestor? k name).bind (s.ancestor? n) := by
  induction k generalizing name with
  | zero => simp [ancestor?]
  | succ k ih =>
    rw [Nat.succ_add, ancestor?, ancestor?]
    cases (s.get? name).bind (·.parent) with
    | none => rfl
    | some parent => exact ih parent

theorem reflTransGen_iff :
    ReflTransGen s.ParentOf name result ↔ ∃ k, s.ancestor? k name = some result := by
  constructor
  · intro line
    induction line using ReflTransGen.head_induction_on with
    | refl => exact ⟨0, rfl⟩
    | head step _ ih =>
      obtain ⟨k, above⟩ := ih
      exact ⟨k + 1, by rw [ancestor?, parentOf_iff.mp step, Option.bind_some, above]⟩
  · rintro ⟨k, above⟩
    induction k generalizing name with
    | zero =>
      obtain rfl := Option.some.inj above
      exact .refl
    | succ k ih =>
      obtain ⟨parent, step, above⟩ := Option.bind_eq_some_iff.mp above
      exact .head (parentOf_iff.mpr step) (ih above)

theorem mem_names_of_ancestor? (above : s.ancestor? (n + 1) name = some result) :
    name ∈ s.names := by
  obtain ⟨parent, step, _⟩ := Option.bind_eq_some_iff.mp above
  obtain ⟨m, found, _⟩ := parentOf_iff.mpr step
  obtain ⟨member, rfl⟩ := get?_eq_some found
  exact List.mem_map_of_mem member

/-- A line of ancestors that is longer than the set passes through some model twice. -/
theorem exists_repeated (long : s.models.length < n) (above : s.ancestor? n name = some result) :
    ∃ i j, i < j ∧ j ≤ n ∧ s.ancestor? i name = s.ancestor? j name := by
  -- Every name on the line but the last has a parent, and thus a model in the set.
  have listed : ∀ i < n, ∃ a ∈ s.names, s.ancestor? i name = some a := by
    intro i below
    obtain ⟨rest, rfl⟩ := Nat.exists_eq_add_of_lt below
    rw [Nat.add_assoc, ancestor?_add] at above
    obtain ⟨a, here, further⟩ := Option.bind_eq_some_iff.mp above
    exact ⟨a, mem_names_of_ancestor? further, here⟩
  have fewer : (s.names.map some).toFinset.card < (Finset.range n).card := by
    calc (s.names.map some).toFinset.card ≤ (s.names.map some).length := List.toFinset_card_le _
      _ = s.models.length := by simp [names]
      _ < (Finset.range n).card := by simpa using long
  have within : ∀ i ∈ Finset.range n, s.ancestor? i name ∈ (s.names.map some).toFinset := by
    intro i member
    obtain ⟨a, known, here⟩ := listed i (Finset.mem_range.mp member)
    simp [here, known]
  obtain ⟨i, left, j, right, apart, same⟩ :=
    Finset.exists_ne_map_eq_of_card_lt_of_maps_to fewer within
  rw [Finset.mem_range] at left right
  rcases Nat.lt_or_gt_of_ne apart with before | after
  · exact ⟨i, j, before, right.le, same⟩
  · exact ⟨j, i, after, left.le, same.symm⟩

/-- Every ancestor is reached in at most as many steps as there are models. -/
theorem exists_short (above : s.ancestor? n name = some result) :
    ∃ k ≤ s.models.length, s.ancestor? k name = some result := by
  induction n using Nat.strong_induction_on with
  | _ n ih =>
    by_cases long : s.models.length < n
    · -- What lies between two visits of one model is left out.
      obtain ⟨i, j, before, within, same⟩ := exists_repeated long above
      obtain ⟨rest, rfl⟩ := Nat.exists_eq_add_of_le within
      rw [ancestor?_add, ← same, ← ancestor?_add] at above
      exact ih (i + rest) (by omega) above
    · exact ⟨n, by omega, above⟩

/-! ### The longest lines -/

/-- The name of a place in a line of models. -/
def lineName (k : Nat) : String := String.ofList (List.replicate k 'a')

/-- A number of models, each of which names the next one as its parent. The parent of the last is
not among them. -/
def line (n : Nat) : ModelSet where
  api := "line"
  models := (List.range n).map fun k =>
    { name := lineName k, api := "line", parent := some (lineName (k + 1)) }

theorem lineName_injective : Function.Injective lineName := by
  intro k n same
  simpa [lineName] using congrArg String.length same

theorem ancestor?_line {n i k : Nat} (inside : i + k ≤ n) :
    (line n).ancestor? k (lineName i) = some (lineName (i + k)) := by
  have distinct : (line n).names.Nodup := by
    rw [names, line, List.map_map]
    exact List.nodup_range.map lineName_injective
  induction k generalizing i with
  | zero => rfl
  | succ k ih =>
    have member : _ ∈ (line n).models :=
      List.mem_map_of_mem (List.mem_range.mpr (by omega : i < n))
    have found := get?_of_mem distinct member
    dsimp only at found
    rw [ancestor?, found, Option.bind_some, Option.bind_some, ih (by omega)]
    congr 2
    omega

end ModelSet

/-! ### The bounded walk -/

namespace Binding

variable {b : Binding} {s : ModelSet} {name : String}

theorem acceptsWithin_iff {steps : Nat} :
    b.acceptsWithin s steps name = true ↔
      ∃ k < steps, ∃ result ∈ b.results, s.ancestor? k name = some result := by
  induction steps generalizing name with
  | zero => simp [acceptsWithin]
  | succ steps ih =>
    rw [acceptsWithin, Bool.or_eq_true]
    constructor
    · rintro (own | above)
      · exact ⟨0, Nat.succ_pos steps, name, by simpa using own, rfl⟩
      · cases step : (s.get? name).bind (·.parent) with
        | none => simp [step] at above
        | some parent =>
          rw [step] at above
          obtain ⟨k, below, result, declared, further⟩ := ih.mp above
          refine ⟨k + 1, Nat.succ_lt_succ below, result, declared, ?_⟩
          rw [ModelSet.ancestor?, step, Option.bind_some, further]
    · rintro ⟨k, below, result, declared, above⟩
      cases k with
      | zero =>
        obtain rfl := Option.some.inj above
        exact .inl (by simpa using declared)
      | succ k =>
        obtain ⟨parent, step, further⟩ := Option.bind_eq_some_iff.mp above
        right
        rw [step]
        exact ih.mpr ⟨k, Nat.lt_of_succ_lt_succ below, result, declared, further⟩

/-- An accepted model is declared, or one of its ancestors is. -/
theorem declares_of_accepts (accepted : b.accepts s name = true) : b.Declares s name := by
  obtain ⟨k, _, result, declared, above⟩ := acceptsWithin_iff.mp accepted
  exact ⟨result, declared, ModelSet.reflTransGen_iff.mpr ⟨k, above⟩⟩

/-- A model is accepted if it is declared or one of its ancestors is. -/
theorem accepts_of_declares (declares : b.Declares s name) : b.accepts s name = true := by
  obtain ⟨result, declared, line⟩ := declares
  obtain ⟨n, above⟩ := ModelSet.reflTransGen_iff.mp line
  obtain ⟨k, short, above⟩ := ModelSet.exists_short above
  exact acceptsWithin_iff.mpr ⟨k, Nat.lt_succ_of_le short, result, declared, above⟩

theorem declares_iff : b.Declares s name ↔
    name ∈ b.results ∨ ∃ result ∈ b.results, TransGen s.ParentOf name result := by
  constructor
  · rintro ⟨result, declared, line⟩
    rcases reflTransGen_iff_eq_or_transGen.mp line with rfl | above
    · exact .inl declared
    · exact .inr ⟨result, declared, above⟩
  · rintro (declared | ⟨result, declared, above⟩)
    · exact ⟨name, declared, .refl⟩
    · exact ⟨result, declared, above.to_reflTransGen⟩

/-- A walk of more steps than there are models accepts no more than the bounded one. -/
theorem acceptsWithin_eq_accepts {steps : Nat} (long : s.models.length < steps) :
    b.acceptsWithin s steps name = b.accepts s name := by
  rw [Bool.eq_iff_iff]
  constructor
  · intro accepted
    obtain ⟨k, _, result, declared, above⟩ := acceptsWithin_iff.mp accepted
    exact accepts_of_declares ⟨result, declared, ModelSet.reflTransGen_iff.mpr ⟨k, above⟩⟩
  · intro accepted
    obtain ⟨k, short, found⟩ := acceptsWithin_iff.mp accepted
    exact acceptsWithin_iff.mpr ⟨k, by omega, found⟩

/-- At the end of a line of models the walk finds what is declared with its very last step. -/
theorem acceptsWithin_line {n : Nat} (last : b.results = [ModelSet.lineName n]) :
    b.acceptsWithin (.line n) n (ModelSet.lineName 0) = false ∧
      b.accepts (.line n) (ModelSet.lineName 0) = true := by
  constructor
  · rw [← Bool.not_eq_true, acceptsWithin_iff]
    rintro ⟨k, below, result, declared, above⟩
    rw [ModelSet.ancestor?_line (by omega), Option.some.injEq, Nat.zero_add] at above
    rw [last, List.mem_singleton, ← above] at declared
    exact absurd (ModelSet.lineName_injective declared) (by omega)
  · apply accepts_of_declares
    refine ⟨ModelSet.lineName n, by rw [last]; exact List.mem_singleton_self _, ?_⟩
    apply ModelSet.reflTransGen_iff.mpr
    exact ⟨n, by rw [ModelSet.ancestor?_line (by omega), Nat.zero_add]⟩

/-- The walk accepts a model exactly when the operation declares it or one of its ancestors, in
every set of models, also in one whose parents form a cycle or are not in the set. No larger bound
would accept more. -/
theorem accepts_iff_ancestor (b : Binding) (s : ModelSet) (name : String) :
    (b.accepts s name = true ↔
      name ∈ b.results ∨ ∃ result ∈ b.results, TransGen s.ParentOf name result) ∧
    ∀ steps, s.models.length < steps → b.acceptsWithin s steps name = b.accepts s name := by
  refine ⟨?_, fun steps long => acceptsWithin_eq_accepts long⟩
  rw [← declares_iff]
  exact ⟨declares_of_accepts, accepts_of_declares⟩

/-- An artifact in which two models are each the parent of the other, and a third one has a parent
that is not there. -/
def aviary : Artifact where
  api := "aviary"
  compiledAt := .epoch
  models := [{ name := "Egg", api := "aviary", parent := some "Hen" },
    { name := "Hen", api := "aviary", parent := some "Egg" },
    { name := "Chick", api := "aviary", parent := some "Bird" }]

/-- The binding that gets a bird. -/
def getBird : Binding where
  api := "aviary"
  method := "GET"
  route := "/bird"
  params := []
  bodyModel := none
  handlerName := "get_bird"
  handler := HandlerPolicy.stubHandler "get_bird"
  decoratorName := none
  decorator := none
  results := ["Bird"]
  produces := jsonMediaType

/-- A declared parent is found although it is not there. In a cycle nothing is found, however
long the walk may be. -/
theorem accepts_iff_ancestor_aviary :
    getBird.accepts aviary.toModels "Chick" = true ∧
      getBird.accepts aviary.toModels "Egg" = false ∧
      aviary.toModels.models.length < 1000 ∧
      getBird.acceptsWithin aviary.toModels 1000 "Egg" = false := by
  have lost : getBird.accepts aviary.toModels "Egg" = false := rfl
  refine ⟨?_, lost, by decide, ?_⟩
  · apply (getBird.accepts_iff_ancestor aviary.toModels "Chick").1.mpr
    exact .inr ⟨"Bird", List.mem_singleton_self _, .single ⟨_, rfl, rfl⟩⟩
  · rw [(getBird.accepts_iff_ancestor aviary.toModels "Egg").2 1000 (by decide), lost]

end Binding

end ApiContract
