import ApiContract.Contract.Order
import ApiContract.Proofs.Fallible
import ApiContract.Proofs.Members
import Mathlib.Data.Fintype.EquivFin
import Mathlib.Logic.Relation
import Mathlib.Order.WellFounded

/-!
# Exactness of the order of models

Placing models pass after pass succeeds exactly when no model depends on itself through
others. A model is placed only after all that it depends on, so nothing that leads into a
cycle is ever placed; when a pass places nothing, each model that is left depends on another
one that is left, and as there are finitely many, each of them leads into a cycle.

## Main definitions

* `DependsOn` — the dependency of one declared model on another
* `Topological` — an order in which each model comes after all that it depends on
* `Placing` — what holds of the models placed and left between passes
* `runPasses` — the passes as a loop that counts them

## Main results

* `Placing.pass`, `Placing.run` — one pass, and all of them, keep the invariant
* `orderModels_exact` — when there is an order, which one, and what is reported otherwise
-/

namespace ApiContract

open Relation

/-- A declared model depends on its parent and on the models that its properties refer to
through any depth of arrays; a list of itself is no dependency. -/
def DependsOn (definitions : List (String × Definition)) (m n : String) : Prop :=
  ∃ d, (m, d) ∈ definitions ∧
    (d.parentName = some n ∨ ∃ p ∈ d.properties, ∃ throughArray,
      p.2.dependency? (definitions.map Prod.fst) = some (n, throughArray) ∧
        ¬ (throughArray = true ∧ n = m))

/-- Each model of the list comes after all that it depends on. -/
def Topological (dependsOn : String → String → Prop) (order : List String) : Prop :=
  ∀ before m after, order = before ++ m :: after → ∀ n, dependsOn m n → n ∈ before

/-- Some path of dependencies from the model ends in a cycle. -/
def LeadsIntoCycle (dependsOn : String → String → Prop) (m : String) : Prop :=
  ∃ k, ReflTransGen dependsOn m k ∧ TransGen dependsOn k k

/-! ### Orders and cycles -/

section Graph

variable {dependsOn : String → String → Prop} {order : List String} {m n : String}

theorem Topological.nil : Topological dependsOn [] := by
  intro before m after split
  simp at split

/-- A model may come next when all that it depends on is there. -/
theorem Topological.snoc (topological : Topological dependsOn order)
    (ready : ∀ n, dependsOn m n → n ∈ order) : Topological dependsOn (order ++ [m]) := by
  intro before k after split n depends
  rcases List.eq_nil_or_concat after with rfl | ⟨rest, last, rfl⟩
  · obtain ⟨rfl, same⟩ := List.append_inj' split rfl
    obtain rfl := List.singleton_inj.mp same
    exact ready n depends
  · have shifted : order ++ [m] = (before ++ k :: rest) ++ [last] := by simpa using split
    obtain ⟨inside, _⟩ := List.append_inj' shifted rfl
    exact topological before k rest inside n depends

/-- Following dependencies from a model of the order descends, and so ends. -/
theorem Topological.acc (topological : Topological dependsOn order) (member : m ∈ order) :
    Acc (fun n m => dependsOn m n) m := by
  -- What a model depends on stands before it, so the part before a model gets shorter.
  suffices descend : ∀ size before m after, before.length = size →
      order = before ++ m :: after → Acc (fun n m => dependsOn m n) m by
    obtain ⟨before, after, split⟩ := List.append_of_mem member
    exact descend _ before m after rfl split
  intro size
  induction size using Nat.strong_induction_on with
  | _ size ih =>
    rintro before m after rfl split
    refine Acc.intro m fun n depends => ?_
    obtain ⟨first, rest, here⟩ := List.append_of_mem (topological before m after split n depends)
    refine ih first.length ?_ first n (rest ++ m :: after) rfl ?_
    · rw [here, List.length_append, List.length_cons]
      omega
    · rw [split, here, List.append_assoc, List.cons_append]

private theorem not_transGen_self_of_acc (accessible : Acc (fun n m => dependsOn m n) m) :
    ¬ TransGen dependsOn m m := by
  induction accessible with
  | intro m _ ih =>
    intro cycle
    obtain ⟨k, step, back⟩ := TransGen.head'_iff.mp cycle
    exact ih k step (TransGen.tail' back step)

/-- No model of the order leads into a cycle. -/
theorem Topological.not_leadsIntoCycle (topological : Topological dependsOn order)
    (member : m ∈ order) : ¬ LeadsIntoCycle dependsOn m := by
  rintro ⟨k, path, cycle⟩
  refine not_transGen_self_of_acc ?_ cycle
  have start := topological.acc member
  clear cycle
  induction path with
  | refl => exact start
  | tail _ step ih => exact ih.inv step

/-- Among finitely many models each of which depends on another of them, every one leads
into a cycle. -/
theorem leadsIntoCycle_of_closed {models : List String}
    (next : ∀ m ∈ models, ∃ n ∈ models, dependsOn m n) (member : m ∈ models) :
    LeadsIntoCycle dependsOn m := by
  by_contra acyclic
  -- Without a cycle, paths order the models reached from `m` strictly, so one of them is last.
  let Reached := { n : String // n ∈ models ∧ ReflTransGen dependsOn m n }
  have finite : Finite Reached :=
    Finite.of_injective (fun r : Reached => (⟨r.1, r.2.1⟩ : { n // n ∈ models })) fun r s same =>
      Subtype.ext (congrArg (fun x : { n // n ∈ models } => x.1) same)
  have transitive : IsTrans Reached fun r s => TransGen dependsOn s.1 r.1 :=
    ⟨fun _ _ _ first second => second.trans first⟩
  have irreflexive : Std.Irrefl fun r s : Reached => TransGen dependsOn s.1 r.1 :=
    ⟨fun r cycle => acyclic ⟨r.1, r.2.2, cycle⟩⟩
  have wellFounded : WellFounded fun r s : Reached => TransGen dependsOn s.1 r.1 :=
    Finite.wellFounded_of_trans_of_irrefl _
  obtain ⟨last, _, minimal⟩ := wellFounded.has_min Set.univ ⟨⟨m, member, .refl⟩, trivial⟩
  obtain ⟨n, inside, depends⟩ := next last.1 last.2.1
  exact minimal ⟨n, inside, last.2.2.tail depends⟩ trivial (.single depends)

end Graph

/-! ### One pass -/

/-- The dependency that lists of what each model needs describe. -/
def Needs (graph : List (String × List String)) (m n : String) : Prop :=
  ∃ needs, (m, needs) ∈ graph ∧ n ∈ needs

/-- Between passes every model is either placed or left, those left are as they were given,
and each placed model comes after all that it needs. -/
structure Placing (graph : List (String × List String)) (placed : List String)
    (left : List (String × List String)) : Prop where
  sublist : left.Sublist graph
  perm : (placed ++ left.map Prod.fst).Perm (graph.map Prod.fst)
  topological : Topological (Needs graph) placed

section Pass

variable {graph : List (String × List String)} {placed : List String}
  {left : List (String × List String)}

theorem placeReady_sublist (placed : List String) (left : List (String × List String)) :
    (placeReady placed left).2.Sublist left := by
  induction left generalizing placed with
  | nil => exact .refl _
  | cons p rest ih =>
    rw [placeReady]
    split
    · exact (ih _).cons _
    · exact (ih placed).cons_cons _

theorem placeReady_perm (placed : List String) (left : List (String × List String)) :
    ((placeReady placed left).1 ++ (placeReady placed left).2.map Prod.fst).Perm
      (placed ++ left.map Prod.fst) := by
  induction left generalizing placed with
  | nil => exact .refl _
  | cons p rest ih =>
    rw [placeReady]
    split
    · simpa using ih (placed ++ [p.1])
    · -- The model stays left: what it is skipped over is permuted among itself.
      have skipped := (List.perm_middle (a := p.1)).trans
        (((ih placed).cons p.1).trans List.perm_middle.symm)
      simpa using skipped

/-- A pass keeps the placed models in order, given that the models it looks at say all that
they need. -/
theorem placeReady_topological {dependsOn : String → String → Prop}
    (complete : ∀ p ∈ left, ∀ n, dependsOn p.1 n → n ∈ p.2)
    (topological : Topological dependsOn placed) :
    Topological dependsOn (placeReady placed left).1 := by
  induction left generalizing placed with
  | nil => exact topological
  | cons p rest ih =>
    have later : ∀ q ∈ rest, ∀ n, dependsOn q.1 n → n ∈ q.2 :=
      fun q member => complete q (List.mem_cons_of_mem _ member)
    rw [placeReady]
    split
    · rename_i ready
      refine ih later (topological.snoc fun n depends => ?_)
      have needed := List.all_eq_true.mp ready n (complete p List.mem_cons_self n depends)
      simpa using needed
    · exact ih later topological

/-- A pass that places nothing leaves all as it was, because each model that is left needs
one that is not placed. -/
theorem placeReady_stuck (stuck : ¬ (placeReady placed left).2.length < left.length) :
    placeReady placed left = (placed, left) ∧ ∀ p ∈ left, ∃ n ∈ p.2, n ∉ placed := by
  induction left generalizing placed with
  | nil => simp [placeReady]
  | cons p rest ih =>
    rw [placeReady] at stuck ⊢
    split at stuck
    · -- A pass that places the first model leaves fewer.
      have bound := placeReady_length (placed ++ [p.1]) rest
      rw [List.length_cons] at stuck
      omega
    · rename_i waiting
      rw [if_neg waiting]
      simp only [List.length_cons, Nat.add_lt_add_iff_right] at stuck
      obtain ⟨same, rest⟩ := ih stuck
      rw [same]
      refine ⟨rfl, fun q member => ?_⟩
      rcases List.mem_cons.mp member with rfl | later
      · simpa using waiting
      · exact rest q later

/-- When each model needs only what stands before it, one pass places all. -/
theorem placeReady_all (ready : ∀ before p after, left = before ++ p :: after →
      ∀ n ∈ p.2, n ∈ placed ++ before.map Prod.fst) :
    placeReady placed left = (placed ++ left.map Prod.fst, []) := by
  induction left generalizing placed with
  | nil => simp [placeReady]
  | cons p rest ih =>
    have first : p.2.all placed.contains = true := by
      rw [List.all_eq_true]
      intro n needed
      simpa using ready [] p rest rfl n needed
    rw [placeReady, if_pos first, ih]
    · simp
    · intro before q after split n needed
      simpa using ready (p :: before) q after (by rw [split]; rfl) n needed

theorem Placing.nil : Placing graph [] graph :=
  ⟨.refl _, .refl _, .nil⟩

/-- One pass keeps the invariant. -/
theorem Placing.pass (distinct : (graph.map Prod.fst).Nodup) (h : Placing graph placed left) :
    Placing graph (placeReady placed left).1 (placeReady placed left).2 where
  sublist := (placeReady_sublist placed left).trans h.sublist
  perm := (placeReady_perm placed left).trans h.perm
  topological := by
    refine placeReady_topological ?_ h.topological
    rintro p member n ⟨needs, declared, needed⟩
    -- A name is listed once, so what is left says all that the model needs.
    have same : p.2 = needs := by
      have found := Members.lookup_of_mem distinct (h.sublist.subset member)
      rw [Members.lookup_of_mem distinct declared] at found
      exact (Option.some.inj found).symm
    rwa [same]

end Pass

/-! ### All passes -/

/-- The passes as a loop that may go on for so many of them; `none` when it is not done by
then. -/
def runPasses : Nat → List String → List (String × List String) →
    Option (Except ContractError (List String))
  | _, placed, [] => some (.ok placed)
  | 0, _, _ :: _ => none
  | passes + 1, placed, m :: rest =>
    let next := placeReady placed (m :: rest)
    if next.2.length = (m :: rest).length then
      some (.error (.cyclicDependency (next.2.map Prod.fst)))
    else runPasses passes next.1 next.2

/-- The loop is done after as many passes as there are models. -/
theorem runPasses_eq {passes : Nat} {placed : List String} {left : List (String × List String)}
    (enough : left.length ≤ passes) :
    runPasses passes placed left = some (placeAll placed left) := by
  induction passes generalizing placed left with
  | zero =>
    obtain rfl := List.length_eq_zero_iff.mp (Nat.le_zero.mp enough)
    rw [runPasses, placeAll]
  | succ passes ih =>
    cases left with
    | nil => rw [runPasses, placeAll]
    | cons p rest =>
      have bound := placeReady_length placed (p :: rest)
      rw [runPasses, placeAll]
      split
      · rename_i same
        rw [dif_neg (by omega)]
      · rename_i fewer
        have progress : (placeReady placed (p :: rest)).2.length < (p :: rest).length := by omega
        rw [dif_pos progress]
        exact ih (Nat.le_of_lt_succ (progress.trans_le enough))

/-- The passes either place all models, or end with models left each of which needs one that
is not placed. -/
theorem Placing.run {graph : List (String × List String)} (distinct : (graph.map Prod.fst).Nodup)
    {placed : List String} {left : List (String × List String)} (h : Placing graph placed left) :
    (∃ order, placeAll placed left = .ok order ∧ Placing graph order []) ∨
      ∃ before stuck, placeAll placed left = .error (.cyclicDependency (stuck.map Prod.fst)) ∧
        Placing graph before stuck ∧ stuck ≠ [] ∧ ∀ p ∈ stuck, ∃ n ∈ p.2, n ∉ before := by
  -- Every pass but the last leaves fewer models, and each keeps the invariant.
  induction hsize : left.length using Nat.strong_induction_on generalizing placed left with
  | _ size ih =>
    subst hsize
    cases left with
    | nil => exact .inl ⟨placed, by rw [placeAll], h⟩
    | cons p rest =>
      rw [placeAll]
      by_cases progress : (placeReady placed (p :: rest)).2.length < (p :: rest).length
      · rw [dif_pos progress]
        exact ih _ progress (h.pass distinct) rfl
      · rw [dif_neg progress]
        obtain ⟨same, waiting⟩ := placeReady_stuck progress
        rw [same]
        exact .inr ⟨placed, p :: rest, rfl, h, List.cons_ne_nil _ _, waiting⟩

/-! ### The dependencies of declared models -/

theorem Property.mem_of_plainDependency? {known : List String} {p : Property} {n : String}
    (needed : p.plainDependency? known = some n) : n ∈ known := by
  rw [Property.plainDependency?] at needed
  split at needed
  · obtain ⟨_, declared⟩ := Option.filter_eq_some_iff.mp needed
    simpa using declared
  · cases needed
  · split at needed
    · rename_i declared
      obtain rfl := Option.some.inj needed
      simpa using declared
    · cases needed
  · cases needed

/-- A property needs declared models only. -/
theorem Property.mem_of_dependency? {known : List String} {p : Property} {n : String}
    {throughArray : Bool} (needed : p.dependency? known = some (n, throughArray)) :
    n ∈ known := by
  fun_induction Property.dependency? known p generalizing throughArray with
  | case1 _ _ _ _ _ _ _ element _ _ ih =>
    obtain ⟨⟨model, inner⟩, below, same⟩ := Option.map_eq_some_iff.mp needed
    obtain ⟨rfl, _⟩ := Prod.mk.inj same
    exact ih below
  | case2 => cases needed
  | case3 =>
    obtain ⟨model, here, same⟩ := Option.map_eq_some_iff.mp needed
    obtain ⟨rfl, _⟩ := Prod.mk.inj same
    exact mem_of_plainDependency? here

section Declared

variable {definitions : List (String × Definition)} {m n : String}

theorem mem_needs_iff {d : Definition} {known : List String} :
    n ∈ d.needs m known ↔ ∃ p ∈ d.properties, ∃ throughArray,
      p.2.dependency? known = some (n, throughArray) ∧ ¬ (throughArray = true ∧ n = m) := by
  rw [Definition.needs, List.mem_filterMap]
  refine exists_congr fun p => and_congr_right fun _ => ?_
  obtain ⟨name, p⟩ := p
  dsimp only
  cases p.dependency? known with
  | none => simp
  | some needed =>
    obtain ⟨model, throughArray⟩ := needed
    dsimp only
    constructor
    · intro kept
      split at kept
      · cases kept
      · rename_i other
        obtain rfl := Option.some.inj kept
        exact ⟨throughArray, rfl, by simpa using other⟩
    · rintro ⟨_, same, other⟩
      obtain ⟨rfl, rfl⟩ := Prod.mk.inj (Option.some.inj same)
      rw [if_neg (by simpa using other)]

/-- What a definition depends on, when its parent is declared. -/
theorem Definition.dependencies_eq {d : Definition} {known : List String}
    (declared : ∀ parent ∈ d.parentName, parent ∈ known) :
    ∃ needs, d.dependencies m known = .ok needs ∧
      ∀ n, n ∈ needs ↔ d.parentName = some n ∨ n ∈ d.needs m known := by
  rw [Definition.dependencies]
  cases named : d.parentName with
  | none => exact ⟨_, rfl, fun n => by simp [Members.mem_distinct]⟩
  | some name =>
    have found : known.contains name = true := by simpa using declared name named
    refine ⟨_, if_pos found, fun n => ?_⟩
    rw [Members.mem_distinct, List.mem_cons, Option.some_inj, eq_comm]

/-- A model is listed with what its definition depends on. -/
private theorem listed_eq_ok_iff {known : List String} {p : String × Definition}
    {q : String × List String} :
    (do return (p.1, ← p.2.dependencies p.1 known)) = Except.ok (ε := ContractError) q ↔
      q.1 = p.1 ∧ p.2.dependencies p.1 known = .ok q.2 := by
  obtain ⟨name, needs⟩ := q
  constructor
  · intro listed
    obtain ⟨found, here, same⟩ := bind_eq_ok.mp listed
    obtain ⟨rfl, rfl⟩ := Prod.mk.inj (Except.ok.inj same)
    exact ⟨rfl, here⟩
  · rintro ⟨rfl, here⟩
    exact bind_eq_ok.mpr ⟨needs, here, rfl⟩

/-- The models are listed as they are declared. -/
theorem names_of_dependencies {graph : List (String × List String)}
    (ok : dependencies definitions = .ok graph) :
    graph.map Prod.fst = definitions.map Prod.fst :=
  map_of_mapM (fun _ _ _ listed => (listed_eq_ok_iff.mp listed).1) ok

/-- When every parent is declared, the dependencies are those of the relation. -/
theorem dependencies_eq
    (parents : ∀ p ∈ definitions, ∀ parent ∈ p.2.parentName, parent ∈ definitions.map Prod.fst) :
    ∃ graph, dependencies definitions = .ok graph ∧
      ∀ m n, Needs graph m n ↔ DependsOn definitions m n := by
  have each : ∀ p ∈ definitions, ∃ needs,
      p.2.dependencies p.1 (definitions.map Prod.fst) = .ok needs ∧ ∀ n, n ∈ needs ↔
        p.2.parentName = some n ∨ n ∈ p.2.needs p.1 (definitions.map Prod.fst) :=
    fun p member => Definition.dependencies_eq (parents p member)
  obtain ⟨graph, ok⟩ := exists_mapM_of_each fun p member => by
    obtain ⟨needs, here, _⟩ := each p member
    exact ⟨(p.1, needs), listed_eq_ok_iff.mpr ⟨rfl, here⟩⟩
  refine ⟨graph, ok, fun m n => ?_⟩
  constructor
  · rintro ⟨needs, listed, needed⟩
    obtain ⟨⟨name, d⟩, declared, given⟩ := (mem_mapM_iff ok).mp listed
    obtain ⟨rfl, here⟩ := listed_eq_ok_iff.mp given
    obtain ⟨found, there, spec⟩ := each _ declared
    obtain rfl : needs = found := Except.ok.inj (here.symm.trans there)
    exact ⟨d, declared, ((spec n).mp needed).imp_right mem_needs_iff.mp⟩
  · rintro ⟨d, declared, why⟩
    obtain ⟨needs, here, spec⟩ := each _ declared
    exact ⟨needs, (mem_mapM_iff ok).mpr ⟨_, declared, listed_eq_ok_iff.mpr ⟨rfl, here⟩⟩,
      (spec n).mpr (why.imp_right mem_needs_iff.mpr)⟩

/-! ### The order -/

theorem DependsOn.declared (depends : DependsOn definitions m n) :
    m ∈ definitions.map Prod.fst := by
  obtain ⟨d, member, _⟩ := depends
  exact List.mem_map_of_mem (f := Prod.fst) member

theorem Topological.congr {r s : String → String → Prop} {order : List String}
    (topological : Topological r order) (same : ∀ m n, r m n ↔ s m n) : Topological s order :=
  fun before m after split n depends => topological before m after split n ((same m n).mpr depends)

/-- What is left when the passes end early are the models that lead into a cycle. -/
theorem Placing.mem_stuck_iff {dependsOn : String → String → Prop}
    {graph stuck : List (String × List String)} {placed : List String}
    (edges : ∀ m n, Needs graph m n ↔ dependsOn m n)
    (closed : ∀ m n, dependsOn m n → n ∈ graph.map Prod.fst) (h : Placing graph placed stuck)
    (waiting : ∀ p ∈ stuck, ∃ n ∈ p.2, n ∉ placed) :
    m ∈ stuck.map Prod.fst ↔ m ∈ graph.map Prod.fst ∧ LeadsIntoCycle dependsOn m := by
  constructor
  · intro member
    refine ⟨(h.sublist.map Prod.fst).subset member, leadsIntoCycle_of_closed ?_ member⟩
    intro k left
    obtain ⟨p, inside, rfl⟩ := List.mem_map.mp left
    obtain ⟨n, needed, missing⟩ := waiting p inside
    have depends := (edges p.1 n).mp ⟨p.2, h.sublist.subset inside, needed⟩
    -- What is not placed is left, and so waits in turn.
    have somewhere := h.perm.mem_iff.mpr (closed p.1 n depends)
    exact ⟨n, (List.mem_append.mp somewhere).resolve_left missing, depends⟩
  · rintro ⟨declared, cycle⟩
    refine (List.mem_append.mp (h.perm.mem_iff.mpr declared)).resolve_left fun member => ?_
    exact (h.topological.congr edges).not_leadsIntoCycle member cycle

variable (distinct : (definitions.map Prod.fst).Nodup)
  (parents : ∀ p ∈ definitions, ∀ parent ∈ p.2.parentName, parent ∈ definitions.map Prod.fst)

include parents in
theorem DependsOn.target (depends : DependsOn definitions m n) :
    n ∈ definitions.map Prod.fst := by
  obtain ⟨d, member, parent | ⟨p, _, throughArray, needed, _⟩⟩ := depends
  · exact parents (m, d) member n parent
  · exact Property.mem_of_dependency? needed

/-- The passes place every model or none of their result is kept. -/
theorem placeAll_perm {placed order : List String} {left : List (String × List String)}
    (ok : placeAll placed left = .ok order) : order.Perm (placed ++ left.map Prod.fst) := by
  fun_induction placeAll placed left with
  | case1 =>
    obtain rfl := Except.ok.inj ok
    simp
  | case2 placed m rest next _ ih => exact (ih ok).trans (placeReady_perm placed (m :: rest))
  | case3 => cases ok

/-- An order of models has all declared ones. -/
theorem mem_of_orderModels {order : List String} (ok : orderModels definitions = .ok order)
    (declared : n ∈ definitions.map Prod.fst) : n ∈ order := by
  rw [orderModels] at ok
  obtain ⟨graph, needs, ok⟩ := bind_eq_ok.mp ok
  rw [(placeAll_perm ok).mem_iff, List.nil_append, names_of_dependencies needs]
  exact declared

include distinct parents in
/-- Either all models are placed in order, or those that lead into a cycle are reported. -/
theorem orderModels_cases :
    (∃ order, orderModels definitions = .ok order ∧ order.Perm (definitions.map Prod.fst) ∧
        Topological (DependsOn definitions) order) ∨
      ∃ stuck, orderModels definitions = .error (.cyclicDependency stuck) ∧ stuck ≠ [] ∧
        stuck.Sublist (definitions.map Prod.fst) ∧
        ∀ m, m ∈ stuck ↔
          m ∈ definitions.map Prod.fst ∧ LeadsIntoCycle (DependsOn definitions) m := by
  obtain ⟨graph, ok, edges⟩ := dependencies_eq parents
  have names := names_of_dependencies ok
  have run : orderModels definitions = placeAll [] graph := by rw [orderModels, ok]; rfl
  rw [run, ← names]
  rcases Placing.nil.run (names ▸ distinct) with
    ⟨order, placed, h⟩ | ⟨before, stuck, failed, h, nonempty, waiting⟩
  · exact .inl ⟨order, placed, by simpa using h.perm, h.topological.congr edges⟩
  · refine .inr ⟨_, failed, by simpa using nonempty, h.sublist.map _, fun m => ?_⟩
    exact h.mem_stuck_iff edges (fun m n depends => names ▸ depends.target parents) waiting

include parents in
/-- Models that are declared in order are placed as declared. -/
theorem orderModels_of_topological
    (topological : Topological (DependsOn definitions) (definitions.map Prod.fst)) :
    orderModels definitions = .ok (definitions.map Prod.fst) := by
  obtain ⟨graph, ok, edges⟩ := dependencies_eq parents
  have names := names_of_dependencies ok
  have ready : placeReady [] graph = (definitions.map Prod.fst, []) := by
    rw [placeReady_all, names, List.nil_append]
    intro before p after split n needed
    have depends := (edges p.1 n).mp ⟨p.2, by rw [split]; simp, needed⟩
    exact topological (before.map Prod.fst) p.1 (after.map Prod.fst)
      (by rw [← names, split]; simp) n depends
  have run : orderModels definitions = placeAll [] graph := by rw [orderModels, ok]; rfl
  rw [run]
  cases graph with
  | nil => simp [placeAll, ← names]
  | cons p rest =>
    rw [placeAll, ready, dif_pos (by simp), placeAll]

include distinct parents in
/-- The order of models is exact: there is one exactly when no model depends on itself
through others, it lists every model once and after all that it depends on, it is the order
of declaration when that will do, and otherwise exactly the models that lead into a cycle
are reported. The passes come to an end. -/
theorem orderModels_exact :
    ((∃ order, orderModels definitions = .ok order) ↔
        ∀ m, ¬ TransGen (DependsOn definitions) m m) ∧
      (∀ order, orderModels definitions = .ok order →
        order.Perm (definitions.map Prod.fst) ∧ Topological (DependsOn definitions) order) ∧
      (Topological (DependsOn definitions) (definitions.map Prod.fst) →
        orderModels definitions = .ok (definitions.map Prod.fst)) ∧
      (∀ e, orderModels definitions = .error e → ∃ stuck, e = .cyclicDependency stuck ∧
        stuck.Sublist (definitions.map Prod.fst) ∧ ∀ m, m ∈ stuck ↔
          m ∈ definitions.map Prod.fst ∧ LeadsIntoCycle (DependsOn definitions) m) ∧
      ∃ needs, dependencies definitions = .ok needs ∧ ∀ passes, definitions.length ≤ passes →
        runPasses passes [] needs = some (orderModels definitions) := by
  refine ⟨⟨?_, ?_⟩, ?_, orderModels_of_topological parents, ?_, ?_⟩
  · -- A model on a cycle is declared, and would stand before itself.
    rintro ⟨order, ok⟩ m cycle
    rcases orderModels_cases distinct parents with ⟨_, placed, perm, topological⟩ | ⟨_, failed, _⟩
    · obtain ⟨k, depends, _⟩ := TransGen.head'_iff.mp cycle
      exact topological.not_leadsIntoCycle (perm.mem_iff.mpr depends.declared) ⟨m, .refl, cycle⟩
    · rw [ok] at failed
      cases failed
  · -- Models are reported only when they lead into a cycle, and some model would be.
    intro acyclic
    rcases orderModels_cases distinct parents with ⟨order, placed, _⟩ | ⟨stuck, _, some, _, exact⟩
    · exact ⟨order, placed⟩
    · obtain ⟨m, member⟩ := List.exists_mem_of_ne_nil stuck some
      obtain ⟨_, k, _, cycle⟩ := (exact m).mp member
      exact absurd cycle (acyclic k)
  · intro order ok
    rcases orderModels_cases distinct parents with ⟨_, placed, spec⟩ | ⟨_, failed, _⟩
    · rw [ok] at placed
      cases placed
      exact spec
    · rw [ok] at failed
      cases failed
  · intro e error
    rcases orderModels_cases distinct parents with ⟨_, placed, _⟩ | ⟨stuck, failed, _, spec⟩
    · rw [error] at placed
      cases placed
    · rw [error] at failed
      cases failed
      exact ⟨stuck, rfl, spec⟩
  · obtain ⟨graph, ok, _⟩ := dependencies_eq parents
    refine ⟨graph, ok, fun passes enough => ?_⟩
    have size : graph.length = definitions.length := by
      simpa using congrArg List.length (names_of_dependencies ok)
    have run : orderModels definitions = placeAll [] graph := by rw [orderModels, ok]; rfl
    rw [run, runPasses_eq (by omega)]

end Declared

/-- Dogs are animals and have litters of dogs. -/
def kennel : List (String × Definition) :=
  [("Dog", { parent := some "zoo.Animal",
             properties := [("litter", .mk (some "array") none none none
               (some (.mk none none (some "#/definitions/Dog") none none false false none))
               false false none)] }),
    ("Animal", {})]

/-- A list of itself keeps no model from being placed, and a parent that is declared later
comes first. -/
theorem orderModels_kennel :
    (kennel.map Prod.fst).Nodup ∧
      (∀ p ∈ kennel, ∀ parent ∈ p.2.parentName, parent ∈ kennel.map Prod.fst) ∧
      orderModels kennel = .ok ["Animal", "Dog"] ∧
      (∀ m, ¬ TransGen (DependsOn kennel) m m) ∧
      Topological (DependsOn kennel) ["Animal", "Dog"] := by
  have distinct : (kennel.map Prod.fst).Nodup := by decide
  have parents : ∀ p ∈ kennel, ∀ parent ∈ p.2.parentName, parent ∈ kennel.map Prod.fst := by
    decide
  have needs : dependencies kennel = .ok [("Dog", ["Animal"]), ("Animal", [])] := rfl
  have order : orderModels kennel = .ok ["Animal", "Dog"] := by
    rw [orderModels, needs]
    simp [bind, Except.bind, placeAll, placeReady]
  have exact := orderModels_exact distinct parents
  exact ⟨distinct, parents, order, exact.1.mp ⟨_, order⟩, (exact.2.1 _ order).2⟩

end ApiContract
