import ApiContract.Contract.Typing

/-!
# The order of models

A model depends on its parent and on the models that its properties need. It may hold lists
of itself, which is no dependency. Models are put in an order in which each comes after all
that it depends on: pass after pass over the models that are left, each one whose
dependencies are placed is placed, in the order of declaration. A pass that places none
shows that the models left depend on each other in a cycle.

## Main definitions

* `Document.dependencies` — what each declared model depends on
* `placeReady`, `placeAll` — one pass, and all of them
* `Document.order` — the order of the declared models
-/

namespace ApiContract

/-- The models that a definition needs through its properties, in order. -/
def Definition.needs (d : Definition) (name : String) (known : List String) : List String :=
  d.properties.filterMap fun (_, p) =>
    match p.dependency? known with
    | some (model, throughArray) => if throughArray && model == name then none else some model
    | none => none

/-- What a definition depends on, each model once: its parent and then the models that its
properties need. -/
def Definition.dependencies (d : Definition) (name : String) (known : List String) :
    Except ContractError (List String) :=
  match d.parentName with
  | none => .ok (Members.distinct (d.needs name known))
  | some parent =>
    if known.contains parent then .ok (Members.distinct (parent :: d.needs name known))
    else .error (.invalidParent name parent)

/-- What each declared model depends on, in the order of declaration. -/
def dependencies (definitions : List (String × Definition)) :
    Except ContractError (List (String × List String)) :=
  let known := definitions.map Prod.fst
  definitions.mapM fun (name, d) => do return (name, ← d.dependencies name known)

/-- One pass over the models that are left, given those placed so far: the models placed
now, after the others, and the models still left. -/
def placeReady (placed : List String) :
    List (String × List String) → List String × List (String × List String)
  | [] => (placed, [])
  | (name, needs) :: rest =>
    if needs.all placed.contains then placeReady (placed ++ [name]) rest
    else
      let (placed, left) := placeReady placed rest
      (placed, (name, needs) :: left)

/-- A pass leaves no more models than there were. -/
theorem placeReady_length (placed : List String) (left : List (String × List String)) :
    (placeReady placed left).2.length ≤ left.length := by
  induction left generalizing placed with
  | nil => simp [placeReady]
  | cons m rest ih =>
    simp only [placeReady]
    split
    · exact Nat.le_succ_of_le (ih _)
    · simpa using ih placed

/-- Passes until no model is left, or none can be placed. -/
def placeAll (placed : List String) (left : List (String × List String)) :
    Except ContractError (List String) :=
  match left with
  | [] => .ok placed
  | m :: rest =>
    let next := placeReady placed (m :: rest)
    if _ : next.2.length < (m :: rest).length then placeAll next.1 next.2
    else .error (.cyclicDependency (next.2.map Prod.fst))
termination_by left.length
decreasing_by assumption

/-- The declared models in an order in which each comes after all that it depends on. -/
def orderModels (definitions : List (String × Definition)) :
    Except ContractError (List String) := do
  placeAll [] (← dependencies definitions)

end ApiContract
