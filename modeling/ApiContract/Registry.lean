import ApiContract.Change
import ApiContract.Model.Basic

/-!
# The registry of models

The registry holds the model sets of the registered APIs. An API is registered once, and a
model that several APIs declare must have the same structure in all of them. Beside the sets
the registry knows for each model the API that declared it first, its owner.

## Main definitions

* `Registry` — the registered sets, in order, and the owners of their models
* `Registry.lookup` — the declaration of a model by its owner
* `Registry.add`, `Registry.register` — a further set, in place or not
-/

namespace ApiContract

/-- Why a set of models is refused. -/
inductive RegistryError where
  | alreadyRegistered (api : String)
  | conflict (model existingApi api diff : String)
  deriving DecidableEq, Repr

/-- The wording of a refusal. -/
def RegistryError.message : RegistryError → String
  | .alreadyRegistered api => s!"API '{api}' is already registered"
  | .conflict model existingApi api diff =>
    s!"model '{model}' of API '{api}' conflicts with the one declared by API " ++
      s!"'{existingApi}':\n{diff}"

/-- The owners of models by name, and the API of a further set for those of its models that
have no owner. -/
def ModelSet.addOwners (owners : List (String × String)) (s : ModelSet) : List (String × String) :=
  s.names.foldl (fun owners name => Members.insertNew name s.api owners) owners

/-- The model sets of the registered APIs, in order of registration, and for each of their
models the API that declared it first. -/
structure Registry where
  sets : List ModelSet := []
  owners : List (String × String) := sets.foldl ModelSet.addOwners []
  deriving DecidableEq, Repr

namespace Registry

/-- The registry without APIs. -/
def empty : Registry := {}

/-- The models of an API. -/
def get? (r : Registry) (api : String) : Option ModelSet :=
  r.sets.find? fun s => s.api == api

/-- Whether an API is registered. -/
def contains (r : Registry) (api : String) : Bool :=
  (r.get? api).isSome

/-- The declaration of a model by its owner. -/
def lookup (r : Registry) (model : String) : Option Model :=
  (Members.lookup model r.owners).bind fun api => (r.get? api).bind fun s => s.get? model

/-- The conflict of a model with the declaration that the registry has, if they differ. -/
def conflict? (r : Registry) (m : Model) (api : String) : Option RegistryError :=
  (r.lookup m.name).bind fun existing =>
    if existing.sameStructure m then none
    else some (.conflict m.name existing.api api (existing.diff m))

/-- Adds a further set in place, unless its API is registered or one of its models conflicts
with what the registry has. -/
def add (s : ModelSet) : Change Registry RegistryError Unit := do
  let r ← get
  if r.contains s.api then throw (.alreadyRegistered s.api)
  else match s.models.findSome? fun m => r.conflict? m s.api with
    | some e => throw e
    | none =>
      modify fun r => { r with owners := s.addOwners r.owners }
      modify fun r => { r with sets := r.sets ++ [s] }

/-- The registry with a further set, or the first reason why the set is refused. -/
def register (r : Registry) (s : ModelSet) : Except RegistryError Registry :=
  (add s).result r

/-- The names of the APIs in increasing order. -/
def apiNames (r : Registry) : List String :=
  Members.sortTexts (r.sets.map (·.api))

end Registry

end ApiContract
