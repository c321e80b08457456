/-!
# Changes in place

## Main definitions

* `Change` — changes of a state that may fail on their way
* `Change.on` — how a change ends, and the state afterwards
* `Change.result` — the changed state, if the change succeeds
-/

namespace ApiContract

/-- Changes of a state that may fail. What is changed before a failure stays changed. -/
abbrev Change (σ ε : Type) : Type → Type := ExceptT ε (StateM σ)

namespace Change

variable {σ ε : Type}

/-- How a change ends, and the state afterwards. -/
def on (change : Change σ ε Unit) (s : σ) : Except ε Unit × σ :=
  StateT.run (ExceptT.run change) s

/-- The changed state, if the change succeeds. -/
def result (change : Change σ ε Unit) (s : σ) : Except ε σ :=
  match change.on s with
  | (.ok _, t) => .ok t
  | (.error e, _) => .error e

end Change

end ApiContract
