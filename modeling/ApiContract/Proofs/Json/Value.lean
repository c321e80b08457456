import ApiContract.Decimal.Bound
import ApiContract.Json.Value
import ApiContract.Proofs.Members

/-!
# What JSON values are made of

## Main definitions

* `Json.WellFormed` — whole numbers fit 64 bits, floats are finite and keys increase

## Main results

* `Json.parts_induction` — what holds of a value when it holds of its items and members, holds
  of every value
* `Json.isNull_iff`, `Json.asBool?_eq_some_iff`, `Json.asStr?_eq_some_iff`,
  `Json.asInt64?_eq_some_iff`, `Json.exists_asFloat?_iff` — the values of each kind
-/

namespace ApiContract.Json

/-- Whether a value has neither items nor members. -/
def isAtom : Json → Bool
  | .arr _ => false
  | .obj _ => false
  | _ => true

/-- What a JSON value can be: a whole number fits 64 bits, with or without a sign, a float is
neither an infinity nor not a number, and the keys of an object increase. -/
inductive WellFormed : Json → Prop
  | null : WellFormed .null
  | bool (b : Bool) : WellFormed (.bool b)
  | int (n : Int) (fits : Decimal.fits64 n) : WellFormed (.int n)
  | float (x : Float) (finite : Decimal.isFinite x) : WellFormed (.float x)
  | str (s : String) : WellFormed (.str s)
  | arr (items : List Json) (each : ∀ item ∈ items, WellFormed item) : WellFormed (.arr items)
  | obj (members : List (String × Json)) (sorted : Members.Sorted members)
      (each : ∀ p ∈ members, WellFormed p.2) : WellFormed (.obj members)

/-! ### Values of each kind -/

theorem isNull_iff {json : Json} : json.isNull = true ↔ json = .null := by
  cases json <;> simp [isNull]

theorem isNull_eq_false_iff {json : Json} : json.isNull = false ↔ json ≠ .null := by
  cases json <;> simp [isNull]

theorem asBool?_eq_some_iff {json : Json} {b : Bool} : json.asBool? = some b ↔ json = .bool b := by
  cases json <;> simp [asBool?]

theorem asStr?_eq_some_iff {json : Json} {text : String} :
    json.asStr? = some text ↔ json = .str text := by
  cases json <;> simp [asStr?]

theorem asInt64?_eq_some_iff {json : Json} {k : Int64} :
    json.asInt64? = some k ↔ ∃ n, json = .int n ∧ Decimal.isInt64 n ∧ Int64.ofInt n = k := by
  cases json <;> simp [asInt64?]

theorem exists_asFloat?_iff {json : Json} :
    (∃ x, json.asFloat? = some x) ↔ (∃ n, json = .int n) ∨ ∃ x, json = .float x := by
  cases json <;> simp [asFloat?]

/-! ### Parts of values -/

mutual

/-- What holds of each value when it holds of its items and members, holds of all. -/
@[elab_as_elim]
theorem parts_induction {holds : Json → Prop} (atom : ∀ json, json.isAtom → holds json)
    (arr : ∀ items, (∀ item ∈ items, holds item) → holds (.arr items))
    (obj : ∀ members, (∀ p ∈ members, holds p.2) → holds (.obj members)) : ∀ json, holds json
  | .arr items => arr items (items_induction atom arr obj items)
  | .obj members => obj members (members_induction atom arr obj members)
  | .null => atom _ rfl
  | .bool _ => atom _ rfl
  | .int _ => atom _ rfl
  | .float _ => atom _ rfl
  | .str _ => atom _ rfl

private theorem items_induction {holds : Json → Prop} (atom : ∀ json, json.isAtom → holds json)
    (arr : ∀ items, (∀ item ∈ items, holds item) → holds (.arr items))
    (obj : ∀ members, (∀ p ∈ members, holds p.2) → holds (.obj members)) :
    ∀ items : List Json, ∀ item ∈ items, holds item
  | [], _, member => nomatch member
  | first :: rest, _, member => by
    rcases List.mem_cons.mp member with same | later
    · exact same ▸ parts_induction atom arr obj first
    · exact items_induction atom arr obj rest _ later

private theorem members_induction {holds : Json → Prop}
    (atom : ∀ json, json.isAtom → holds json)
    (arr : ∀ items, (∀ item ∈ items, holds item) → holds (.arr items))
    (obj : ∀ members, (∀ p ∈ members, holds p.2) → holds (.obj members)) :
    ∀ members : List (String × Json), ∀ p ∈ members, holds p.2
  | [], _, member => nomatch member
  | (_, first) :: rest, _, member => by
    rcases List.mem_cons.mp member with same | later
    · exact same ▸ parts_induction atom arr obj first
    · exact members_induction atom arr obj rest _ later

end

end ApiContract.Json
