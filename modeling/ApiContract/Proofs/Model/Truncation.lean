import ApiContract.Proofs.Model.Writing
import ApiContract.Proofs.Time.Timestamp

/-!
# Values as precise as they are written

Timestamps are written to the microsecond. A value whose timestamps are cut to that is
written as the value itself, at every depth.

## Main definitions

* `Value.truncated`, `Instance.truncated` — with every timestamp cut to the microsecond

## Main results

* `Value.parts_induction` — what holds of a value when it holds of its parts, holds of all
* `Value.encode_truncated` — what is cut off is not written
-/

namespace ApiContract

namespace Value

/-- Whether a value has neither items nor slots. -/
def isAtom : Value → Bool
  | .list _ => false
  | .model .. => false
  | _ => true

mutual

/-- What holds of each value when it holds of its items and slots, holds of all. -/
@[elab_as_elim]
theorem parts_induction {holds : Value → Prop} (atom : ∀ v, v.isAtom → holds v)
    (list : ∀ items, (∀ v ∈ items, holds v) → holds (.list items))
    (model : ∀ m slots, (∀ p ∈ slots, holds p.2) → holds (.model m slots)) : ∀ v, holds v
  | .list items => list items (items_induction atom list model items)
  | .model m slots => model m slots (slots_induction atom list model slots)
  | .null => atom _ rfl
  | .bool _ => atom _ rfl
  | .integer _ => atom _ rfl
  | .number _ => atom _ rfl
  | .string _ => atom _ rfl
  | .timestamp _ => atom _ rfl
  | .bytes _ => atom _ rfl

private theorem items_induction {holds : Value → Prop} (atom : ∀ v, v.isAtom → holds v)
    (list : ∀ items, (∀ v ∈ items, holds v) → holds (.list items))
    (model : ∀ m slots, (∀ p ∈ slots, holds p.2) → holds (.model m slots)) :
    ∀ items : List Value, ∀ v ∈ items, holds v
  | [], _, member => nomatch member
  | first :: rest, _, member => by
    rcases List.mem_cons.mp member with same | later
    · exact same ▸ parts_induction atom list model first
    · exact items_induction atom list model rest _ later

private theorem slots_induction {holds : Value → Prop} (atom : ∀ v, v.isAtom → holds v)
    (list : ∀ items, (∀ v ∈ items, holds v) → holds (.list items))
    (model : ∀ m slots, (∀ p ∈ slots, holds p.2) → holds (.model m slots)) :
    ∀ slots : List (String × Value), ∀ p ∈ slots, holds p.2
  | [], _, member => nomatch member
  | (_, first) :: rest, _, member => by
    rcases List.mem_cons.mp member with same | later
    · exact same ▸ parts_induction atom list model first
    · exact slots_induction atom list model rest _ later

end

mutual

/-- A value with every timestamp cut to the microsecond. -/
def truncated : Value → Value
  | .timestamp t => .timestamp t.truncated
  | .list items => .list (truncatedItems items)
  | .model m slots => .model m (truncatedSlots slots)
  | v => v

/-- Values with every timestamp cut to the microsecond. -/
def truncatedItems : List Value → List Value
  | [] => []
  | v :: rest => v.truncated :: truncatedItems rest

/-- Slots with every timestamp in them cut to the microsecond. -/
def truncatedSlots : List (String × Value) → List (String × Value)
  | [] => []
  | (k, v) :: rest => (k, v.truncated) :: truncatedSlots rest

end

theorem truncatedItems_eq (items : List Value) : truncatedItems items = items.map truncated := by
  induction items with
  | nil => rfl
  | cons v rest ih => rw [truncatedItems, ih, List.map_cons]

theorem truncatedSlots_eq (slots : List (String × Value)) :
    truncatedSlots slots = slots.map fun p => (p.1, p.2.truncated) := by
  induction slots with
  | nil => rfl
  | cons p rest ih => rw [truncatedSlots, ih, List.map_cons]

theorem lookup_truncatedSlots (key : String) (slots : List (String × Value)) :
    Members.lookup key (truncatedSlots slots) = (Members.lookup key slots).map truncated := by
  rw [truncatedSlots_eq]
  exact Members.lookup_map (fun _ => truncated) key slots

theorem sorted_truncatedSlots {slots : List (String × Value)} (sorted : Members.Sorted slots) :
    Members.Sorted (truncatedSlots slots) := by
  rw [truncatedSlots_eq]
  exact List.pairwise_map.mpr sorted

/-- In the default pattern, what is cut off is not written. -/
theorem encode_truncated {c : Codec} (pattern : c.writeTimestamp = Codec.default.writeTimestamp)
    (v : Value) : v.truncated.encode c = v.encode c := by
  induction v using parts_induction with
  | atom v atom =>
    cases v with
    | timestamp t =>
      rw [truncated, encode, encode, pattern]
      exact congrArg Json.str t.format_truncated
    | list => cases atom
    | model => cases atom
    | _ => rfl
  | list items ih =>
    rw [truncated, encode, encode, encodeItems_eq, encodeItems_eq, truncatedItems_eq, List.map_map]
    exact congrArg Json.arr (List.map_congr_left ih)
  | model m slots ih =>
    have written : encodeSlots c (truncatedSlots slots) = encodeSlots c slots := by
      rw [encodeSlots_eq, encodeSlots_eq, truncatedSlots_eq, List.map_map]
      exact List.map_congr_left fun p member => Prod.ext rfl (ih p member)
    rw [truncated, encode_model, encode_model, members, members, written]

end Value

/-- An instance with every timestamp in it cut to the microsecond. -/
def Instance.truncated (i : Instance) : Instance :=
  { i with slots := Value.truncatedSlots i.slots }

theorem Value.truncated_ofInstance (i : Instance) :
    (Value.ofInstance i).truncated = Value.ofInstance i.truncated := by
  rw [ofInstance, truncated]
  rfl

end ApiContract
