import ApiContract.Json.Read
import ApiContract.Proofs.Fallible
import ApiContract.Proofs.Json.Value
import ApiContract.Yaml.Value

/-!
# Values whose keys increase

However a text is written, the value that is read of it has the keys of each object in order,
and each key once: a member is then what is found under its key.

## Main definitions

* `Json.Ordered` — the keys of every object increase

## Main results

* `Json.ordered_sorted`, `Json.ordered_of_read` — of JSON
* `Yaml.ordered_of_jsonOf?` — of YAML
-/

namespace ApiContract

namespace Json

/-- The keys of every object within a value increase. -/
inductive Ordered : Json → Prop
  | atom (json : Json) (alone : json.isAtom) : Ordered json
  | arr (items : List Json) (each : ∀ item ∈ items, Ordered item) : Ordered (.arr items)
  | obj (members : List (String × Json)) (sorted : Members.Sorted members)
      (each : ∀ p ∈ members, Ordered p.2) : Ordered (.obj members)

namespace Ordered

variable {members : List (String × Json)} {key : String} {json : Json}

theorem sorted (ordered : (Json.obj members).Ordered) : Members.Sorted members := by
  cases ordered with
  | atom _ alone => cases alone
  | obj _ sorted _ => exact sorted

theorem nodup (ordered : (Json.obj members).Ordered) : (Members.keys members).Nodup :=
  ordered.sorted.nodup_keys

theorem member (ordered : (Json.obj members).Ordered) {p : String × Json} (listed : p ∈ members) :
    p.2.Ordered := by
  cases ordered with
  | atom _ alone => cases alone
  | obj _ _ each => exact each p listed

end Ordered

/-- Members that are collected are among the pairs that they are collected of. -/
theorem ordered_ofMembers {pairs : List (String × Json)} (each : ∀ p ∈ pairs, p.2.Ordered) :
    (ofMembers pairs).Ordered := by
  refine .obj _ (Members.sorted_ofList pairs) fun p listed => ?_
  -- What is collected for a key is the last of its pairs, and so one of them.
  have found := Members.lookup_of_mem (Members.sorted_ofList pairs).nodup_keys listed
  rw [Members.lookup_ofList_reverse] at found
  exact each p (List.mem_reverse.mp (Members.mem_of_lookup found))

theorem ordered_ofFloat (x : Float) : (ofFloat x).Ordered := by
  rw [ofFloat]
  split <;> exact .atom _ rfl

/-! ### JSON -/

theorem sortedItems_eq (items : List Json) : sortedItems items = items.map sorted := by
  induction items with
  | nil => rfl
  | cons item rest ih => rw [sortedItems, ih, List.map_cons]

theorem sortedValues_eq (members : List (String × Json)) :
    sortedValues members = members.map fun p => (p.1, p.2.sorted) := by
  induction members with
  | nil => rfl
  | cons p rest ih => rw [sortedValues, ih, List.map_cons]

theorem ordered_sorted (json : Json) : json.sorted.Ordered := by
  induction json using parts_induction with
  | atom json alone =>
    have same : json.sorted = json := by cases json <;> first | rfl | cases alone
    rw [same]
    exact .atom json alone
  | arr items ih =>
    rw [sorted, sortedItems_eq]
    refine .arr _ fun item listed => ?_
    obtain ⟨before, among, rfl⟩ := List.mem_map.mp listed
    exact ih before among
  | obj members ih =>
    rw [sorted, sortedValues_eq]
    refine ordered_ofMembers fun p listed => ?_
    obtain ⟨before, among, rfl⟩ := List.mem_map.mp listed
    exact ih before among

theorem ordered_of_read {text : String} {json : Json} (done : Json.read text = some json) :
    json.Ordered := by
  obtain ⟨written, _, rfl⟩ := Option.map_eq_some_iff.mp done
  exact ordered_sorted written

end Json

/-! ### YAML -/

namespace Yaml

theorem ordered_of_jsonOfScalar? {tag : Option String} {plain : Bool} {text : String} {json : Json}
    (done : jsonOfScalar? tag plain text = some json) : json.Ordered := by
  obtain ⟨value, _, done⟩ := Option.bind_eq_some_iff.mp done
  split at done
  · obtain rfl := Option.some.inj done
    exact .atom _ rfl
  · obtain rfl := Option.some.inj done
    exact .atom _ rfl
  · obtain rfl := Option.some.inj done
    exact .atom _ rfl
  · obtain rfl := Option.some.inj done
    exact Json.ordered_ofFloat _
  · obtain rfl := Option.some.inj done
    exact .atom _ rfl
  · cases done

theorem ordered_of_jsonOf? {depth : Nat} {node : Node} {json : Json}
    (done : jsonOf? depth node = some json) : json.Ordered := by
  induction depth generalizing node json with
  | zero =>
    rw [jsonOf?.eq_def] at done
    dsimp only at done
    split at done
    · cases done
    · cases node with
      | scalar tag plain text => exact ordered_of_jsonOfScalar? done
      | sequence tag items => cases done
      | mapping tag pairs => cases done
  | succ depth ih =>
    rw [jsonOf?.eq_def] at done
    dsimp only at done
    split at done
    · cases done
    · cases node with
      | scalar tag plain text => exact ordered_of_jsonOfScalar? done
      | sequence tag items =>
        obtain ⟨items, collected, rfl⟩ := Option.map_eq_some_iff.mp done
        refine .arr _ fun item listed => ?_
        obtain ⟨_, _, given⟩ := exists_of_mem_mapM collected listed
        exact ih given
      | mapping tag pairs =>
        obtain ⟨members, collected, done⟩ := Option.bind_eq_some_iff.mp done
        obtain rfl := Option.some.inj done
        refine Json.ordered_ofMembers fun p listed => ?_
        obtain ⟨_, _, given⟩ := exists_of_mem_mapM collected listed
        obtain ⟨_, _, given⟩ := Option.bind_eq_some_iff.mp given
        obtain ⟨_, value, given⟩ := Option.bind_eq_some_iff.mp given
        obtain rfl := Option.some.inj given
        exact ih value

end Yaml

end ApiContract
