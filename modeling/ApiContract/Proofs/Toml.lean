import ApiContract.Proofs.Json.Ordered
import ApiContract.Toml.Read

/-!
# What a TOML document reads as

A table of a document becomes an object with increasing keys, whichever way it came into being.
It is enough that the values in it have increasing keys, which every step that adds to the
document keeps.

## Main definitions

* `Toml.Item.Ordered`, `Toml.Table.Ordered` — the values in an item or a table have increasing
  keys

## Main results

* `Toml.Table.Ordered.at?` — a change below a path that keeps this of one table keeps it of all
* `Toml.ordered_readValue` — the values of a document
* `Toml.ordered_of_read` — documents
-/

namespace ApiContract.Toml

/-- The values within an item have increasing keys. -/
inductive Item.Ordered : Item → Prop
  | value (json : Json) (ordered : json.Ordered) : Ordered (.value json)
  | table (origin : Origin) (entries : List (String × Item))
      (each : ∀ p ∈ entries, Ordered p.2) : Ordered (.table origin entries)
  | tables (items : List (List (String × Item)))
      (each : ∀ t ∈ items, ∀ p ∈ t, Ordered p.2) : Ordered (.tables items)

/-- The values within a table have increasing keys. -/
def Table.Ordered (t : Table) : Prop := ∀ p ∈ t, p.2.Ordered

variable {t t' : Table} {key : String} {item : Item} {json : Json} {path : List String}

/-! ### Tables as JSON -/

theorem Table.ordered_jsonOfEntries {convert : Item → Json}
    (each : ∀ p ∈ t, (convert p.2).Ordered) : (Table.jsonOfEntries convert t).Ordered := by
  refine Json.ordered_ofMembers fun p listed => ?_
  obtain ⟨entry, among, rfl⟩ := List.mem_map.mp listed
  exact each entry among

theorem Item.Ordered.toJson {depth : Nat} (ordered : item.Ordered) :
    (item.toJson depth).Ordered := by
  induction depth generalizing item with
  | zero =>
    cases ordered with
    | value json ordered => exact ordered
    | table origin entries each => exact .atom _ rfl
    | tables items each => exact .atom _ rfl
  | succ depth ih =>
    cases ordered with
    | value json ordered => exact ordered
    | table origin entries each =>
      exact Table.ordered_jsonOfEntries fun p listed => ih (each p listed)
    | tables items each =>
      refine .arr _ fun j listed => ?_
      obtain ⟨entries, among, rfl⟩ := List.mem_map.mp listed
      exact Table.ordered_jsonOfEntries fun p inside => ih (each entries among p inside)

/-! ### Changes of tables -/

namespace Table

theorem Ordered.nil : Table.Ordered [] := fun _ listed => nomatch listed

theorem Ordered.lookup (ordered : t.Ordered) (found : Members.lookup key t = some item) :
    item.Ordered :=
  ordered (key, item) (Members.mem_of_lookup found)

theorem Ordered.insert (ordered : t.Ordered) (added : item.Ordered) :
    Table.Ordered (Members.insert key item t) := by
  intro p listed
  rcases Members.mem_insert listed with rfl | before
  · exact added
  · exact ordered p before

theorem Ordered.toJson {depth : Nat} (ordered : t.Ordered) : (Table.toJson depth t).Ordered :=
  ordered_jsonOfEntries fun p listed => (ordered p listed).toJson

/-- What a change keeps of one table, it keeps of the table that encloses it. -/
theorem Ordered.at? {dotted : Bool} {change : Origin → Table → Option Table}
    (keep : ∀ origin t t', t.Ordered → change origin t = some t' → t'.Ordered) {origin : Origin}
    (ordered : t.Ordered) (changed : Table.at? dotted change path origin t = some t') :
    t'.Ordered := by
  induction path generalizing origin t t' with
  | nil => exact keep origin t t' ordered changed
  | cons key rest ih =>
    rw [Table.at?] at changed
    split at changed
    · -- There is no table on the way yet, and the one that is made starts out empty.
      obtain ⟨below, made, changed⟩ := Option.bind_eq_some_iff.mp changed
      obtain rfl := Option.some.inj changed
      exact ordered.insert (.table _ _ (ih .nil made))
    · cases changed
    · rename_i inner entries found
      split at changed
      · cases changed
      · obtain ⟨below, made, changed⟩ := Option.bind_eq_some_iff.mp changed
        obtain rfl := Option.some.inj changed
        have inside := ordered.lookup found
        cases inside with
        | table _ _ each => exact ordered.insert (.table _ _ (ih each made))
    · rename_i items found
      split at changed
      · cases changed
      · rename_i last before reversed
        obtain ⟨below, made, changed⟩ := Option.bind_eq_some_iff.mp changed
        obtain rfl := Option.some.inj changed
        have inside := ordered.lookup found
        cases inside with
        | tables _ each =>
          -- Only the last table of the array is changed.
          have among : ∀ t ∈ last :: before, t ∈ items := fun t listed =>
            List.mem_reverse.mp (reversed ▸ listed)
          refine ordered.insert (.tables _ fun t listed => ?_)
          rcases List.mem_cons.mp (List.mem_reverse.mp listed) with rfl | earlier
          · exact ih (each last (among last List.mem_cons_self)) made
          · exact each t (among t (List.mem_cons_of_mem _ earlier))

theorem Ordered.assign? (ordered : t.Ordered) (value : json.Ordered)
    (changed : t.assign? path key json = some t') : t'.Ordered := by
  refine ordered.at? (fun origin t t' ordered changed => ?_) changed
  split at changed
  · cases changed
  · obtain rfl := Option.some.inj changed
    exact ordered.insert (.value json value)

theorem Ordered.open? (ordered : t.Ordered) (changed : t.open? path key = some t') :
    t'.Ordered := by
  refine ordered.at? (fun origin t t' ordered changed => ?_) changed
  split at changed
  · obtain rfl := Option.some.inj changed
    exact ordered.insert (.table _ _ Ordered.nil)
  · rename_i entries found
    obtain rfl := Option.some.inj changed
    have inside := ordered.lookup found
    cases inside with
    | table _ _ each => exact ordered.insert (.table _ _ each)
  · cases changed

theorem Ordered.append? (ordered : t.Ordered) (changed : t.append? path key = some t') :
    t'.Ordered := by
  refine ordered.at? (fun origin t t' ordered changed => ?_) changed
  split at changed
  · obtain rfl := Option.some.inj changed
    refine ordered.insert (.tables _ fun entries listed => ?_)
    obtain rfl := List.mem_singleton.mp listed
    exact Ordered.nil
  · rename_i items found
    obtain rfl := Option.some.inj changed
    have inside := ordered.lookup found
    cases inside with
    | tables _ each =>
      refine ordered.insert (.tables _ fun entries listed => ?_)
      rcases List.mem_append.mp listed with before | last
      · exact each entries before
      · obtain rfl := List.mem_singleton.mp last
        exact Ordered.nil
  · cases changed

end Table

/-! ### Values -/

theorem ordered_whole? {n : Int} (read : whole? n = some json) : json.Ordered := by
  rw [whole?] at read
  split at read
  · obtain rfl := Option.some.inj read
    exact .atom _ rfl
  · cases read

theorem ordered_readMarked {base : Nat} {cs rest : List Char}
    (read : readMarked base cs = some (json, rest)) : json.Ordered := by
  obtain ⟨_, _, read⟩ := Option.bind_eq_some_iff.mp read
  obtain ⟨n, whole, read⟩ := Option.bind_eq_some_iff.mp read
  obtain ⟨rfl, _⟩ := Prod.mk.inj (Option.some.inj read)
  exact ordered_whole? whole

theorem ordered_readUnsigned {negative : Bool} {cs rest : List Char}
    (read : readUnsigned negative cs = some (json, rest)) : json.Ordered := by
  obtain ⟨_, _, read⟩ := Option.bind_eq_some_iff.mp read
  obtain ⟨_, _, read⟩ := Option.bind_eq_some_iff.mp read
  obtain ⟨_, _, read⟩ := Option.bind_eq_some_iff.mp read
  dsimp only at read
  split at read
  · obtain ⟨n, whole, read⟩ := Option.bind_eq_some_iff.mp read
    obtain ⟨rfl, _⟩ := Prod.mk.inj (Option.some.inj read)
    exact ordered_whole? whole
  · obtain ⟨_, _, read⟩ := Option.bind_eq_some_iff.mp read
    split at read
    · cases read
    · obtain ⟨rfl, _⟩ := Prod.mk.inj (Option.some.inj read)
      exact Json.ordered_ofFloat _

theorem ordered_readNumber {cs rest : List Char} (read : readNumber cs = some (json, rest)) :
    json.Ordered := by
  rw [readNumber.eq_def] at read
  split at read
  · exact ordered_readMarked read
  · exact ordered_readMarked read
  · exact ordered_readMarked read
  · split at read
    · obtain ⟨rfl, _⟩ := Prod.mk.inj (Option.some.inj read)
      exact .atom _ rfl
    · obtain ⟨rfl, _⟩ := Prod.mk.inj (Option.some.inj read)
      exact .atom _ rfl
    · exact ordered_readUnsigned read

theorem ordered_readMoment {cs rest : List Char} (read : readMoment cs = some (json, rest)) :
    json.Ordered := by
  obtain ⟨_, _, read⟩ := Option.bind_eq_some_iff.mp read
  obtain ⟨rfl, _⟩ := Prod.mk.inj (Option.some.inj read)
  refine .obj _ (List.pairwise_singleton _ _) fun p listed => ?_
  obtain rfl := List.mem_singleton.mp listed
  exact .atom _ rfl

/-- Values, the items of an array and the members of an inline table are read by one another;
the induction is on the fuel of all three. -/
theorem ordered_readValue (fuel : Nat) :
    (∀ depth cs json rest, readValue fuel depth cs = some (json, rest) → json.Ordered) ∧
      (∀ depth items cs json rest, (∀ item ∈ items, item.Ordered) →
        readItems fuel depth items cs = some (json, rest) → json.Ordered) ∧
      ∀ depth t cs json rest, Table.Ordered t →
        readPairs fuel depth t cs = some (json, rest) → json.Ordered := by
  induction fuel with
  | zero =>
    refine ⟨fun depth cs json rest read => ?_, fun depth items cs json rest _ read => ?_,
      fun depth t cs json rest _ read => ?_⟩
    · rw [readValue.eq_def] at read
      cases read
    · rw [readItems.eq_def] at read
      cases read
    · rw [readPairs.eq_def] at read
      cases read
  | succ fuel ih =>
    obtain ⟨values, arrays, tables⟩ := ih
    refine ⟨fun depth cs json rest read => ?_, fun depth items cs json rest each read => ?_,
      fun depth t cs json rest ordered read => ?_⟩
    · rw [readValue.eq_def] at read
      dsimp only at read
      split at read
      · split at read
        · cases read
        · exact arrays _ _ _ _ _ (by simp) read
      · split at read
        · cases read
        · split at read
          · obtain ⟨rfl, _⟩ := Prod.mk.inj (Option.some.inj read)
            exact .obj _ .nil (by simp)
          · exact tables _ _ _ _ _ .nil read
      · obtain ⟨rfl, _⟩ := Prod.mk.inj (Option.some.inj read)
        exact .atom _ rfl
      · obtain ⟨rfl, _⟩ := Prod.mk.inj (Option.some.inj read)
        exact .atom _ rfl
      · obtain ⟨_, _, read⟩ := Option.map_eq_some_iff.mp read
        obtain ⟨rfl, _⟩ := Prod.mk.inj read
        exact .atom _ rfl
      · obtain ⟨_, _, read⟩ := Option.map_eq_some_iff.mp read
        obtain ⟨rfl, _⟩ := Prod.mk.inj read
        exact .atom _ rfl
      · split at read
        · exact ordered_readMoment read
        · exact ordered_readNumber read
    · rw [readItems.eq_def] at read
      dsimp only at read
      obtain ⟨next, _, read⟩ := Option.bind_eq_some_iff.mp read
      split at read
      · obtain ⟨rfl, _⟩ := Prod.mk.inj (Option.some.inj read)
        exact .arr items each
      · obtain ⟨⟨item, after⟩, first, read⟩ := Option.bind_eq_some_iff.mp read
        -- The items that are read already wait in front of the one that is read now.
        have each : ∀ other ∈ items ++ [item], other.Ordered := by
          intro other listed
          rcases List.mem_append.mp listed with before | last
          · exact each other before
          · obtain rfl := List.mem_singleton.mp last
            exact values _ _ _ _ first
        obtain ⟨next, _, read⟩ := Option.bind_eq_some_iff.mp read
        split at read
        · exact arrays _ _ _ _ _ each read
        · obtain ⟨rfl, _⟩ := Prod.mk.inj (Option.some.inj read)
          exact .arr _ each
        · cases read
    · rw [readPairs.eq_def] at read
      dsimp only at read
      obtain ⟨⟨⟨path, key⟩, _⟩, _, read⟩ := Option.bind_eq_some_iff.mp read
      obtain ⟨_, _, read⟩ := Option.bind_eq_some_iff.mp read
      obtain ⟨⟨value, _⟩, first, read⟩ := Option.bind_eq_some_iff.mp read
      obtain ⟨more, added, read⟩ := Option.bind_eq_some_iff.mp read
      have ordered := ordered.assign? (values _ _ _ _ first) added
      split at read
      · exact tables _ _ _ _ _ ordered read
      · obtain ⟨rfl, _⟩ := Prod.mk.inj (Option.some.inj read)
        exact ordered.toJson
      · cases read

/-! ### Documents -/

namespace Document

variable {d d' : Document}

theorem ordered_assign? (ordered : d.root.Ordered) (value : json.Ordered)
    (added : d.assign? path key json = some d') : d'.root.Ordered := by
  obtain ⟨root, changed, added⟩ := Option.bind_eq_some_iff.mp added
  obtain rfl := Option.some.inj added
  exact ordered.at? (fun _ _ _ ordered changed => ordered.assign? value changed) changed

theorem ordered_header? {array : Bool} (ordered : d.root.Ordered)
    (added : d.header? array path key = some d') : d'.root.Ordered := by
  rw [header?] at added
  split at added
  · obtain ⟨root, changed, added⟩ := Option.bind_eq_some_iff.mp added
    obtain rfl := Option.some.inj added
    exact ordered.append? changed
  · obtain ⟨root, changed, added⟩ := Option.bind_eq_some_iff.mp added
    obtain rfl := Option.some.inj added
    exact ordered.open? changed

theorem ordered_line? {cs rest : List Char} (ordered : d.root.Ordered)
    (read : d.line? cs = some (d', rest)) : d'.root.Ordered := by
  rw [line?] at read
  split at read
  · obtain ⟨_, _, read⟩ := Option.bind_eq_some_iff.mp read
    obtain ⟨_, _, read⟩ := Option.bind_eq_some_iff.mp read
    obtain ⟨_, header, read⟩ := Option.bind_eq_some_iff.mp read
    obtain ⟨_, _, read⟩ := Option.bind_eq_some_iff.mp read
    obtain ⟨rfl, _⟩ := Prod.mk.inj (Option.some.inj read)
    exact ordered_header? ordered header
  · obtain ⟨_, _, read⟩ := Option.bind_eq_some_iff.mp read
    obtain ⟨_, _, read⟩ := Option.bind_eq_some_iff.mp read
    obtain ⟨_, header, read⟩ := Option.bind_eq_some_iff.mp read
    obtain ⟨_, _, read⟩ := Option.bind_eq_some_iff.mp read
    obtain ⟨rfl, _⟩ := Prod.mk.inj (Option.some.inj read)
    exact ordered_header? ordered header
  · split at read
    · obtain ⟨rfl, _⟩ := Prod.mk.inj (Option.some.inj read)
      exact ordered
    · obtain ⟨_, _, read⟩ := Option.bind_eq_some_iff.mp read
      obtain ⟨_, _, read⟩ := Option.bind_eq_some_iff.mp read
      obtain ⟨⟨value, _⟩, first, read⟩ := Option.bind_eq_some_iff.mp read
      obtain ⟨_, added, read⟩ := Option.bind_eq_some_iff.mp read
      obtain ⟨_, _, read⟩ := Option.bind_eq_some_iff.mp read
      obtain ⟨rfl, _⟩ := Prod.mk.inj (Option.some.inj read)
      exact ordered_assign? ordered ((ordered_readValue _).1 _ _ _ _ first) added

theorem ordered_lines? {fuel : Nat} {cs : List Char} (ordered : d.root.Ordered)
    (read : lines? fuel d cs = some d') : d'.root.Ordered := by
  induction fuel generalizing d cs with
  | zero =>
    cases cs with
    | nil =>
      obtain rfl := Option.some.inj read
      exact ordered
    | cons c rest => cases read
  | succ fuel ih =>
    cases cs with
    | nil =>
      obtain rfl := Option.some.inj read
      exact ordered
    | cons c rest =>
      obtain ⟨⟨next, _⟩, line, read⟩ := Option.bind_eq_some_iff.mp read
      exact ih (ordered_line? ordered line) read

end Document

theorem ordered_of_read {text : String} (done : Toml.read text = some json) : json.Ordered := by
  obtain ⟨d, lines, done⟩ := Option.bind_eq_some_iff.mp done
  obtain rfl := Option.some.inj done
  exact (Document.ordered_lines? .nil lines).toJson

end ApiContract.Toml
