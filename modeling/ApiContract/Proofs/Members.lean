import ApiContract.Members
import Mathlib.Data.List.Nodup
import Mathlib.Data.String.Basic

/-!
# Laws of members

Members are read by `lookup` alone: insertion and removal change one key, and two lists with
increasing keys are equal once they agree on every key. The order in which members are added
therefore matters only where a key is repeated.

## Main results

* `lookup_insert`, `lookup_erase` — what insertion and removal change
* `Sorted.ext` — members with increasing keys are known by their look-ups
* `ext_of_keys` — members in another order are known by their keys and their look-ups
* `lookup_ofList` — collected pairs, when no key is repeated
* `lookup_putAll`, `nodup_keys_putAll` — pairs in order of first appearance
* `mem_distinct`, `nodup_distinct` — nothing is lost when repetitions are
-/

namespace ApiContract.Members

variable {κ α β : Type}

/-- The keys increase, so each occurs once. -/
def Sorted (members : List (String × α)) : Prop :=
  members.Pairwise fun p q => p.1 < q.1

/-! ### Looking up -/

@[simp] theorem keys_cons (p : κ × α) (rest : List (κ × α)) :
    keys (p :: rest) = p.1 :: keys rest := rfl

section Keys

variable [DecidableEq κ]

@[simp] theorem lookup_nil (key : κ) : lookup key ([] : List (κ × α)) = none := rfl

theorem lookup_cons (key : κ) (p : κ × α) (rest : List (κ × α)) :
    lookup key (p :: rest) = if p.1 = key then some p.2 else lookup key rest := rfl

theorem lookup_append (key : κ) (members others : List (κ × α)) :
    lookup key (members ++ others) = (lookup key members).or (lookup key others) := by
  induction members with
  | nil => rfl
  | cons p rest ih =>
    rw [List.cons_append, lookup_cons, lookup_cons, ih]
    split <;> rfl

theorem mem_of_lookup {key : κ} {value : α} {members : List (κ × α)}
    (found : lookup key members = some value) : (key, value) ∈ members := by
  induction members with
  | nil => simp at found
  | cons p rest ih =>
    rw [lookup_cons] at found
    split at found
    · rename_i same
      obtain rfl := Option.some.inj found
      simp [← same]
    · exact List.mem_cons_of_mem _ (ih found)

theorem lookup_eq_none_iff {key : κ} {members : List (κ × α)} :
    lookup key members = none ↔ key ∉ keys members := by
  induction members with
  | nil => simp [keys]
  | cons p rest ih =>
    rw [lookup_cons, keys_cons, List.mem_cons, not_or, ← ih]
    split
    · rename_i same
      simp [same]
    · rename_i differ
      simp [Ne.symm differ]

theorem isSome_lookup_iff {key : κ} {members : List (κ × α)} :
    (lookup key members).isSome ↔ key ∈ keys members := by
  rw [← not_iff_not, ← lookup_eq_none_iff]
  simp

/-- When keys are distinct, a member is found under its key. -/
theorem lookup_of_mem {key : κ} {value : α} {members : List (κ × α)}
    (distinct : (keys members).Nodup) (member : (key, value) ∈ members) :
    lookup key members = some value := by
  induction members with
  | nil => simp at member
  | cons p rest ih =>
    rw [keys_cons, List.nodup_cons] at distinct
    rw [lookup_cons]
    rcases List.mem_cons.mp member with rfl | later
    · simp
    · have other : p.1 ≠ key := fun same => distinct.1 (List.mem_map.mpr ⟨_, later, same.symm⟩)
      rw [if_neg other]
      exact ih distinct.2 later

/-- Rewriting the values leaves the keys alone. -/
theorem lookup_map (f : κ → α → β) (key : κ) (members : List (κ × α)) :
    lookup key (members.map fun p => (p.1, f p.1 p.2)) = (lookup key members).map (f key) := by
  induction members with
  | nil => rfl
  | cons p rest ih =>
    rw [List.map_cons, lookup_cons, lookup_cons, ih]
    split
    · rename_i same
      simp [← same]
    · rfl

/-! ### Insertion and removal -/

variable [LT κ] [DecidableLT κ]

/-- Insertion changes one key. -/
@[simp] theorem lookup_insert (k key : κ) (value : α) (members : List (κ × α)) :
    lookup k (insert key value members) = if key = k then some value else lookup k members := by
  induction members with
  | nil => rfl
  | cons p rest ih =>
    rw [insert]
    split
    · rfl
    · split
      · rename_i same
        rw [lookup_cons, lookup_cons, same]
        split <;> rfl
      · rename_i differ
        rw [lookup_cons, ih, lookup_cons]
        split
        · rename_i here
          rw [if_neg]
          rintro rfl
          exact differ here
        · rfl

/-- A new member is added only where there is none. -/
theorem lookup_insertNew (k key : κ) (value : α) (members : List (κ × α)) :
    lookup k (insertNew key value members) =
      (lookup k members).or (if key = k then some value else none) := by
  rw [insertNew, contains]
  by_cases same : key = k
  · subst same
    cases here : lookup key members with
    | some old => simp [here]
    | none => simp
  · cases lookup key members with
    | some old => simp [same]
    | none => simp [same]

end Keys

/-- Removal changes one key. -/
@[simp] theorem lookup_erase (k key : String) (members : List (String × α)) :
    lookup k (erase key members) = if key = k then none else lookup k members := by
  induction members with
  | nil => simp [erase]
  | cons p rest ih =>
    rw [erase]
    split
    · rename_i same
      rw [ih, lookup_cons, same]
      split <;> rfl
    · rename_i differ
      rw [lookup_cons, ih, lookup_cons]
      split
      · rename_i here
        rw [if_neg]
        rintro rfl
        exact differ here
      · rfl

theorem mem_insert {p : String × α} {key : String} {value : α} {members : List (String × α)}
    (member : p ∈ insert key value members) : p = (key, value) ∨ p ∈ members := by
  induction members with
  | nil => simpa [insert] using member
  | cons q rest ih =>
    rw [insert] at member
    split at member
    · simpa using member
    · split at member
      · rcases List.mem_cons.mp member with rfl | later
        · exact .inl rfl
        · exact .inr (List.mem_cons_of_mem _ later)
      · rcases List.mem_cons.mp member with rfl | later
        · exact .inr List.mem_cons_self
        · exact (ih later).imp_right (List.mem_cons_of_mem _)

theorem erase_sublist (key : String) (members : List (String × α)) :
    (erase key members).Sublist members := by
  induction members with
  | nil => exact .refl _
  | cons p rest ih =>
    rw [erase]
    split
    · exact ih.cons _
    · exact ih.cons_cons _

theorem erase_of_not_mem {key : String} {members : List (String × α)}
    (absent : key ∉ keys members) : erase key members = members := by
  induction members with
  | nil => rfl
  | cons p rest ih =>
    rw [keys_cons, List.mem_cons, not_or] at absent
    rw [erase, if_neg (Ne.symm absent.1), ih absent.2]

/-- Only the keys matter to the order. -/
theorem sorted_iff_keys {members : List (String × α)} :
    Sorted members ↔ (keys members).Pairwise (· < ·) :=
  List.pairwise_map.symm

namespace Sorted

theorem nil : Sorted ([] : List (String × α)) := List.Pairwise.nil

theorem tail {p : String × α} {rest : List (String × α)} (sorted : Sorted (p :: rest)) :
    Sorted rest :=
  (List.pairwise_cons.mp sorted).2

theorem nodup_keys {members : List (String × α)} (sorted : Sorted members) :
    (keys members).Nodup :=
  List.pairwise_map.mpr (List.Pairwise.imp ne_of_lt sorted)

/-- No key of the rest is the first. -/
theorem lookup_head {p : String × α} {rest : List (String × α)} (sorted : Sorted (p :: rest)) :
    lookup p.1 rest = none := by
  rw [lookup_eq_none_iff]
  intro member
  obtain ⟨q, later, same⟩ := List.mem_map.mp member
  have below := (List.pairwise_cons.mp sorted).1 q later
  rw [same] at below
  exact lt_irrefl _ below

theorem insert {members : List (String × α)} (sorted : Sorted members) (key : String)
    (value : α) : Sorted (insert key value members) := by
  induction members with
  | nil => exact List.pairwise_singleton _ _
  | cons p rest ih =>
    have ahead := (List.pairwise_cons.mp sorted).1
    rw [Members.insert]
    split
    · rename_i below
      refine List.pairwise_cons.mpr ⟨fun q member => ?_, sorted⟩
      rcases List.mem_cons.mp member with rfl | later
      · exact below
      · exact lt_trans below (ahead q later)
    · split
      · rename_i same
        exact List.pairwise_cons.mpr ⟨fun q later => same ▸ ahead q later, sorted.tail⟩
      · rename_i notBelow differ
        refine List.pairwise_cons.mpr ⟨fun q member => ?_, ih sorted.tail⟩
        rcases mem_insert member with rfl | later
        · exact lt_of_le_of_ne (not_lt.mp notBelow) differ
        · exact ahead q later

theorem insertNew {members : List (String × α)} (sorted : Sorted members) (key : String)
    (value : α) : Sorted (insertNew key value members) := by
  rw [Members.insertNew]
  split
  · exact sorted
  · exact sorted.insert key value

theorem erase {members : List (String × α)} (sorted : Sorted members) (key : String) :
    Sorted (erase key members) :=
  List.Pairwise.sublist (erase_sublist key members) sorted

/-- Members with increasing keys are known by their look-ups. -/
theorem ext {as bs : List (String × α)} (left : Sorted as) (right : Sorted bs)
    (same : ∀ key, lookup key as = lookup key bs) : as = bs := by
  induction as generalizing bs with
  | nil =>
    cases bs with
    | nil => rfl
    | cons q rest => simpa [lookup_cons] using same q.1
  | cons p rest ih =>
    cases bs with
    | nil => simpa [lookup_cons] using same p.1
    | cons q more =>
      have onLeft := same p.1
      have onRight := same q.1
      rw [lookup_cons, if_pos rfl, lookup_cons] at onLeft
      rw [lookup_cons, lookup_cons, if_pos rfl] at onRight
      have heads : q.1 = p.1 := by
        by_contra differ
        rw [if_neg differ] at onLeft
        rw [if_neg (Ne.symm differ)] at onRight
        have behind := (List.pairwise_cons.mp right).1 _ (mem_of_lookup onLeft.symm)
        have ahead := (List.pairwise_cons.mp left).1 _ (mem_of_lookup onRight)
        exact lt_asymm behind ahead
      rw [if_pos heads] at onLeft
      have first : p = q := Prod.ext heads.symm (Option.some.inj onLeft)
      subst first
      congr 1
      refine ih left.tail right.tail fun key => ?_
      by_cases here : p.1 = key
      · rw [← here, left.lookup_head, right.lookup_head]
      · simpa [lookup_cons, here] using same key

end Sorted

/-- Members of the same keys in the same order are equal once they agree on every key. -/
theorem ext_of_keys {as bs : List (String × α)} (same : keys as = keys bs)
    (distinct : (keys as).Nodup) (agree : ∀ key, lookup key as = lookup key bs) : as = bs := by
  induction as generalizing bs with
  | nil => exact (List.map_eq_nil_iff.mp same.symm).symm
  | cons p rest ih =>
    cases bs with
    | nil => cases same
    | cons q more =>
      rw [keys_cons, keys_cons, List.cons.injEq] at same
      rw [keys_cons, List.nodup_cons] at distinct
      have first : p = q := by
        have here := agree p.1
        rw [lookup_cons, lookup_cons, if_pos rfl, if_pos same.1.symm] at here
        exact Prod.ext same.1 (Option.some.inj here)
      subst first
      congr 1
      refine ih same.2 distinct.2 fun key => ?_
      by_cases here : p.1 = key
      · -- The key is taken by the first pair, so neither of the rests has it.
        subst here
        have left := lookup_eq_none_iff.mpr distinct.1
        have right := lookup_eq_none_iff.mpr (same.2 ▸ distinct.1)
        rw [left, right]
      · simpa [lookup_cons, here] using agree key

/-! ### Collected pairs -/

private theorem foldl_insert_sorted (pairs members : List (String × α)) (sorted : Sorted members) :
    Sorted (pairs.foldl (fun ms p => insert p.1 p.2 ms) members) := by
  induction pairs generalizing members with
  | nil => exact sorted
  | cons p rest ih => exact ih _ (sorted.insert _ _)

/-- Of the pairs of one key, the last that is added counts. -/
private theorem lookup_foldl {add : List (String × α) → String × α → List (String × α)}
    (adds : ∀ k p members,
      lookup k (add members p) = if p.1 = k then some p.2 else lookup k members)
    (key : String) (pairs members : List (String × α)) :
    lookup key (pairs.foldl add members) =
      (lookup key pairs.reverse).or (lookup key members) := by
  induction pairs generalizing members with
  | nil => rfl
  | cons p rest ih =>
    rw [List.foldl_cons, ih, adds, List.reverse_cons, lookup_append, Option.or_assoc]
    congr 1
    rw [lookup_cons]
    split <;> rfl

theorem sorted_ofList (pairs : List (String × α)) : Sorted (ofList pairs) :=
  foldl_insert_sorted pairs [] Sorted.nil

/-- Of the pairs of one key the last is kept. -/
theorem lookup_ofList_reverse (key : String) (pairs : List (String × α)) :
    lookup key (ofList pairs) = lookup key pairs.reverse := by
  rw [ofList, lookup_foldl fun k p members => lookup_insert k p.1 p.2 members, lookup_nil,
    Option.or_none]

/-- When keys are distinct, the order of the pairs does not matter to what is found. -/
theorem lookup_reverse {pairs : List (String × α)} (distinct : (keys pairs).Nodup)
    (key : String) : lookup key pairs.reverse = lookup key pairs := by
  have reversed : (keys pairs.reverse).Nodup := by
    rw [keys, List.map_reverse]
    exact List.nodup_reverse.mpr distinct
  cases found : lookup key pairs with
  | none =>
    rw [lookup_eq_none_iff] at found ⊢
    simpa [keys] using found
  | some value =>
    exact lookup_of_mem reversed (List.mem_reverse.mpr (mem_of_lookup found))

/-- When keys are distinct, a collected pair is found under its key. -/
theorem lookup_ofList {pairs : List (String × α)} (distinct : (keys pairs).Nodup)
    (key : String) : lookup key (ofList pairs) = lookup key pairs := by
  rw [lookup_ofList_reverse, lookup_reverse distinct]

/-! ### Pairs in order of first appearance -/

/-- Replacing a pair or adding one changes one key. -/
theorem lookup_put (k key : String) (value : α) (members : List (String × α)) :
    lookup k (put key value members) = if key = k then some value else lookup k members := by
  induction members with
  | nil => rfl
  | cons p rest ih =>
    rw [put, lookup_cons]
    by_cases same : p.1 = key
    · rw [if_pos same, lookup_cons, same]
      split <;> rfl
    · rw [if_neg same, lookup_cons, ih]
      by_cases here : p.1 = k
      · have other : key ≠ k := fun there => same (here.trans there.symm)
        rw [if_pos here, if_neg other, if_pos here]
      · simp only [if_neg here]

/-- Pairs that are put one after another replace those of the same keys. -/
theorem lookup_foldl_put (key : String) (pairs members : List (String × α)) :
    lookup key (pairs.foldl (fun ms p => put p.1 p.2 ms) members) =
      (lookup key pairs.reverse).or (lookup key members) :=
  lookup_foldl (fun k p members => lookup_put k p.1 p.2 members) key pairs members

/-- Of the pairs of one key the last value is kept. -/
theorem lookup_putAll (key : String) (pairs : List (String × α)) :
    lookup key (putAll pairs) = lookup key pairs.reverse := by
  rw [putAll, lookup_foldl_put, lookup_nil, Option.or_none]

theorem isSome_lookup_reverse (key : String) (pairs : List (String × α)) :
    (lookup key pairs.reverse).isSome = (lookup key pairs).isSome := by
  rw [Bool.eq_iff_iff, isSome_lookup_iff, isSome_lookup_iff, keys, keys, List.map_reverse,
    List.mem_reverse]

/-- A new key goes to the end. -/
theorem put_of_not_mem {key : String} {members : List (String × α)}
    (new : key ∉ keys members) (value : α) : put key value members = members ++ [(key, value)] := by
  induction members with
  | nil => rfl
  | cons p rest ih =>
    rw [keys_cons, List.mem_cons, not_or] at new
    rw [put, if_neg (Ne.symm new.1), ih new.2, List.cons_append]

theorem keys_put (key : String) (value : α) (members : List (String × α)) :
    keys (put key value members) =
      if key ∈ keys members then keys members else keys members ++ [key] := by
  by_cases taken : key ∈ keys members
  · rw [if_pos taken]
    induction members with
    | nil => cases taken
    | cons p rest ih =>
      rw [put]
      split
      · rename_i same
        rw [keys_cons, keys_cons, same]
      · rename_i differ
        have later := (List.mem_cons.mp taken).resolve_left (Ne.symm differ)
        rw [keys_cons, keys_cons, ih later]
  · rw [if_neg taken, put_of_not_mem taken, keys, List.map_append, List.map_singleton]
    rfl

theorem mem_keys_put {k key : String} {value : α} {members : List (String × α)} :
    k ∈ keys (put key value members) ↔ k = key ∨ k ∈ keys members := by
  rw [keys_put]
  split
  · rename_i taken
    exact ⟨.inr, fun either => either.elim (fun same => same ▸ taken) id⟩
  · rw [List.mem_append, List.mem_singleton, or_comm]

theorem nodup_keys_put {key : String} {value : α} {members : List (String × α)}
    (distinct : (keys members).Nodup) : (keys (put key value members)).Nodup := by
  rw [keys_put]
  split
  · exact distinct
  · rename_i new
    rw [← List.concat_eq_append]
    exact distinct.concat new

private theorem mem_keys_foldl_put {k : String} (pairs members : List (String × α)) :
    k ∈ keys (pairs.foldl (fun ms p => put p.1 p.2 ms) members) ↔
      k ∈ keys pairs ∨ k ∈ keys members := by
  induction pairs generalizing members with
  | nil => simp [keys]
  | cons p rest ih =>
    rw [List.foldl_cons, ih, mem_keys_put, keys_cons, List.mem_cons, or_left_comm, or_assoc]

/-- Each key occurs once. -/
theorem nodup_keys_putAll (pairs : List (String × α)) : (keys (putAll pairs)).Nodup := by
  rw [putAll]
  have start : (keys ([] : List (String × α))).Nodup := List.nodup_nil
  generalize ([] : List (String × α)) = members at start
  induction pairs generalizing members with
  | nil => exact start
  | cons p rest ih => exact ih _ (nodup_keys_put start)

private theorem foldl_put_of_nodup (pairs members : List (String × α))
    (distinct : (keys (members ++ pairs)).Nodup) :
    pairs.foldl (fun ms p => put p.1 p.2 ms) members = members ++ pairs := by
  induction pairs generalizing members with
  | nil => exact (List.append_nil members).symm
  | cons p rest ih =>
    have new : p.1 ∉ keys members := by
      rw [keys, List.map_append, List.map_cons] at distinct
      exact fun taken => (List.nodup_append.mp distinct).2.2 _ taken _ List.mem_cons_self rfl
    rw [List.append_cons members p rest] at distinct ⊢
    rw [List.foldl_cons, put_of_not_mem new]
    exact ih _ distinct

/-- Pairs of different keys stay as they are. -/
theorem putAll_of_nodup {pairs : List (String × α)} (distinct : (keys pairs).Nodup) :
    putAll pairs = pairs :=
  foldl_put_of_nodup pairs [] distinct

theorem nodup_distinct (texts : List String) : (distinct texts).Nodup :=
  nodup_keys_putAll _

theorem mem_distinct {t : String} {texts : List String} : t ∈ distinct texts ↔ t ∈ texts := by
  rw [distinct, putAll, mem_keys_foldl_put]
  simp [keys]

/-- One more text comes last, unless it is there already. -/
theorem distinct_concat (texts : List String) (t : String) :
    distinct (texts ++ [t]) = if t ∈ texts then distinct texts else distinct texts ++ [t] := by
  have step : distinct (texts ++ [t]) = keys (put t () (putAll (texts.map fun t => (t, ())))) := by
    rw [distinct, putAll, List.map_append, List.foldl_append]
    rfl
  have there : t ∈ keys (putAll (texts.map fun t => (t, ()))) ↔ t ∈ texts := mem_distinct
  rw [step, keys_put]
  simp only [there]
  rfl

end ApiContract.Members
