import ApiContract.Config.Loader
import ApiContract.Proofs.Json.Ordered
import ApiContract.Proofs.Json.Typed

/-!
# Values laid over one another

Laying one value over another acts key by key. A record that accepts both values accepts the
result where its members accept theirs; and where no two different objects meet, a member of the
result is that of the value above or, if it has none, that of the value below.

## Main definitions

* `Json.Unmixed` — values that are not merged into a third
* `Json.setting?`, `Json.HasTable` — a member of a section, and a section that is an object

## Main results

* `Json.member?_merge`, `Json.member?_merge_of_none` — the members of a merged value
* `Json.ordered_merge` — its keys increase
* `Json.RecordShape.Regular.exists_read_merge` — when a record accepts it
* `Json.setting?_merge`, `Json.setting?_of_merge` — its settings
-/

namespace ApiContract

namespace Json

variable {below above value : Json} {members layer : List (String × Json)}
  {group key : String}

/-! ### Members -/

theorem merge_obj : (Json.obj members).merge (.obj layer) = .obj (mergeMembers members layer) := by
  rw [merge]

/-- Only an object is merged with what is below, and only with an object. -/
theorem merge_eq_above
    (apart : (∀ members, below ≠ .obj members) ∨ ∀ layer, above ≠ .obj layer) :
    below.merge above = above := by
  cases above with
  | obj layer =>
    cases below with
    | obj members => exact apart.elim (absurd rfl <| · members) (absurd rfl <| · layer)
    | _ => simp [merge]
  | _ => simp [merge]

theorem lookup_mergeMembers_of_none (absent : Members.lookup key layer = none) :
    Members.lookup key (mergeMembers members layer) = Members.lookup key members := by
  induction layer generalizing members with
  | nil => rw [mergeMembers]
  | cons p rest ih =>
    rw [Members.lookup_cons] at absent
    split at absent
    · cases absent
    · rename_i differ
      rw [mergeMembers, ih absent, Members.lookup_insert, if_neg differ]

theorem lookup_mergeMembers (distinct : (Members.keys layer).Nodup)
    (found : Members.lookup key layer = some value) :
    Members.lookup key (mergeMembers members layer) =
      some ((Members.lookup key members).elim value (·.merge value)) := by
  induction layer generalizing members with
  | nil => cases found
  | cons p rest ih =>
    rw [Members.keys_cons, List.nodup_cons] at distinct
    rw [Members.lookup_cons] at found
    rw [mergeMembers]
    split at found
    · rename_i same
      obtain rfl := Option.some.inj found
      -- The rest of the layer does not touch the key again.
      have absent := Members.lookup_eq_none_iff.mpr (same ▸ distinct.1)
      rw [lookup_mergeMembers_of_none absent, Members.lookup_insert, if_pos same, ← same]
      cases Members.lookup p.1 members <;> rfl
    · rename_i differ
      rw [ih distinct.2 found, Members.lookup_insert, if_neg differ]

theorem member?_obj : (Json.obj members).member? key = Members.lookup key members := rfl

theorem exists_of_member? (found : below.member? key = some value) :
    ∃ members, below = .obj members ∧ Members.lookup key members = some value := by
  cases below with
  | obj members => exact ⟨members, rfl, found⟩
  | _ => cases found

theorem Ordered.of_member? (ordered : below.Ordered) (found : below.member? key = some value) :
    value.Ordered := by
  obtain ⟨members, rfl, listed⟩ := exists_of_member? found
  exact ordered.member (Members.mem_of_lookup listed)

/-- A member of the value above is laid over that of the value below. -/
theorem member?_merge (ordered : above.Ordered) (found : above.member? key = some value) :
    (below.merge above).member? key = some ((below.member? key).elim value (·.merge value)) := by
  obtain ⟨layer, rfl, found⟩ := exists_of_member? found
  cases below with
  | obj members => rw [merge_obj, member?_obj, lookup_mergeMembers ordered.nodup found, member?_obj]
  | _ => simpa [merge, member?, asObject?] using found

/-- A member that only the value below has is kept by an object above. -/
theorem member?_merge_of_none (absent : (Json.obj layer).member? key = none) :
    (below.merge (.obj layer)).member? key = below.member? key := by
  cases below with
  | obj members => exact lookup_mergeMembers_of_none absent
  | _ => simpa [merge, member?, asObject?] using absent

/-- What the value above does not have is of the value below, if it is there at all. -/
theorem member?_of_merge (found : (below.merge above).member? key = some value)
    (absent : above.member? key = none) : below.member? key = some value := by
  cases above with
  | obj layer => rwa [member?_merge_of_none absent] at found
  | _ => simp [merge, member?, asObject?] at found

/-! ### Order -/

theorem ordered_merge (left : below.Ordered) (right : above.Ordered) :
    (below.merge above).Ordered := by
  induction above using parts_induction generalizing below with
  | atom above alone =>
    rwa [merge_eq_above (.inr ?_)]
    rintro layer rfl
    cases alone
  | arr items ih => simpa [merge] using right
  | obj layer ih =>
    cases below with
    | obj members =>
      rw [merge_obj]
      have each : ∀ p ∈ layer, p.2.Ordered := fun p listed => right.member listed
      clear right
      -- The members are laid over one at a time; those below are in order all along.
      induction layer generalizing members with
      | nil => rwa [mergeMembers]
      | cons p rest again =>
        rw [mergeMembers]
        refine again (fun q listed => ih q (List.mem_cons_of_mem _ listed)) _ ?_
          fun q listed => each q (List.mem_cons_of_mem _ listed)
        have first := each p List.mem_cons_self
        refine .obj _ (left.sorted.insert _ _) fun q listed => ?_
        rcases Members.mem_insert listed with rfl | before
        · dsimp only
          split
          · rename_i old found
            exact ih p List.mem_cons_self (left.member (Members.mem_of_lookup found)) first
          · exact first
        · exact left.member before
    | _ => simpa [merge] using right

/-! ### Values that are replaced -/

/-- Values that are not two different objects. -/
def Unmixed (below above : Json) : Prop :=
  ∀ members layer, below = .obj members → above = .obj layer → members = layer

/-- A value laid over itself. -/
theorem merge_self (ordered : value.Ordered) : value.merge value = value := by
  induction value using parts_induction with
  | atom value alone =>
    refine merge_eq_above (.inr ?_)
    rintro layer rfl
    cases alone
  | arr items ih => exact merge_eq_above (.inr nofun)
  | obj members ih =>
    have merged := ordered_merge ordered ordered
    rw [merge_obj] at merged ⊢
    -- Members in order are known by what is found in them.
    refine congrArg Json.obj (merged.sorted.ext ordered.sorted fun key => ?_)
    cases found : Members.lookup key members with
    | none => rw [lookup_mergeMembers_of_none found, found]
    | some value =>
      have listed := Members.mem_of_lookup found
      rw [lookup_mergeMembers ordered.nodup found, found]
      exact congrArg some (ih _ listed (ordered.member listed))

/-- Laid over what it does not mix with, a value replaces it. -/
theorem merge_of_unmixed (ordered : above.Ordered) (unmixed : below.Unmixed above) :
    below.merge above = above := by
  cases above with
  | obj layer =>
    cases below with
    | obj members =>
      obtain rfl := unmixed members layer rfl rfl
      exact merge_self ordered
    | _ => exact merge_eq_above (.inl nofun)
  | _ => exact merge_eq_above (.inr nofun)

/-! ### Records -/

namespace RecordShape

variable {α : Type} {shape : RecordShape α} {write : α → Json} {start a b : α}

theorem Regular.takes (regular : shape.Regular write) (read : shape.read start value = .ok a)
    {json : Json} (found : value.member? key = some json) : shape.Takes key json := by
  obtain ⟨members, rfl, found⟩ := exists_of_member? found
  exact regular.exists_read_iff.mp ⟨a, read⟩ _ (Members.mem_of_lookup found)

/-- A record that accepts two values accepts one laid over the other, if its members do. -/
theorem Regular.exists_read_merge (regular : shape.Regular write) (left : below.Ordered)
    (right : above.Ordered) (first : shape.read start below = .ok a)
    (second : shape.read start above = .ok b)
    (laid : ∀ key v w, below.member? key = some v → above.member? key = some w →
      shape.Takes key (v.merge w)) :
    ∃ c, shape.read start (below.merge above) = .ok c := by
  cases above with
  | obj layer =>
    cases below with
    | obj members =>
      have merged := ordered_merge left right
      rw [merge_obj] at merged ⊢
      refine regular.exists_read_iff.mpr fun p listed => ?_
      -- A member of the result is one of the two, or one laid over the other.
      have here : ((Json.obj members).merge (.obj layer)).member? p.1 = some p.2 := by
        rw [merge_obj]
        exact Members.lookup_of_mem merged.nodup listed
      cases found : (Json.obj layer).member? p.1 with
      | none => exact regular.takes first (member?_of_merge here found)
      | some w =>
        rw [member?_merge right found] at here
        cases covered : (Json.obj members).member? p.1 with
        | none =>
          rw [covered] at here
          exact Option.some.inj here ▸ regular.takes second found
        | some v =>
          rw [covered] at here
          exact Option.some.inj here ▸ laid p.1 v w covered found
    | _ => exact ⟨b, by simpa [merge] using second⟩
  | _ => exact ⟨b, by simpa [merge] using second⟩

/-- Objects that give a member the same value give it the same in what is read. -/
theorem Regular.member?_eq (regular : shape.Regular write) {other : List (String × Json)}
    {origin : α} (left : (Json.obj members).Ordered) (right : (Json.obj other).Ordered)
    (first : shape.read start (.obj members) = .ok a)
    (second : shape.read origin (.obj other) = .ok b)
    (here : Members.lookup key members = some value)
    (there : Members.lookup key other = some value) :
    (write a).member? key = (write b).member? key := by
  have given : (Json.obj members).member? key = some value := here
  obtain ⟨c, d, set⟩ := regular.takes first given
  exact (regular.member?_read first left.nodup here ⟨c, set⟩).trans
    (regular.member?_read second right.nodup there ⟨c, set⟩).symm

end RecordShape

/-! ### Settings -/

/-- A member of a section. -/
def setting? (json : Json) (group key : String) : Option Json :=
  (json.member? group).bind (·.member? key)

/-- An object of which the section, if it is there, is an object too. -/
def HasTable (json : Json) (group : String) : Prop :=
  ∃ members, json = .obj members ∧
    ∀ value, Members.lookup group members = some value → ∃ inner, value = .obj inner

/-- A value has no setting in a section that it does not have. -/
theorem setting?_of_none (absent : value.member? group = none) :
    value.setting? group key = none := by
  rw [setting?, absent]
  rfl

theorem setting?_of_some {inner : Json} (found : value.member? group = some inner) :
    value.setting? group key = inner.member? key := by
  rw [setting?, found]
  rfl

/-- A setting of a merged value is that of the value above, or that of the value below and not
of the one above. -/
theorem setting?_of_merge (right : above.Ordered)
    (unmixed : ∀ v w, below.setting? group key = some v → above.setting? group key = some w →
      v.Unmixed w) (found : (below.merge above).setting? group key = some value) :
    above.setting? group key = some value ∨
      above.setting? group key = none ∧ below.setting? group key = some value := by
  obtain ⟨merged, there, found⟩ := Option.bind_eq_some_iff.mp found
  cases covered : above.member? group with
  | none =>
    have kept := member?_of_merge there covered
    exact .inr ⟨setting?_of_none covered, (setting?_of_some kept).trans found⟩
  | some outer =>
    rw [member?_merge right covered] at there
    have ordered := right.of_member? covered
    have upper : above.setting? group key = outer.member? key := setting?_of_some covered
    rw [upper]
    cases under : below.member? group with
    | none =>
      rw [under] at there
      obtain rfl : outer = merged := Option.some.inj there
      exact .inl found
    | some inner =>
      rw [under] at there
      obtain rfl : inner.merge outer = merged := Option.some.inj there
      have lower : below.setting? group key = inner.member? key := setting?_of_some under
      rw [lower]
      cases laid : outer.member? key with
      | none => exact .inr ⟨rfl, member?_of_merge found laid⟩
      | some w =>
        rw [member?_merge ordered laid] at found
        cases before : inner.member? key with
        | none =>
          rw [before] at found
          exact .inl found
        | some v =>
          have apart := unmixed v w (lower.trans before) (upper.trans laid)
          have same := merge_of_unmixed (ordered.of_member? laid) apart
          rw [before] at found
          exact .inl ((congrArg some same).symm.trans found)

theorem HasTable.merge (right : above.Ordered) (lower : below.HasTable group)
    (upper : above.HasTable group) : (below.merge above).HasTable group := by
  obtain ⟨members, rfl, inner⟩ := lower
  obtain ⟨layer, rfl, outer⟩ := upper
  refine ⟨_, merge_obj, fun value found => ?_⟩
  have found : ((Json.obj members).merge (.obj layer)).member? group = some value := by
    rw [merge_obj]
    exact found
  cases covered : (Json.obj layer).member? group with
  | none => exact inner value (member?_of_merge found covered)
  | some w =>
    rw [member?_merge right covered] at found
    obtain ⟨others, rfl⟩ := outer w covered
    cases under : (Json.obj members).member? group with
    | none =>
      rw [under] at found
      exact ⟨others, (Option.some.inj found).symm⟩
    | some v =>
      rw [under] at found
      obtain ⟨own, rfl⟩ := inner v under
      exact ⟨_, (Option.some.inj found).symm.trans merge_obj⟩

/-- Where both values have an object for a section, all that the one below sets in it and the
one above does not is kept. -/
theorem setting?_merge (right : above.Ordered)
    (unmixed : ∀ v w, below.setting? group key = some v → above.setting? group key = some w →
      v.Unmixed w) (lower : below.HasTable group) (upper : above.HasTable group) :
    (below.merge above).setting? group key =
      (above.setting? group key).or (below.setting? group key) := by
  obtain ⟨members, rfl, inner⟩ := lower
  obtain ⟨layer, rfl, outer⟩ := upper
  cases covered : (Json.obj layer).member? group with
  | none =>
    rw [setting?, member?_merge_of_none covered, setting?_of_none covered]
    rfl
  | some w =>
    obtain ⟨others, rfl⟩ := outer w covered
    have ordered := right.of_member? covered
    have merged : ((Json.obj members).merge (.obj layer)).member? group =
        some (((Json.obj members).member? group).elim (.obj others) (·.merge (.obj others))) :=
      member?_merge right covered
    rw [setting?_of_some covered]
    cases under : (Json.obj members).member? group with
    | none =>
      rw [under] at merged
      rw [setting?_of_some merged, setting?_of_none under, Option.or_none]
      rfl
    | some v =>
      obtain ⟨own, rfl⟩ := inner v under
      rw [under] at merged
      have merged : ((Json.obj members).merge (.obj layer)).member? group =
          some ((Json.obj own).merge (.obj others)) := merged
      rw [setting?_of_some merged, setting?_of_some under]
      cases laid : (Json.obj others).member? key with
      | none => exact member?_merge_of_none laid
      | some w =>
        refine (member?_merge ordered laid).trans ?_
        cases before : (Json.obj own).member? key with
        | none => rfl
        | some v =>
          have apart := unmixed v w ((setting?_of_some under).trans before)
            ((setting?_of_some covered).trans laid)
          exact congrArg some (merge_of_unmixed (ordered.of_member? laid) apart)

end Json

end ApiContract
