import ApiContract.Json.Typed
import ApiContract.Proofs.Fallible
import ApiContract.Proofs.Members

/-!
# Records that are read member by member

A record whose members are set one by one is read when each member that is given is accepted
on its own. What is read then has, of every member, what its value alone makes of it; members
that are not given stay as they are.

## Main definitions

* `Json.RecordShape.Regular` — the members of a record are set and written one by one
* `Json.RecordShape.Takes` — a value that a member accepts

## Main results

* `Json.RecordShape.Regular.exists_read_iff` — when an object can be read
* `Json.RecordShape.Regular.member?_read`, `Json.RecordShape.Regular.member?_read_of_none` — what
  is read of an object
-/

namespace ApiContract.Json.RecordShape

variable {α : Type} {shape : RecordShape α} {write : α → Json} {a b start : α} {json : Json}
  {members : List (String × Json)} {key : String}

/-- Each member is set from its own value alone, and is written under its own name: what it was
before does not matter, and the others stay as they are. -/
structure Regular (shape : RecordShape α) (write : α → Json) : Prop where
  own : ∀ m ∈ shape.members, ∀ a b start json, m.set a json = .ok b →
    ∃ c, m.set start json = .ok c ∧ (write c).member? m.name = (write b).member? m.name
  frame : ∀ m ∈ shape.members, ∀ a b json key, m.set a json = .ok b → key ≠ m.name →
    (write b).member? key = (write a).member? key

/-- A value that the member of a key accepts. -/
def Takes (shape : RecordShape α) (key : String) (json : Json) : Prop :=
  ∃ a b, shape.setMember a (key, json) = .ok b

/-- A member is set by the shape of its key. -/
theorem exists_of_setMember (set : shape.setMember a (key, json) = .ok b) :
    ∃ m ∈ shape.members, m.name = key ∧ m.set a json = .ok b ∧
      ∀ start other, shape.setMember start (key, other) = m.set start other := by
  rw [setMember] at set
  split at set
  · rename_i m found
    refine ⟨m, List.mem_of_find?_eq_some found, by simpa using List.find?_some found, set, ?_⟩
    intro start other
    rw [setMember, found]
  · cases set

namespace Regular

/-- A shape is regular when its members put what is parsed of a value in their own place. -/
theorem of_puts (each : ∀ m ∈ shape.members, ∃ (β : Type) (parse : Json → Except String β)
    (put : α → β → α), (∀ a json, m.set a json = (parse json).map (put a)) ∧
      (∀ a b v, (write (put a v)).member? m.name = (write (put b v)).member? m.name) ∧
      ∀ a v key, key ≠ m.name → (write (put a v)).member? key = (write a).member? key) :
    shape.Regular write where
  own m listed a b start json set := by
    obtain ⟨β, parse, put, sets, own, _⟩ := each m listed
    rw [sets] at set
    obtain ⟨v, parsed, rfl⟩ := map_eq_ok.mp set
    exact ⟨put start v, by rw [sets, parsed]; rfl, own start a v⟩
  frame m listed a b json key set differ := by
    obtain ⟨β, parse, put, sets, _, frame⟩ := each m listed
    rw [sets] at set
    obtain ⟨v, _, rfl⟩ := map_eq_ok.mp set
    exact frame a v key differ

theorem setMember (regular : shape.Regular write)
    (set : shape.setMember a (key, json) = .ok b) (start : α) :
    ∃ c, shape.setMember start (key, json) = .ok c ∧
      (write c).member? key = (write b).member? key := by
  obtain ⟨m, listed, rfl, set, same⟩ := exists_of_setMember set
  rw [same]
  exact regular.own m listed a b start json set

theorem setMember_frame (regular : shape.Regular write) {other : String}
    (set : shape.setMember a (key, json) = .ok b) (differ : other ≠ key) :
    (write b).member? other = (write a).member? other := by
  obtain ⟨m, listed, rfl, set, _⟩ := exists_of_setMember set
  exact regular.frame m listed a b json other set differ

/-- An object is read when each of its members is accepted. -/
theorem exists_read_iff (regular : shape.Regular write) :
    (∃ a, shape.read start (.obj members) = .ok a) ↔
      ∀ p ∈ members, shape.Takes p.1 p.2 := by
  rw [read]
  induction members generalizing start with
  | nil => exact ⟨fun _ => List.forall_mem_nil _, fun _ => ⟨start, rfl⟩⟩
  | cons p rest ih =>
    simp only [List.foldlM_cons, List.forall_mem_cons]
    constructor
    · rintro ⟨a, read⟩
      obtain ⟨next, set, read⟩ := bind_eq_ok.mp read
      exact ⟨⟨start, next, set⟩, ih.mp ⟨a, read⟩⟩
    · rintro ⟨⟨_, _, set⟩, others⟩
      obtain ⟨next, set, _⟩ := regular.setMember set start
      obtain ⟨a, read⟩ := ih.mpr others
      exact ⟨a, bind_eq_ok.mpr ⟨next, set, read⟩⟩

/-- A member that is not given stays as it is. -/
theorem member?_read_of_none (regular : shape.Regular write)
    (read : shape.read start (.obj members) = .ok a) (absent : Members.lookup key members = none) :
    (write a).member? key = (write start).member? key := by
  refine foldlM_invariant (fun b => (write b).member? key = (write start).member? key) ?_ read rfl
  intro b c p listed set same
  have differ : key ≠ p.1 := by
    rintro rfl
    exact Members.lookup_eq_none_iff.mp absent (List.mem_map.mpr ⟨p, listed, rfl⟩)
  rw [regular.setMember_frame set differ, same]

/-- A member that is given is what its value makes of it, wherever that is read. -/
theorem member?_read (regular : shape.Regular write)
    (read : shape.read start (.obj members) = .ok a) (distinct : (Members.keys members).Nodup)
    (found : Members.lookup key members = some json)
    (set : ∃ c, shape.setMember c (key, json) = .ok b) :
    (write a).member? key = (write b).member? key := by
  induction members generalizing start with
  | nil => cases found
  | cons p rest ih =>
    rw [RecordShape.read, List.foldlM_cons] at read
    obtain ⟨next, first, read⟩ := bind_eq_ok.mp read
    rw [Members.keys_cons, List.nodup_cons] at distinct
    rw [Members.lookup_cons] at found
    split at found
    · rename_i same
      obtain rfl := Option.some.inj found
      subst same
      -- The key does not come again, so that what is set here stays.
      have absent := Members.lookup_eq_none_iff.mpr distinct.1
      obtain ⟨c, set⟩ := set
      obtain ⟨d, again, alike⟩ := regular.setMember set start
      obtain rfl : next = d := Except.ok.inj (first.symm.trans again)
      exact (regular.member?_read_of_none read absent).trans alike
    · exact ih read distinct.2 found

end Regular

end ApiContract.Json.RecordShape
