import ApiContract.Change
import Mathlib.Data.List.Forall2

/-!
# Steps that may fail

A computation of several steps succeeds with what its steps succeed with, and an invariant
that every step of a fold keeps holds at its end.

## Main results

* `bind_eq_ok`, `map_eq_ok`, `mapError_eq_ok`, `toOption_eq_some` — when steps one after the
  other succeed
* `bind_eq_error`, `map_eq_error` — when they fail
* `bind_map_of_each`, `bind_map` — steps that are the same up to renaming
* `foldlM_invariant` — what every step keeps, the whole fold keeps
* `foldlM_map_state`, `mapM_map_of_each` — a fold and a traversal under renaming
* `exists_of_foldlM_error`, `exists_of_mapM_error` — the step that a fold has failed with, and
  the item
* `exists_foldlM_error` — an item at which a fold fails
* `Change.result_eq_ok_iff`, `Change.result_eq_error_iff` — a change by its outcome and the state
  afterwards
* `mapM_eq_ok_iff`, `exists_mapM_of_each`, `mem_mapM_iff`, `exists_of_mapM`,
  `exists_of_mem_mapM`, `map_of_mapM` — what is collected, by what the items give
-/

namespace ApiContract

variable {ε α β : Type}

theorem bind_eq_ok {x : Except ε α} {f : α → Except ε β} {b : β} :
    x >>= f = .ok b ↔ ∃ a, x = .ok a ∧ f a = .ok b := by
  cases x with
  | error e => simp [bind, Except.bind]
  | ok a => simp [bind, Except.bind]

theorem map_eq_ok {x : Except ε α} {f : α → β} {b : β} :
    x.map f = .ok b ↔ ∃ a, x = .ok a ∧ f a = b := by
  cases x with
  | error e => simp [Except.map]
  | ok a => simp [Except.map]

theorem map_eq_error {x : Except ε α} {f : α → β} {e : ε} :
    x.map f = .error e ↔ x = .error e := by
  cases x with
  | error e => simp [Except.map]
  | ok a => simp [Except.map]

theorem mapError_eq_ok {ε' : Type} {x : Except ε α} {f : ε → ε'} {a : α} :
    x.mapError f = .ok a ↔ x = .ok a := by
  cases x with
  | error e => exact ⟨fun ok => (by cases ok), fun ok => (by cases ok)⟩
  | ok b =>
    have same : Except.mapError f (.ok b : Except ε α) = .ok b := rfl
    rw [same, Except.ok.injEq, Except.ok.injEq]

theorem toOption_eq_some {x : Except ε α} {a : α} : x.toOption = some a ↔ x = .ok a := by
  cases x with
  | error e => simp [Except.toOption]
  | ok a => simp [Except.toOption]

theorem bind_eq_error {x : Except ε α} {f : α → Except ε β} {e : ε} :
    x >>= f = .error e ↔ x = .error e ∨ ∃ a, x = .ok a ∧ f a = .error e := by
  cases x with
  | error e => simp [bind, Except.bind]
  | ok a => simp [bind, Except.bind]

/-- What a first step gives is renamed, and so is what follows on it. -/
theorem bind_map_of_each {γ δ : Type} {x : Except ε α} {x' : Except ε γ} {g : α → γ}
    {f : α → Except ε β} {f' : γ → Except ε δ} {rename : β → δ} (first : x' = x.map g)
    (each : ∀ a, f' (g a) = (f a).map rename) : x' >>= f' = (x >>= f).map rename := by
  subst first
  cases x with
  | error e => rfl
  | ok a => exact each a

/-- After the same first step, what follows is renamed. -/
theorem bind_map {γ : Type} {x x' : Except ε α} {f : α → Except ε β} {f' : α → Except ε γ}
    {rename : β → γ} (first : x' = x) (each : ∀ a, f' a = (f a).map rename) :
    x' >>= f' = (x >>= f).map rename := by
  subst first
  cases x' with
  | error e => rfl
  | ok a => exact each a

/-- What every step of a fold keeps holds of its result. -/
theorem foldlM_invariant {step : β → α → Except ε β} (holds : β → Prop) {items : List α}
    {start last : β} (keep : ∀ b c, ∀ a ∈ items, step b a = .ok c → holds b → holds c)
    (done : items.foldlM step start = .ok last) (initially : holds start) : holds last := by
  induction items generalizing start with
  | nil =>
    obtain rfl := Except.ok.inj done
    exact initially
  | cons a rest ih =>
    rw [List.foldlM_cons] at done
    obtain ⟨next, first, later⟩ := bind_eq_ok.mp done
    have onward : holds next := keep start next a List.mem_cons_self first initially
    exact ih (fun b c x member => keep b c x (List.mem_cons_of_mem _ member)) later onward

/-- A fold over other states is the same fold when each of its steps is. -/
theorem foldlM_map_state {γ : Type} {step : β → α → Except ε β} {step' : γ → α → Except ε γ}
    {rename : β → γ} {items : List α} {start : β}
    (each : ∀ b a, step' (rename b) a = (step b a).map rename) :
    items.foldlM step' (rename start) = (items.foldlM step start).map rename := by
  induction items generalizing start with
  | nil => rfl
  | cons a rest ih =>
    rw [List.foldlM_cons, List.foldlM_cons]
    exact bind_map_of_each (each start a) fun next => ih

/-- A fold fails with what one of its steps fails with. -/
theorem exists_of_foldlM_error {step : β → α → Except ε β} {items : List α} {start : β} {e : ε}
    (failed : items.foldlM step start = .error e) : ∃ b, ∃ a ∈ items, step b a = .error e := by
  induction items generalizing start with
  | nil => cases failed
  | cons a rest ih =>
    rw [List.foldlM_cons] at failed
    rcases bind_eq_error.mp failed with first | ⟨next, _, later⟩
    · exact ⟨start, a, List.mem_cons_self, first⟩
    · obtain ⟨b, x, member, step⟩ := ih later
      exact ⟨b, x, List.mem_cons_of_mem _ member, step⟩

/-- A fold fails when one of its items fails at every state. -/
theorem exists_foldlM_error {step : β → α → Except ε β} {items : List α} {a : α}
    (member : a ∈ items) (fails : ∀ b, ∃ e, step b a = .error e) (start : β) :
    ∃ e, items.foldlM step start = .error e := by
  induction items generalizing start with
  | nil => cases member
  | cons first rest ih =>
    rw [List.foldlM_cons]
    rcases List.mem_cons.mp member with rfl | later
    · obtain ⟨e, failed⟩ := fails start
      exact ⟨e, bind_eq_error.mpr (.inl failed)⟩
    · cases here : step start first with
      | error e => exact ⟨e, rfl⟩
      | ok next => exact ih later next

/-- Items are related to others, one after another, when each of them is related to one. -/
theorem exists_forall₂_iff {related : α → β → Prop} {items : List α} :
    (∃ others, List.Forall₂ related items others) ↔ ∀ a ∈ items, ∃ b, related a b := by
  induction items with
  | nil => simp
  | cons a rest ih =>
    rw [List.forall_mem_cons, ← ih]
    constructor
    · rintro ⟨others, paired⟩
      cases paired with
      | cons here there => exact ⟨⟨_, here⟩, _, there⟩
    · rintro ⟨⟨b, here⟩, others, there⟩
      exact ⟨b :: others, .cons here there⟩

/-- What is collected is what the items give, one for each. -/
theorem mapM_eq_ok_iff {f : α → Except ε β} {items : List α} {collected : List β} :
    items.mapM f = .ok collected ↔ List.Forall₂ (fun a b => f a = .ok b) items collected := by
  induction items generalizing collected with
  | nil => simp [pure, Except.pure, eq_comm]
  | cons a rest ih =>
    rw [List.mapM_cons, List.forall₂_cons_left_iff, bind_eq_ok]
    simp only [bind_eq_ok, ih, pure, Except.pure, Except.ok.injEq, eq_comm (b := collected)]
    constructor
    · rintro ⟨b, here, others, there, rfl⟩
      exact ⟨b, others, here, there, rfl⟩
    · rintro ⟨b, others, here, there, rfl⟩
      exact ⟨b, here, others, there, rfl⟩

/-- All items give something when each of them does. -/
theorem exists_mapM_of_each {f : α → Except ε β} {items : List α}
    (each : ∀ a ∈ items, ∃ b, f a = .ok b) : ∃ collected, items.mapM f = .ok collected :=
  (exists_forall₂_iff.mpr each).imp fun _ paired => mapM_eq_ok_iff.mpr paired

/-- The items give an error when one of them does. -/
theorem exists_of_mapM_error {f : α → Except ε β} {items : List α} {e : ε}
    (failed : items.mapM f = .error e) : ∃ a ∈ items, f a = .error e := by
  induction items with
  | nil => cases failed
  | cons a rest ih =>
    rw [List.mapM_cons] at failed
    rcases bind_eq_error.mp failed with first | ⟨_, _, later⟩
    · exact ⟨a, List.mem_cons_self, first⟩
    · rcases bind_eq_error.mp later with there | ⟨_, _, ended⟩
      · obtain ⟨x, member, given⟩ := ih there
        exact ⟨x, List.mem_cons_of_mem _ member, given⟩
      · cases ended

/-- What is collected is what the items have given. -/
theorem mem_mapM_iff {f : α → Except ε β} {items : List α} {collected : List β} {b : β}
    (done : items.mapM f = .ok collected) : b ∈ collected ↔ ∃ a ∈ items, f a = .ok b := by
  rw [mapM_eq_ok_iff] at done
  induction done with
  | nil => simp
  | cons here there ih =>
    simp only [List.mem_cons, ih, exists_eq_or_imp, here, Except.ok.injEq]
    exact or_congr_left eq_comm

/-- Each item has given something that is collected. -/
theorem exists_of_mapM {f : α → Except ε β} {items : List α} {collected : List β}
    (done : items.mapM f = .ok collected) {a : α} (member : a ∈ items) :
    ∃ b ∈ collected, f a = .ok b := by
  rw [mapM_eq_ok_iff] at done
  induction done with
  | nil => cases member
  | cons here there ih =>
    rcases List.mem_cons.mp member with rfl | later
    · exact ⟨_, List.mem_cons_self, here⟩
    · obtain ⟨b, among, given⟩ := ih later
      exact ⟨b, List.mem_cons_of_mem _ among, given⟩

/-- What is collected of items is what one of them has given. -/
theorem exists_of_mem_mapM {f : α → Option β} {items : List α} {collected : List β}
    (done : items.mapM f = some collected) {b : β} (listed : b ∈ collected) :
    ∃ a ∈ items, f a = some b := by
  induction items generalizing collected with
  | nil =>
    obtain rfl := Option.some.inj done
    cases listed
  | cons a rest ih =>
    rw [List.mapM_cons] at done
    obtain ⟨first, here, done⟩ := Option.bind_eq_some_iff.mp done
    obtain ⟨others, there, done⟩ := Option.bind_eq_some_iff.mp done
    obtain rfl := Option.some.inj done
    rcases List.mem_cons.mp listed with rfl | later
    · exact ⟨a, List.mem_cons_self, here⟩
    · obtain ⟨x, among, given⟩ := ih there later
      exact ⟨x, List.mem_cons_of_mem _ among, given⟩

/-- What each item gives keeps what is read off the item, and so does the list of them. -/
theorem map_of_mapM {γ : Type} {f : α → Except ε β} {ofItem : α → γ} {ofGiven : β → γ}
    {items : List α} {collected : List β}
    (keep : ∀ a ∈ items, ∀ b, f a = .ok b → ofGiven b = ofItem a)
    (done : items.mapM f = .ok collected) : collected.map ofGiven = items.map ofItem := by
  rw [mapM_eq_ok_iff] at done
  induction done with
  | nil => rfl
  | cons here there ih =>
    rw [List.map_cons, List.map_cons, keep _ List.mem_cons_self _ here,
      ih fun x member => keep x (List.mem_cons_of_mem _ member)]

/-- What is collected of items that give something else is what the items give, renamed. -/
theorem mapM_map_of_each {γ : Type} {f : α → Except ε β} {f' : α → Except ε γ} {rename : β → γ}
    {items : List α} (each : ∀ a ∈ items, f' a = (f a).map rename) :
    items.mapM f' = (items.mapM f).map (List.map rename) := by
  induction items with
  | nil => rfl
  | cons a rest ih =>
    obtain ⟨here, later⟩ := List.forall_mem_cons.mp each
    rw [List.mapM_cons, List.mapM_cons]
    exact bind_map_of_each here fun b => bind_map_of_each (ih later) fun others => rfl

namespace Change

variable {σ : Type} {s t : σ}

theorem result_eq_ok_iff {change : Change σ ε Unit} :
    change.result s = .ok t ↔ change.on s = (.ok (), t) := by
  rw [result]
  cases change.on s with
  | mk outcome after => cases outcome <;> simp

theorem result_eq_error_iff {change : Change σ ε Unit} {e : ε} :
    change.result s = .error e ↔ (change.on s).1 = .error e := by
  rw [result]
  cases change.on s with
  | mk outcome after => cases outcome <;> simp

/-- A change that first looks at the state is the one that the state asks for. -/
theorem on_get_bind (next : σ → Change σ ε Unit) : on (get >>= next) s = (next s).on s :=
  rfl

end Change

end ApiContract
