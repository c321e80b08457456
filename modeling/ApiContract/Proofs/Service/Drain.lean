import ApiContract.Service.Drain
import Mathlib.Logic.Relation

/-!
# No waiter is forgotten

Connections open and close while waiters wait for the last of them, and every step of one of
them may come between two steps of another. A waiter that parks has registered before it read
the count, so that it still gets the notification of the connection that closes last, however
the steps interleave.

## Main definitions

* `Drain.Reachable` — the states that connections and waiters can come to
* `Drain.Sound` — what every step keeps

## Main results

* `Drain.Step.sound` — every step keeps it
* `Drain.Reachable.not_forgotten` — the count is right, no waiter returns early, and none that is
  parked is left without a notification to come
-/

namespace ApiContract.Drain

open Relation

variable {s s' : State} {i : Nat}

/-- A state that connections and waiters come to by some interleaving of their steps. -/
def Reachable (s : State) : Prop := ReflTransGen Step {} s

/-- What every step keeps: the count is that of the tokens that are held, and a waiter that is
parked and was not woken since has a connection to wait for, or a notification. -/
structure Sound (s : State) : Prop where
  counted : s.tracker.active = s.tokens.count .held
  awaited : .parked false ∈ s.waiters → 0 < s.tracker.active ∨ .notifying ∈ s.tokens

/-! ### Steps -/

theorem Waiter.notify_ne_parked (w : Waiter) : w.notify ≠ .parked false := by
  cases w <;> simp [notify]

theorem Waiter.notify_eq_returned {w : Waiter} (back : w.notify = .returned) : w = .returned := by
  cases w <;> simp_all [notify]

/-- A token that is held is one of those that are counted. -/
theorem Sound.pos_of_held (sound : Sound s) (held : s.tokens[i]? = some .held) :
    0 < s.tracker.active := by
  rw [sound.counted]
  exact List.count_pos_iff.mpr (List.mem_of_getElem? held)

/-- A token that is no longer held is one less. -/
theorem count_set_held {tokens : List Token} {t : Token} (held : tokens[i]? = some .held)
    (other : t ≠ .held) : (tokens.set i t).count .held = tokens.count .held - 1 := by
  obtain ⟨inside, here⟩ := List.getElem?_eq_some_iff.mp held
  rw [List.count_set inside]
  simp [here, other]

/-- Replacing a token that is not held by another such leaves the count as it is. -/
theorem count_set_of_ne {tokens : List Token} {t old : Token} (here : tokens[i]? = some old)
    (before : old ≠ .held) (after : t ≠ .held) :
    (tokens.set i t).count .held = tokens.count .held := by
  obtain ⟨inside, here⟩ := List.getElem?_eq_some_iff.mp here
  rw [List.count_set inside]
  simp [here, before, after]

/-- Every step keeps the count right and leaves no waiter without a notification to come. -/
theorem Step.sound (step : Step s s') (sound : Sound s) : Sound s' := by
  cases step with
  | acquire =>
    refine ⟨?_, fun _ => .inl (Nat.succ_pos _)⟩
    simp [Tracker.acquire, sound.counted]
  | decrement i held =>
    have pos := sound.pos_of_held held
    constructor
    · have other : (if s.tracker.active = 1 then Token.notifying else .dropped) ≠ .held := by
        split <;> simp
      rw [count_set_held held other, ← sound.counted]
      rfl
    · intro _
      -- The token that was the last is the one whose notification is still to come.
      by_cases last : s.tracker.active = 1
      · rw [if_pos last]
        exact .inr (List.mem_set (List.getElem?_eq_some_iff.mp held).1 _)
      · exact .inl (by simp only [Tracker.release]; omega)
  | notify i notifying =>
    refine ⟨?_, fun parked => ?_⟩
    · rw [count_set_of_ne notifying (by simp) (by simp)]
      exact sound.counted
    · obtain ⟨w, _, same⟩ := List.mem_map.mp parked
      exact absurd same w.notify_ne_parked
  | wait =>
    refine ⟨sound.counted, fun parked => sound.awaited ?_⟩
    simpa using parked
  | register i starting =>
    refine ⟨sound.counted, fun parked => sound.awaited ?_⟩
    exact (List.mem_or_eq_of_mem_set parked).resolve_right (by simp)
  | read i woken registered =>
    refine ⟨sound.counted, fun parked => ?_⟩
    rcases List.mem_or_eq_of_mem_set parked with old | new
    · exact sound.awaited old
    · -- Whoever parks has just read a count that is not zero.
      rw [Waiter.read] at new
      split at new
      · cases new
      · rename_i busy
        exact .inl (Nat.pos_of_ne_zero (by simpa [Tracker.isDrained] using busy))
  | resume i woken =>
    refine ⟨sound.counted, fun parked => sound.awaited ?_⟩
    exact (List.mem_or_eq_of_mem_set parked).resolve_right (by simp)

/-- A waiter that a step brings back has read a count of zero in that step. -/
theorem Step.returned (step : Step s s') (back : s'.waiters[i]? = some .returned) :
    s.waiters[i]? = some .returned ∨
      s.tracker.active = 0 ∧ ∃ woken, s.waiters[i]? = some (.registered woken) := by
  have elsewhere {j : Nat} {w : Waiter} (other : w ≠ .returned)
      (back : (s.waiters.set j w)[i]? = some .returned) : s.waiters[i]? = some .returned := by
    rw [List.getElem?_set] at back
    split at back
    · split at back
      · exact absurd (Option.some.inj back) other
      · cases back
    · exact back
  cases step with
  | acquire | decrement => exact .inl back
  | notify =>
    rw [List.getElem?_map] at back
    obtain ⟨w, here, same⟩ := Option.map_eq_some_iff.mp back
    obtain rfl := Waiter.notify_eq_returned same
    exact .inl here
  | wait =>
    refine .inl ?_
    rw [List.getElem?_append] at back
    split at back
    · exact back
    · simp [List.getElem?_singleton] at back
  | register => exact .inl (elsewhere (by simp) back)
  | resume => exact .inl (elsewhere (by simp) back)
  | read j woken registered =>
    by_cases drained : s.tracker.isDrained
    · by_cases same : j = i
      · subst same
        exact .inr ⟨by simpa [Tracker.isDrained] using drained, woken, registered⟩
      · refine .inl ?_
        rwa [List.getElem?_set_ne same] at back
    · exact .inl (elsewhere (by simp [Waiter.read, drained]) back)

/-! ### Runs -/

namespace Reachable

theorem sound (reachable : Reachable s) : Sound s := by
  induction reachable with
  | refl => exact ⟨rfl, fun parked => nomatch parked⟩
  | tail _ step ih => exact step.sound ih

/-- A waiter that is back has at some time read a count of zero. -/
theorem exists_read (reachable : Reachable s) (back : s.waiters[i]? = some .returned) :
    ∃ before after woken, Reachable before ∧ Step before after ∧ ReflTransGen Step after s ∧
      before.waiters[i]? = some (.registered woken) ∧ before.tracker.active = 0 ∧
      after.waiters[i]? = some .returned := by
  induction reachable with
  | refl => cases back
  | @tail last next run step ih =>
    rcases step.returned back with already | ⟨zero, woken, registered⟩
    · obtain ⟨before, after, woken, start, read, rest, found⟩ := ih already
      exact ⟨before, after, woken, start, read, rest.tail step, found⟩
    · exact ⟨last, next, woken, run, step, .refl, registered, zero, back⟩

/-- However connections and waiters interleave, the count is that of the tokens that are held, so
that there is one to count out whenever a token is dropped; a waiter returns only by reading a
count of zero; and while a waiter is parked that was not woken, some connection is open or some
dropped token is about to notify. -/
theorem not_forgotten (reachable : Reachable s) :
    s.tracker.active = s.tokens.count .held ∧
    (∀ i : Nat, s.tokens[i]? = some .held → 0 < s.tracker.active) ∧
    (∀ i : Nat, s.waiters[i]? = some .returned →
      ∃ before after woken, Reachable before ∧ Step before after ∧ ReflTransGen Step after s ∧
        before.waiters[i]? = some (.registered woken) ∧ before.tracker.active = 0 ∧
        after.waiters[i]? = some .returned) ∧
    (∀ i : Nat, s.waiters[i]? = some (.parked false) →
      0 < s.tracker.active ∨ ∃ j : Nat, s.tokens[j]? = some .notifying) := by
  refine ⟨reachable.sound.counted, fun i => reachable.sound.pos_of_held,
    fun i => reachable.exists_read, fun i parked => ?_⟩
  rw [← List.mem_iff_getElem?]
  exact reachable.sound.awaited (List.mem_of_getElem? parked)

end Reachable

/-! ### The last connection closes -/

/-- A connection that is counted out and has yet to notify a waiter that parked before. -/
def closing : State where
  tokens := [.notifying]
  waiters := [.parked false]

theorem reachable_closing : Reachable closing := by
  have opened : Reachable ⟨⟨1⟩, [.held], []⟩ := .single (.acquire _)
  have waits : Reachable ⟨⟨1⟩, [.held], [.starting]⟩ := opened.tail (.wait _)
  have registers : Reachable ⟨⟨1⟩, [.held], [.registered false]⟩ :=
    waits.tail (.register _ 0 rfl)
  have parks : Reachable ⟨⟨1⟩, [.held], [.parked false]⟩ := registers.tail (.read _ 0 false rfl)
  exact parks.tail (.decrement _ 0 rfl)

/-- Between the two steps of the token the count is zero and the waiter is still parked, but the
notification is to come. -/
theorem not_forgotten_closing :
    Reachable closing ∧ closing.tracker.active = 0 ∧
      closing.waiters[0]? = some (.parked false) ∧
      ∃ j : Nat, closing.tokens[j]? = some .notifying := by
  obtain ⟨_, _, _, awaited⟩ := reachable_closing.not_forgotten
  exact ⟨reachable_closing, rfl, rfl, (awaited 0 rfl).resolve_left (Nat.lt_irrefl 0)⟩

end ApiContract.Drain
