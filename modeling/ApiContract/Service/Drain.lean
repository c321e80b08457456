/-!
# Draining connections

A server counts its connections and, when it is told to stop, waits until none is left. A
waiter registers for the next notification before it reads the count, so that it cannot miss
the notification of the connection that closes last.

## Main definitions

* `Tracker` — the number of open connections
* `Shutdown` — whether the server was told to stop
* `Drain.State`, `Drain.Step` — connections and waiters in small steps
-/

namespace ApiContract

/-- The number of open connections. -/
structure Tracker where
  active : Nat := 0
  deriving DecidableEq, Repr

namespace Tracker

/-- A connection opens. -/
def acquire (t : Tracker) : Tracker := { active := t.active + 1 }

/-- A connection closes. -/
def release (t : Tracker) : Tracker := { active := t.active - 1 }

/-- Whether no connection is left. -/
def isDrained (t : Tracker) : Bool := t.active == 0

end Tracker

/-- Whether a server was told to stop; it stays told. -/
structure Shutdown where
  triggered : Bool := false
  deriving DecidableEq, Repr

/-- The server is told to stop. -/
def Shutdown.trigger (_ : Shutdown) : Shutdown := { triggered := true }

namespace Drain

/-- Where a connection's token is: held, counted out but with its notification still to come,
or gone. -/
inductive Token where
  | held
  | notifying
  | dropped
  deriving DecidableEq, Repr

/-- Where a waiter is: about to register, registered with the count still to be read, parked, or
back. `woken` says that a notification came after it registered. -/
inductive Waiter where
  | starting
  | registered (woken : Bool)
  | parked (woken : Bool)
  | returned
  deriving DecidableEq, Repr

/-- The tracker, the tokens that were handed out, and the waiters. -/
structure State where
  tracker : Tracker := {}
  tokens : List Token := []
  waiters : List Waiter := []
  deriving DecidableEq, Repr

/-- A waiter after a notification. -/
def Waiter.notify : Waiter → Waiter
  | .registered _ => .registered true
  | .parked _ => .parked true
  | w => w

/-- A waiter after it has read the count. -/
def Waiter.read (t : Tracker) (woken : Bool) : Waiter :=
  if t.isDrained then .returned else .parked woken

/-- One step of a connection or a waiter. A token that is dropped is counted out first; the one
that was the last notifies the waiters in a step of its own. A waiter that was woken registers
anew. -/
inductive Step : State → State → Prop where
  | acquire (s : State) :
    Step s { s with tracker := s.tracker.acquire, tokens := s.tokens ++ [.held] }
  | decrement (s : State) (i : Nat) (h : s.tokens[i]? = some .held) :
    Step s { s with
      tracker := s.tracker.release
      tokens := s.tokens.set i (if s.tracker.active = 1 then .notifying else .dropped) }
  | notify (s : State) (i : Nat) (h : s.tokens[i]? = some .notifying) :
    Step s { s with
      tokens := s.tokens.set i .dropped
      waiters := s.waiters.map Waiter.notify }
  | wait (s : State) : Step s { s with waiters := s.waiters ++ [.starting] }
  | register (s : State) (i : Nat) (h : s.waiters[i]? = some .starting) :
    Step s { s with waiters := s.waiters.set i (.registered false) }
  | read (s : State) (i : Nat) (woken : Bool) (h : s.waiters[i]? = some (.registered woken)) :
    Step s { s with waiters := s.waiters.set i (Waiter.read s.tracker woken) }
  | resume (s : State) (i : Nat) (h : s.waiters[i]? = some (.parked true)) :
    Step s { s with waiters := s.waiters.set i .starting }

end Drain

end ApiContract
