import DocumentGate.Number.Double

/-!
# The journal

What happens to a connection handle between its registration for a session and the
closing of its store, event by event and each with its time.  The journal is kept for
whoever looks back on a run; nothing that the service does depends on it.
-/

namespace DocumentGate.Service

/-- A point or a span of time in seconds. -/
abbrev Time := Rat

/-- Why a handle leaves the registry. -/
inductive Departure where
  /-- Another handle was registered for its session. -/
  | replaced
  /-- The session was ended. -/
  | removed
  /-- The session was idle for longer than a limit. -/
  | evicted (limit : Double)
deriving DecidableEq

/-- What can happen to a handle, which is named by its number. -/
inductive Event where
  | registered (session : String) (handle : Nat)
  /-- The session that has the handle was active. -/
  | active (session : String) (handle : Nat)
  | left (session : String) (handle : Nat) (cause : Departure)
  | borrowed (handle : Nat)
  | returned (handle : Nat)
  /-- Closing was asked for, and from now on nobody can borrow the handle. -/
  | closing (handle : Nat)
  /-- Closing was asked for where it had begun before. -/
  | closingAgain (handle : Nat)
  /-- Closing the store began. -/
  | storeClosing (handle : Nat)
deriving DecidableEq

/-- An event with its time. -/
structure Entry where
  time : Time
  event : Event

end DocumentGate.Service
