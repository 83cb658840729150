/-!
# Connection slots

A connection either dispatches requests or is owned by the one session whose
body is being sent on it.  A session becomes the owner by taking the slot over
and gives it back exactly once.

Giving back has two steps: the slot dispatches again, and then everyone who
waits for that is notified.  `notices` counts the notifications, so a waiter can
tell whether one came after it began to wait.
-/

namespace StreamGate

/-- The number of a session. -/
abbrev SessionId := Nat

/-- The state of a connection. -/
structure Slot where
  /-- The session that owns the connection. -/
  owner : Option SessionId := none
  takeovers : Nat := 0
  restores : Nat := 0
  /-- Notifications sent to waiters so far. -/
  notices : Nat := 0
deriving DecidableEq, Repr

/-- The ownership of a slot by a session. -/
structure Takeover where
  session : SessionId
  restored : Bool := false
deriving DecidableEq, Repr

namespace Slot

/-- No session owns the connection. -/
def isDispatching (slot : Slot) : Bool := slot.owner.isNone

/-- The owner in words. -/
def display (slot : Slot) : String :=
  match slot.owner with
  | none => "dispatching"
  | some id => s!"streaming:{id}"

/-- Makes a session the owner, if there is none. -/
def tryTakeOver (slot : Slot) (id : SessionId) : Option (Takeover × Slot) :=
  if slot.isDispatching then
    some (⟨id, false⟩, { slot with owner := some id, takeovers := slot.takeovers + 1 })
  else none

/-- First step of giving back: the slot dispatches again. -/
def dispatch (slot : Slot) : Slot := { slot with owner := none, restores := slot.restores + 1 }

/-- Second step of giving back: everyone waiting is notified. -/
def notify (slot : Slot) : Slot := { slot with notices := slot.notices + 1 }

/-- Gives the slot back. -/
def restore (slot : Slot) : Slot := slot.dispatch.notify

end Slot

/-- Gives the slot back, unless this takeover did so before. -/
def Takeover.restore (t : Takeover) (slot : Slot) : Takeover × Slot :=
  if t.restored then (t, slot) else ({ t with restored := true }, slot.restore)

end StreamGate
