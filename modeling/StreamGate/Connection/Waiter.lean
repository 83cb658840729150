import StreamGate.Connection.Slot

/-!
# Waiting for a connection

A request that arrives while a session owns the connection waits until the slot
dispatches again.  A waiter first registers, that is, it remembers how many
notices there have been; then it looks at the slot; and only if the slot is
owned it parks until a further notice.  Because it registers before it looks,
no notice can slip by between the two.
-/

namespace StreamGate

/-- A waiter between its steps. -/
inductive Waiter where
  /-- Not registered. -/
  | idle
  /-- Registered when there had been `seen` notices, about to look. -/
  | registered (seen : Nat)
  /-- Waits for a notice after the first `seen`. -/
  | parked (seen : Nat)
  /-- Saw the slot dispatching. -/
  | done
deriving DecidableEq, Repr

namespace Waiter

/-- Registers with the slot. -/
def register (slot : Slot) : Waiter → Waiter
  | idle => registered slot.notices
  | w => w

/-- Looks at the slot. -/
def look (slot : Slot) : Waiter → Waiter
  | registered seen => if slot.isDispatching then done else parked seen
  | w => w

/-- Starts over once a notice has come. -/
def wake (slot : Slot) : Waiter → Waiter
  | parked seen => if slot.notices = seen then parked seen else idle
  | w => w

/-- Goes as far as the slot allows. -/
def poll (slot : Slot) (w : Waiter) : Waiter := ((w.wake slot).register slot).look slot

end Waiter

/-- A session that waits to take a slot over. -/
structure PendingTakeover where
  session : SessionId
  waiter : Waiter := .idle
deriving DecidableEq, Repr

/-- Takes the slot over once it dispatches. -/
def PendingTakeover.poll (p : PendingTakeover) (slot : Slot) :
    Except PendingTakeover (Takeover × Slot) :=
  match p.waiter.poll slot with
  | .done =>
    match slot.tryTakeOver p.session with
    | some taken => .ok taken
    | none => .error { p with waiter := .idle }
  | w => .error { p with waiter := w }

end StreamGate
