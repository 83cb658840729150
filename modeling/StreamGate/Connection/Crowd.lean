import StreamGate.Connection.Waiter
import StreamGate.Table

/-!
# Many at one slot

Everyone who deals with one slot, by name: sessions that own it or wait to take
it over, and requests that wait until it dispatches.  Each action is one of
theirs, so a list of actions is an interleaving.

Whoever gives up a name leaves; an owner that leaves gives the slot back.  A
request leaves as soon as it sees the slot dispatching, and one that sees it at
once never takes a name.
-/

namespace StreamGate

/-- Somebody at a slot. -/
inductive Member where
  | owner (t : Takeover)
  | contender (p : PendingTakeover)
  | waiter (w : Waiter)
deriving DecidableEq, Repr

/-- A slot with everyone who deals with it. -/
structure Crowd where
  slot : Slot := {}
  members : Table String Member := {}

namespace Crowd

/-- What somebody does. -/
inductive Action where
  /-- Takes the slot over now or not at all. -/
  | tryTake (name : String) (session : SessionId)
  /-- Begins to wait for a takeover. -/
  | take (name : String) (session : SessionId)
  /-- Begins to wait until the slot dispatches. -/
  | await (name : String)
  /-- Looks whether the waiting is over. -/
  | poll (name : String)
  /-- Gives the slot back. -/
  | restore (name : String)
  | leave (name : String)
deriving DecidableEq, Repr

/-- What comes of it. -/
inductive Reply where
  | taken (session : SessionId)
  | refused
  | pending
  | ready
  /-- The waiting was over before. -/
  | held
  | restored
  /-- Whether there was anybody of that name. -/
  | left (known : Bool)
  | unknown
deriving DecidableEq, Repr

/-- Gives up a name. -/
def leave (name : String) (c : Crowd) : Crowd where
  slot := match c.members.get? name with
    | some (.owner t) => (t.restore c.slot).2
    | _ => c.slot
  members := c.members.erase name

/-- Gives a name to a member; whoever had it leaves. -/
def enter (name : String) (m : Member) (c : Crowd) : Crowd :=
  let c := c.leave name
  { c with members := c.members.insert name m }

/-- A session looks whether it can take the slot over. -/
def contend (name : String) (p : PendingTakeover) (c : Crowd) : Reply × Crowd :=
  match p.poll c.slot with
  | .ok (t, slot) => (.taken t.session, { c with slot }.enter name (.owner t))
  | .error p => (.pending, c.enter name (.contender p))

/-- A request looks whether the slot dispatches.  If it does, `free` is the crowd
from then on. -/
def observe (name : String) (w : Waiter) (c free : Crowd) : Reply × Crowd :=
  match w.poll c.slot with
  | .done => (.ready, free)
  | w => (.pending, c.enter name (.waiter w))

/-- One action. -/
def act (c : Crowd) : Action → Reply × Crowd
  | .tryTake name session =>
    match c.slot.tryTakeOver session with
    | some (t, slot) => (.taken session, { c with slot }.enter name (.owner t))
    | none => (.refused, c)
  | .take name session => c.contend name { session }
  | .await name => c.observe name .idle c
  | .poll name =>
    match c.members.get? name with
    | some (.contender p) => c.contend name p
    | some (.waiter w) => c.observe name w (c.leave name)
    | some (.owner _) => (.held, c)
    | none => (.unknown, c)
  | .restore name => (.restored, c.leave name)
  | .leave name => (.left (c.members.contains name), c.leave name)

end Crowd

end StreamGate
