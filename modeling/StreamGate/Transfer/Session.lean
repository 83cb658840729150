import StreamGate.Connection.Slot
import StreamGate.Metrics
import StreamGate.Transfer.Source

/-!
# Streaming sessions

A session is one response body on its way out.  Every step pulls at most one
chunk from the source, so nothing is read ahead of what the connection accepts.

The phase only moves from `headerSent` over `streaming` to `completed`, or from
either of the first two to `aborted`.  On the way into a final phase the session
releases its source, gives the connection back, and is recorded, in this order;
after that a step does nothing.

What a session does to its surroundings goes through a `Session.Host`, so the
same code runs in the gateway and in front of a log of its own calls.
-/

namespace StreamGate

/-- Where a session stands. -/
inductive Phase where
  | headerSent
  | streaming
  | completed
  | aborted
deriving DecidableEq, Repr

namespace Phase

def name : Phase → String
  | headerSent => "HeaderSent"
  | streaming => "Streaming"
  | completed => "Completed"
  | aborted => "Aborted"

/-- The session is over. -/
def isFinal : Phase → Bool
  | completed | aborted => true
  | _ => false

end Phase

/-- One response body on its way out. -/
structure Session (State : Type) where
  id : SessionId
  kind : TransferKind
  phase : Phase := .headerSent
  source : State
  /-- The connection is still to be given back. -/
  ownsSlot : Bool := true
  /-- The length that the headers announced. -/
  contentLength : Nat
  /-- The count of the bytes that were sent; it has 64 bits. -/
  sent : Nat := 0
  /-- The event to emit on completion. -/
  usage : Option UsageEvent := none

/-- What a session does to its surroundings. -/
structure Session.Host (World : Type) where
  /-- Gives back the connection that the session owns. -/
  restore : SessionId → World → World
  /-- Records a completed transfer of so many bytes. -/
  completed : TransferKind → Nat → World → World
  /-- Records a transfer that did not complete. -/
  aborted : TransferKind → AbortReason → World → World
  /-- Accounts the transfer. -/
  emit : UsageEvent → World → World

namespace Session

variable {World State : Type}

/-- Releases the source and gives the connection back. -/
def letGo (src : Source World State) (host : Host World) (s : Session State) (w : World) :
    Session State × World :=
  let (source, w) := src.release s.source w
  ({ s with source, ownsSlot := false }, if s.ownsSlot then host.restore s.id w else w)

/-- Ends a session early. -/
def abort (src : Source World State) (host : Host World) (reason : AbortReason) (s : Session State)
    (w : World) : Session State × World :=
  let (s, w) := letGo src host { s with phase := .aborted } w
  (s, host.aborted s.kind reason w)

/-- Ends a session that has sent everything. -/
def complete (src : Source World State) (host : Host World) (s : Session State) (w : World) :
    Session State × World :=
  let (s, w) := letGo src host { s with phase := .completed } w
  let w := host.completed s.kind s.sent w
  ({ s with usage := none }, s.usage.elim w fun e => host.emit e w)

/-- Ends a session because of an error, which becomes the result of the step. -/
def fail (src : Source World State) (host : Host World) (e : TransferError) (s : Session State)
    (w : World) : Option (Except TransferError Bytes) × Session State × World :=
  let (s, w) := abort src host .error s w
  (some (.error e), s, w)

/-- A count of sent bytes after `n` more.  Past the largest number of 64 bits it starts
over. -/
def counted (sent n : Nat) : Nat := (sent + n) % UInt64.size

/-- Pulls a chunk and checks it against the announced length. -/
def pull (src : Source World State) (host : Host World) (s : Session State) (w : World) :
    Option (Except TransferError Bytes) × Session State × World :=
  match src.nextChunk s.source w with
  | (.error e, source, w) => fail src host e { s with source } w
  | (.ok chunk, source, w) =>
    let s := { s with source, sent := counted s.sent chunk.data.length }
    if s.contentLength < s.sent then fail src host (.overrun s.contentLength) s w
    else if chunk.done then
      if s.sent < s.contentLength then fail src host (.truncated (s.contentLength - s.sent)) s w
      else
        let (s, w) := complete src host s w
        (if chunk.data.isEmpty then none else some (.ok chunk.data), s, w)
    else (some (.ok chunk.data), s, w)

/-- One step: the next bytes of the body, an error, or nothing when the body is
over. -/
def step (src : Source World State) (host : Host World) (s : Session State) (w : World) :
    Option (Except TransferError Bytes) × Session State × World :=
  match s.phase with
  | .completed | .aborted => (none, s, w)
  | .streaming => pull src host s w
  | .headerSent =>
    match src.start s.source w with
    | (.error e, source, w) => fail src host e { s with source } w
    | (.ok (), source, w) => pull src host { s with source, phase := .streaming } w

/-- Drops a session.  One that is not over counts as aborted by the client. -/
def drop (src : Source World State) (host : Host World) (s : Session State) (w : World) : World :=
  if s.phase.isFinal then w else (abort src host .disconnect s w).2

/-- Takes steps until the body is over, at most `fuel` of them. -/
def runOut (src : Source World State) (host : Host World) :
    (fuel : Nat) → Session State → World → Session State × World
  | 0, s, w => (s, w)
  | fuel + 1, s, w =>
    match step src host s w with
    | (none, s, w) => (s, w)
    | (some _, s, w) => runOut src host fuel s w

/-- Turns a session into a body.  A body announced as empty is never asked for,
so such a session is run to its end at once and no session is left. -/
def intoBody (src : Source World State) (host : Host World) (fuel : Nat) (s : Session State)
    (w : World) : Option (Session State) × World :=
  if s.contentLength = 0 then
    let (s, w) := runOut src host fuel s w
    (none, drop src host s w)
  else (some s, w)

end Session

end StreamGate
