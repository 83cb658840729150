import StreamGate.Archive.Relay
import StreamGate.Catalog.Lookup
import StreamGate.Config.Settings
import StreamGate.Connection.Waiter
import StreamGate.Http.Headers
import StreamGate.Transfer.Cursor
import StreamGate.Transfer.Session

/-!
# The gateway's state

What the gateway keeps between requests, and the services it uses: a block
store, a catalog and the archives, all three on one world.

`Gateway.host` is what a session does to the gateway, `Services.source` where
its bytes come from.
-/

namespace StreamGate

/-- The name of a connection. -/
abbrev ConnectionId := String

/-- What the gateway keeps. -/
structure Gateway (World : Type) where
  world : World
  slots : Table ConnectionId Slot := {}
  metrics : Metrics := {}
  /-- The usage events so far, oldest first. -/
  events : List UsageEvent := []
  nextSession : SessionId := 1

/-- What the gateway uses, and how it is set up. -/
structure Services (World Handle File : Type) where
  store : BlockStore World Handle
  catalog : Catalog World
  archives : ArchiveDesk World File
  delivery : Delivery
  /-- The most bytes read per step. -/
  buffer : Nat
  /-- Usage events raise counters too. -/
  countsUsage : Bool
  /-- The instant at which requests are answered. -/
  now : Instant

/-- Where the bytes of a body come from: blocks or an archive. -/
abbrev Delivering (Handle File : Type) := Cursor Handle ⊕ Relay File

namespace Gateway

variable {World : Type}

/-- Changes the world only. -/
def withWorld (w : World) (g : Gateway World) : Gateway World := { g with world := w }

/-- The state of a connection; one that was never used dispatches. -/
def slot (g : Gateway World) (conn : ConnectionId) : Slot := (g.slots.get? conn).getD {}

def setSlot (g : Gateway World) (conn : ConnectionId) (slot : Slot) : Gateway World :=
  { g with slots := g.slots.insert conn slot }

/-- Makes a connection known. -/
def touch (g : Gateway World) (conn : ConnectionId) : Gateway World := g.setSlot conn (g.slot conn)

/-- What a session on a connection does to the gateway.  A request without a
connection has a slot of its own, which nobody else can see. -/
def host (countsUsage : Bool) (conn : Option ConnectionId) : Session.Host (Gateway World) where
  restore _ g := conn.elim g fun c => g.setSlot c (g.slot c).restore
  completed kind bytes g := { g with metrics := g.metrics.completed kind bytes }
  aborted kind reason g := { g with metrics := g.metrics.aborted kind reason }
  emit e g :=
    { g with
      events := g.events ++ [e]
      metrics := if countsUsage then g.metrics.usage e else g.metrics }

/-- Gives a session the connection it was started on. -/
def takeOver (g : Gateway World) (conn : Option ConnectionId) (id : SessionId) : Gateway World :=
  match conn with
  | none => g
  | some c =>
    match (g.slot c).tryTakeOver id with
    | some (_, slot) => g.setSlot c slot
    | none => g

/-- Starts a session: the connection is taken over and the start is recorded. -/
def install {State : Type} (g : Gateway World) (conn : Option ConnectionId) (s : Session State) :
    Gateway World :=
  let g := g.takeOver conn s.id
  { g with metrics := g.metrics.started s.kind }

end Gateway

namespace Services

variable {World Handle File : Type}

/-- The source of all bodies. -/
def source (svc : Services World Handle File) : Source (Gateway World) (Delivering Handle File) :=
  ((Cursor.source svc.store).either (Relay.source svc.archives)).inside Gateway.world
    Gateway.withWorld

end Services

end StreamGate
