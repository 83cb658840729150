import StreamGate.Grant
import StreamGate.Json.Writer

/-!
# Usage events

A completed transfer is accounted by one event, unless it was only a view.  The
event names the store for file and block transfers and the repository for
archives.
-/

namespace StreamGate

/-- How a transfer was initiated. -/
inductive UsageKind where
  | webDownload
  | linkDownload
deriving DecidableEq, Repr

namespace UsageKind

def ofOperation (op : Operation) : UsageKind := if op.isLink then linkDownload else webDownload

def name : UsageKind → String
  | webDownload => "web-file-download"
  | linkDownload => "link-file-download"

end UsageKind

/-- The account of one transfer. -/
structure UsageEvent where
  subject : String
  username : String
  kind : UsageKind
  bytes : Nat
deriving DecidableEq, Repr

namespace UsageEvent

/-- The event of a transfer under a grant for `op`, if it is accounted at all. -/
def forTransfer (op : Operation) (subject username : String) (bytes : Nat) : Option UsageEvent :=
  if op = .view then none else some ⟨subject, username, UsageKind.ofOperation op, bytes⟩

/-- The fields of an event as they are logged. -/
def fields (e : UsageEvent) : List (String × String) :=
  [("subject_id", Json.writeText e.subject), ("username", Json.writeText e.username),
    ("kind", Json.writeText e.kind.name), ("bytes", toString e.bytes)]

def toJson (e : UsageEvent) : String := Json.writeObject e.fields

/-- The log line of an event at a time. -/
def logLine (timestamp : String) (e : UsageEvent) : String :=
  Json.writeObject (("timestamp", Json.writeText timestamp) :: e.fields)

end UsageEvent

end StreamGate
