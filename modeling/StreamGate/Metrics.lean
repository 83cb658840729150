import StreamGate.Table
import StreamGate.Usage

/-!
# Metrics

Counters of what the gateway has done, and their text form, which names every
counter once and then lists its values.  A counter that was never touched is not
listed; one that was raised by zero is.
-/

namespace StreamGate

/-- What a session delivers. -/
inductive TransferKind where
  | file
  | range
  | block
  | archive
deriving DecidableEq, Repr

def TransferKind.name : TransferKind → String
  | file => "file"
  | range => "range"
  | block => "block"
  | archive => "archive"

/-- Why a transfer did not complete. -/
inductive AbortReason where
  /-- Reading failed or did not add up. -/
  | error
  /-- The client went away. -/
  | disconnect
deriving DecidableEq, Repr

def AbortReason.name : AbortReason → String
  | error => "error"
  | disconnect => "disconnect"

/-- A counter. -/
inductive Counter where
  | transfersStarted (kind : TransferKind)
  | transfersCompleted (kind : TransferKind)
  | bytesStreamed (kind : TransferKind)
  | transfersAborted (kind : TransferKind) (reason : AbortReason)
  | notModified (kind : TransferKind)
  | usageEvents (kind : UsageKind)
  | usageBytes (kind : UsageKind)
deriving DecidableEq, Repr

/-- A counter's name and labels. -/
def Counter.label : Counter → String × List (String × String)
  | transfersStarted kind => ("transfers_started_total", [("kind", kind.name)])
  | transfersCompleted kind => ("transfers_completed_total", [("kind", kind.name)])
  | bytesStreamed kind => ("bytes_streamed_total", [("kind", kind.name)])
  | transfersAborted kind reason =>
    ("transfers_aborted_total", [("kind", kind.name), ("reason", reason.name)])
  | notModified kind => ("not_modified_total", [("kind", kind.name)])
  | usageEvents kind => ("usage_events_total", [("kind", kind.name)])
  | usageBytes kind => ("usage_bytes_total", [("kind", kind.name)])

/-- The counters that were touched. -/
abbrev Metrics := Table Counter Nat

namespace Metrics

/-- The count so far. -/
def count (m : Metrics) (c : Counter) : Nat := (m.get? c).getD 0

/-- Raises a counter. -/
def add (m : Metrics) (c : Counter) (n : Nat) : Metrics := m.insert c (m.count c + n)

theorem count_add (m : Metrics) (c c' : Counter) (n : Nat) :
    (m.add c n).count c' = m.count c' + if c = c' then n else 0 := by
  unfold add count
  rw [Table.get?_insert]
  split <;> simp_all

def started (m : Metrics) (kind : TransferKind) : Metrics := m.add (.transfersStarted kind) 1

def completed (m : Metrics) (kind : TransferKind) (bytes : Nat) : Metrics :=
  (m.add (.transfersCompleted kind) 1).add (.bytesStreamed kind) bytes

def aborted (m : Metrics) (kind : TransferKind) (reason : AbortReason) : Metrics :=
  m.add (.transfersAborted kind reason) 1

def notModified (m : Metrics) (kind : TransferKind) : Metrics := m.add (.notModified kind) 1

def usage (m : Metrics) (e : UsageEvent) : Metrics :=
  (m.add (.usageEvents e.kind) 1).add (.usageBytes e.kind) e.bytes

theorem count_started (m : Metrics) (kind : TransferKind) (c : Counter) :
    (m.started kind).count c = m.count c + if .transfersStarted kind = c then 1 else 0 :=
  m.count_add _ c 1

theorem count_completed (m : Metrics) (kind : TransferKind) (bytes : Nat) (c : Counter) :
    (m.completed kind bytes).count c = m.count c +
      (if .transfersCompleted kind = c then 1 else 0) +
        if .bytesStreamed kind = c then bytes else 0 := by
  unfold completed
  rw [count_add, count_add]

theorem count_aborted (m : Metrics) (kind : TransferKind) (reason : AbortReason) (c : Counter) :
    (m.aborted kind reason).count c =
      m.count c + if .transfersAborted kind reason = c then 1 else 0 :=
  m.count_add _ c 1

theorem count_notModified (m : Metrics) (kind : TransferKind) (c : Counter) :
    (m.notModified kind).count c = m.count c + if .notModified kind = c then 1 else 0 :=
  m.count_add _ c 1

theorem count_usage (m : Metrics) (e : UsageEvent) (c : Counter) :
    (m.usage e).count c = m.count c + (if .usageEvents e.kind = c then 1 else 0) +
      if .usageBytes e.kind = c then e.bytes else 0 := by
  unfold usage
  rw [count_add, count_add]

/-- The line of one counter.  Its number is one of 64 bits, so it starts over
when the count gets too high. -/
def line (c : Counter) (n : Nat) : String :=
  let (name, labels) := c.label
  let shown := labels.map fun (k, v) => k ++ "=\"" ++ v ++ "\""
  name ++ "\x7b" ++ ",".intercalate shown ++ "\x7d " ++ toString (n % UInt64.size)

/-- The lines of all counters that were touched. -/
def lines (m : Metrics) : List String := m.entries.map fun (c, n) => line c n

/-- The names of all counters that were touched, each once. -/
def names (m : Metrics) : List String := (m.entries.map fun (c, _) => c.label.1).eraseDups

/-- The text of one name: its type, its lines, and an empty line. -/
def paragraph (m : Metrics) (name : String) : String :=
  let lines := (m.entries.filter fun (c, _) => c.label.1 == name).map fun (c, n) => line c n ++ "\n"
  "# TYPE " ++ name ++ " counter\n" ++ String.join lines ++ "\n"

/-- The whole text. -/
def render (m : Metrics) : String := String.join (m.names.map m.paragraph)

end Metrics

end StreamGate
