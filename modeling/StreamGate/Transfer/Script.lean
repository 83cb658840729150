import StreamGate.Transfer.Source

/-!
# Scripted sources

A source that plays back a list of results.  A script that has run out ends with
an empty last chunk.
-/

namespace StreamGate

/-- What a scripted source will answer. -/
structure Script where
  /-- The error of the first `start`. -/
  startError : Option TransferError := none
  results : List (Except TransferError Chunk)

namespace Script

def next (s : Script) : Except TransferError Chunk × Script :=
  match s.results with
  | [] => (.ok (.last []), s)
  | r :: rest => (r, { s with results := rest })

/-- Scripts as a transfer source on any world. -/
def source {World : Type} : Source World Script where
  start s w :=
    (match s.startError with | some e => .error e | none => .ok (), { s with startError := none }, w)
  nextChunk s w :=
    let (r, s) := s.next
    (r, s, w)
  release s w := (s, w)

end Script

end StreamGate
