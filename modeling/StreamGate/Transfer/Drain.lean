import StreamGate.Transfer.Source

/-!
# Draining a source

Asks a source for one chunk after another until a chunk is marked as the last
one or the source fails, and keeps what came out.
-/

namespace StreamGate

/-- What came out of a source. -/
structure Drain where
  /-- The data of every chunk, in order. -/
  chunks : List Bytes
  /-- How the source ended; none if it was not asked to its end. -/
  ending : Option (Except TransferError Unit)

namespace Drain

/-- All bytes that came out. -/
def bytes (d : Drain) : Bytes := d.chunks.flatten

/-- What came out, with a chunk before it. -/
def after (data : Bytes) (d : Drain) : Drain := { d with chunks := data :: d.chunks }

@[simp] theorem bytes_after (data : Bytes) (d : Drain) : (d.after data).bytes = data ++ d.bytes := by
  simp [bytes, after]

end Drain

/-- Asks a source for at most `limit` chunks. -/
def Source.drain {World State : Type} (src : Source World State) :
    (limit : Nat) → State → World → Drain × State × World
  | 0, s, w => (⟨[], none⟩, s, w)
  | limit + 1, s, w =>
    match src.nextChunk s w with
    | (.error e, s, w) => (⟨[], some (.error e)⟩, s, w)
    | (.ok chunk, s, w) =>
      if chunk.done then (⟨[chunk.data], some (.ok ())⟩, s, w)
      else
        let (d, s, w) := src.drain limit s w
        (d.after chunk.data, s, w)

/-- Starts a source and then drains it. -/
def Source.run {World State : Type} (src : Source World State) (limit : Nat) (s : State)
    (w : World) : Drain × State × World :=
  match src.start s w with
  | (.error e, s, w) => (⟨[], some (.error e)⟩, s, w)
  | (.ok (), s, w) => src.drain limit s w

end StreamGate
