import StreamGate.Failure
import StreamGate.Bytes

/-!
# Transfer sources

Where the bytes of a response body come from.  A source is asked for one chunk
after another until a chunk says that it is the last one, or until it fails; the
headers are out by then, so a failure can only end the transfer.
-/

namespace StreamGate

/-- Why a transfer ended early. -/
inductive TransferError where
  /-- A block could not be had. -/
  | block (failure : Failure)
  /-- The archive file could not be read. -/
  | archive (reason : String)
  /-- The source ended this many bytes early. -/
  | truncated (missing : Nat)
  /-- The source held more than was announced. -/
  | overrun (expected : Nat)
  /-- The blocks of a file end before the range starts. -/
  | rangeOutsideBlocks (offset : Nat)
deriving DecidableEq, Repr

/-- The error in words. -/
def TransferError.message : TransferError → String
  | block failure => failure.message
  | archive reason => s!"Archive read failed: {reason}"
  | truncated missing => s!"Source ended {missing} bytes before the advertised length"
  | overrun expected => s!"Source produced more than the advertised {expected} bytes"
  | rangeOutsideBlocks offset => s!"Range start {offset} lies beyond the file's blocks"

/-- A piece of a response body. -/
structure Chunk where
  data : Bytes
  /-- Nothing follows. -/
  done : Bool
deriving DecidableEq, Repr

namespace Chunk

def more (data : Bytes) : Chunk := ⟨data, false⟩
def last (data : Bytes) : Chunk := ⟨data, true⟩

end Chunk

/-- The operations of a transfer source with states in `State`. -/
structure Source (World State : Type) where
  /-- Prepares the first read. -/
  start : State → World → Except TransferError Unit × State × World
  /-- Hands out the next chunk. -/
  nextChunk : State → World → Except TransferError Chunk × State × World
  /-- Gives back what the source holds. -/
  release : State → World → State × World

namespace Source

variable {World State : Type}

/-- The same source as a part of a larger world. -/
def inside {Outer : Type} (src : Source World State) (get : Outer → World)
    (put : World → Outer → Outer) : Source Outer State where
  start s w :=
    let (r, s, inner) := src.start s (get w)
    (r, s, put inner w)
  nextChunk s w :=
    let (r, s, inner) := src.nextChunk s (get w)
    (r, s, put inner w)
  release s w :=
    let (s, inner) := src.release s (get w)
    (s, put inner w)

/-- A source that is one of two. -/
def either {Other : Type} (left : Source World State) (right : Source World Other) :
    Source World (State ⊕ Other) where
  start
    | .inl s, w =>
      let (r, s, w) := left.start s w
      (r, .inl s, w)
    | .inr s, w =>
      let (r, s, w) := right.start s w
      (r, .inr s, w)
  nextChunk
    | .inl s, w =>
      let (r, s, w) := left.nextChunk s w
      (r, .inl s, w)
    | .inr s, w =>
      let (r, s, w) := right.nextChunk s w
      (r, .inr s, w)
  release
    | .inl s, w =>
      let (s, w) := left.release s w
      (.inl s, w)
    | .inr s, w =>
      let (s, w) := right.release s w
      (.inr s, w)

end Source

end StreamGate
