import StreamGate.Archive.Registry
import StreamGate.Transfer.Source

/-!
# The archive relay

Sends a finished archive from its first byte to the length it had when it was
opened, and discards its token once when the transfer is over, whether or not it
was completed.
-/

namespace StreamGate

/-- The transfer of one archive. -/
structure Relay (File : Type) where
  /-- The open file; none once it is released. -/
  file : Option File
  size : Nat
  remaining : Nat
  token : String
  /-- The token is discarded already. -/
  discarded : Bool := false
  /-- The most bytes read at a time. -/
  buffer : Nat
  buffer_pos : 0 < buffer

namespace Relay

variable {World File : Type}

/-- Opens an archive.  A buffer of no bytes counts as one. -/
def openFile (desk : ArchiveDesk World File) (path token : String) (buffer : Nat) (w : World) :
    Except String (Relay File) :=
  match desk.openFile path w with
  | .error e => .error e
  | .ok (file, size) =>
    .ok { file := some file, size, remaining := size, token, buffer := max 1 buffer,
          buffer_pos := by omega }

/-- Closes the file and discards the token, unless that was done before. -/
def release (desk : ArchiveDesk World File) (r : Relay File) (w : World) : Relay File × World :=
  ({ r with file := none, discarded := true }, if r.discarded then w else desk.discard r.token w)

/-- Reads at most `want` bytes; a released relay has none. -/
def readSome (desk : ArchiveDesk World File) (r : Relay File) (want : Nat) (w : World) :
    Except TransferError Bytes × Relay File × World :=
  match r.file with
  | none => (.ok [], r, w)
  | some file =>
    match desk.read file want w with
    | (.ok bytes, file, w) => (.ok bytes.val, { r with file := some file }, w)
    | (.error e, file, w) => (.error (.archive e), { r with file := some file }, w)

/-- Hands out the next bytes.  The last of them release the relay. -/
def nextChunk (desk : ArchiveDesk World File) (r : Relay File) (w : World) :
    Except TransferError Chunk × Relay File × World :=
  if r.remaining = 0 then
    let (r, w) := r.release desk w
    (.ok (.last []), r, w)
  else
    match r.readSome desk (min r.remaining r.buffer) w with
    | (.error e, r, w) => (.error e, r, w)
    | (.ok [], r, w) => (.error (.truncated r.remaining), r, w)
    | (.ok (x :: more), r, w) =>
      let data := x :: more
      let r := { r with remaining := r.remaining - data.length }
      if r.remaining = 0 then
        let (r, w) := r.release desk w
        (.ok (.last data), r, w)
      else (.ok (.more data), r, w)

/-- Relays as a transfer source. -/
def source (desk : ArchiveDesk World File) : Source World (Relay File) where
  start r w := (.ok (), r, w)
  nextChunk := nextChunk desk
  release := release desk

end Relay

end StreamGate
