import StreamGate.Archive.Relay

/-!
# The chunks of a relay

* `Relay.openFile_spec`: what an archive is when it was just opened.
* `Relay.nextChunk_sends`: all that asking a relay for a chunk can come to.
-/

namespace StreamGate.Relay

variable {World File : Type} {desk : ArchiveDesk World File}

/-- An archive that was just opened is to be sent from its first byte to its last. -/
theorem openFile_spec {path token : String} {buffer : Nat} {w : World} {r : Relay File}
    (opened : openFile desk path token buffer w = .ok r) :
    ∃ file, desk.openFile path w = .ok (file, r.size) ∧ r.file = some file ∧
      r.remaining = r.size ∧ r.token = token ∧ r.discarded = false := by
  unfold openFile at opened
  split at opened
  · cases opened
  · rename_i file size found
    cases opened
    exact ⟨file, found, rfl, rfl, rfl, rfl⟩

/-- A size that is told in 64 bits can be counted. -/
theorem size_lt_of_openFile {path token : String} {buffer : Nat} {w : World} {r : Relay File}
    (opened : openFile desk.in64Bits path token buffer w = .ok r) : r.size < UInt64.size := by
  obtain ⟨file, found, -⟩ := openFile_spec opened
  simp only [ArchiveDesk.in64Bits] at found
  cases told : desk.openFile path w with
  | error e =>
    rw [told] at found
    cases found
  | ok answer =>
    rw [told] at found
    have size : answer.2 % UInt64.size = r.size := congrArg Prod.snd (Except.ok.inj found)
    rw [← size]
    exact Nat.mod_lt _ (by decide)

/-- All that asking a relay for a chunk can come to. -/
inductive Sends (desk : ArchiveDesk World File) (r : Relay File) (w : World) :
    Except TransferError Chunk × Relay File × World → Prop
  /-- There was nothing left to send. -/
  | finished (zero : r.remaining = 0) : Sends desk r w (.ok (.last []), r.release desk w)
  /-- The file is closed already. -/
  | closed (left : r.remaining ≠ 0) (file : r.file = none) :
      Sends desk r w (.error (.truncated r.remaining), r, w)
  | failed {file file' : File} {reason : String} {w' : World} (left : r.remaining ≠ 0)
      (opened : r.file = some file)
      (read : desk.read file (min r.remaining r.buffer) w = (.error reason, file', w')) :
      Sends desk r w (.error (.archive reason), { r with file := some file' }, w')
  /-- The file has ended. -/
  | short {file file' : File} {bytes} {w' : World} (left : r.remaining ≠ 0)
      (opened : r.file = some file)
      (read : desk.read file (min r.remaining r.buffer) w = (.ok bytes, file', w'))
      (nothing : bytes.val = []) :
      Sends desk r w (.error (.truncated r.remaining), { r with file := some file' }, w')
  /-- These are the last bytes. -/
  | last {file file' : File} {bytes} {w' : World} (left : r.remaining ≠ 0)
      (opened : r.file = some file)
      (read : desk.read file (min r.remaining r.buffer) w = (.ok bytes, file', w'))
      (something : bytes.val ≠ []) (all : bytes.val.length = r.remaining) :
      Sends desk r w (.ok (.last bytes.val),
        { r with file := some file', remaining := r.remaining - bytes.val.length }.release desk w')
  /-- More bytes are to follow. -/
  | more {file file' : File} {bytes} {w' : World} (opened : r.file = some file)
      (read : desk.read file (min r.remaining r.buffer) w = (.ok bytes, file', w'))
      (something : bytes.val ≠ []) (some : bytes.val.length < r.remaining) :
      Sends desk r w (.ok (.more bytes.val),
        { r with file := .some file', remaining := r.remaining - bytes.val.length }, w')

theorem nextChunk_sends (desk : ArchiveDesk World File) (r : Relay File) (w : World) :
    r.Sends desk w (r.nextChunk desk w) := by
  unfold nextChunk
  by_cases zero : r.remaining = 0
  · rw [if_pos zero]
    exact .finished zero
  · rw [if_neg zero]
    unfold readSome
    cases opened : r.file with
    | none => exact .closed zero opened
    | some file =>
      dsimp only
      generalize read : desk.read file (min r.remaining r.buffer) w = answer
      obtain ⟨e | ⟨_ | ⟨x, rest⟩, fits⟩, file', w'⟩ := answer
      · exact .failed zero opened read
      · exact .short zero opened read rfl
      · have something : x :: rest ≠ [] := List.cons_ne_nil x rest
        dsimp only
        split
        · exact .last zero opened read something (show (x :: rest).length = r.remaining by omega)
        · exact .more opened read something (show (x :: rest).length < r.remaining by omega)

/-- A chunk is counted, and the last one leaves nothing to deliver. -/
theorem Sends.counts {r : Relay File} {w : World}
    {sent : Except TransferError Chunk × Relay File × World} (sends : r.Sends desk w sent)
    {chunk : Chunk} (answer : sent.1 = .ok chunk) :
    chunk.data.length + sent.2.1.remaining = r.remaining ∧
      (chunk.done = true ↔ sent.2.1.remaining = 0) := by
  cases sends with
  | finished zero =>
    cases answer
    exact ⟨Nat.zero_add _, fun _ => zero, fun _ => rfl⟩
  | closed | failed | short => cases answer
  | @last _ _ bytes _ left opened read something all =>
    cases answer
    have none_left : r.remaining - bytes.val.length = 0 := by omega
    refine ⟨?_, fun _ => none_left, fun _ => rfl⟩
    show bytes.val.length + (r.remaining - bytes.val.length) = r.remaining
    omega
  | @more _ _ bytes _ opened read something some =>
    cases answer
    refine ⟨?_, nofun, fun zero => ?_⟩
    · show bytes.val.length + (r.remaining - bytes.val.length) = r.remaining
      omega
    · have zero : r.remaining - bytes.val.length = 0 := zero
      omega

end StreamGate.Relay
