import StreamGate.Proofs.Cipher.Decryption
import StreamGate.Proofs.Transfer.Custody
import StreamGate.Proofs.Transfer.Ending

/-!
# How long a cursor takes

How many turns there can be before a chunk comes out, and how many chunks, whatever the store
answers.

* `Cursor.patience_turn`: a turn that hands out nothing uses up patience.  It leaves a block
  behind, or it reads ciphertext that is held back, and no more than sixteen bytes ever are.
* `Cursor.nextChunkWithin` and `Cursor.skipBytesWithin` are the two loops with a bound on their
  rounds, and `Cursor.loops_end` says which bounds are enough.
-/

namespace StreamGate

variable {World Handle : Type}

/-! ## Decryption -/

namespace Decryptor

/-- Ciphertext from which nothing comes out is held back, and that is sixteen bytes at most. -/
theorem held_of_silent {d : Decryptor} {piece : Bytes} (silent : (d.update piece).1 = []) :
    (d.update piece).2.pending.length = d.pending.length + piece.length ∧
      d.pending.length + piece.length ≤ 16 := by
  have out := d.length_update piece
  have held := d.length_pending_update piece
  rw [silent, List.length_nil] at out
  rw [← out] at held
  refine ⟨held, ?_⟩
  unfold ready at out
  omega

end Decryptor

namespace Cursor

variable {bs : BlockStore World Handle} {c : Cursor Handle} {b : OpenBlock Handle}
  {h : c.index < c.blocks.length} {w : World}

/-! ## Patience -/

/-- The ciphertext of a block that is held back, as far as it counts. -/
def heldBack (b : OpenBlock Handle) : Nat := min 16 (b.decryptor.elim 0 fun d => d.pending.length)

/-- How many turns can still hand out nothing: for each block sixteen that read a byte of
ciphertext and one that leaves the block behind. -/
def patience (c : Cursor Handle) : Nat :=
  17 * (c.blocks.length - c.index) - c.current.elim 0 heldBack

theorem heldBack_le (b : OpenBlock Handle) : heldBack b ≤ 16 := Nat.min_le_left ..

theorem patience_of_some (current : c.current = some b) :
    c.patience = 17 * (c.blocks.length - c.index) - heldBack b := by
  rw [patience, current]
  rfl

theorem patience_of_none (current : c.current = none) :
    c.patience = 17 * (c.blocks.length - c.index) := by
  rw [patience, current]
  rfl

/-- Leaving a block behind uses up what it was waited for. -/
theorem patience_advance {b' : OpenBlock Handle} {c' : Cursor Handle} {w' : World}
    (h : c.index < c.blocks.length) (b : OpenBlock Handle) (left : (c', w') = c.advance bs b' w) :
    c'.patience < 17 * (c.blocks.length - c.index) - heldBack b := by
  have held := heldBack_le b
  cases left
  rw [patience_of_none rfl]
  show 17 * (c.blocks.length - (c.index + 1)) < _
  omega

/-- A turn within a block that hands out nothing uses up patience. -/
theorem patience_turnOpen {c' : Cursor Handle} {w' : World}
    (silent : turnOpen bs c b h w = (.ok none, c', w')) :
    c'.patience < 17 * (c.blocks.length - c.index) - heldBack b := by
  have outcome := outcome_turnOpen bs c b h w
  generalize answer : turnOpen bs c b h w = out at outcome
  rw [silent] at answer
  cases outcome with
  | failed => cases answer
  | read => cases answer
  | exhausted => exact patience_advance h b (Prod.mk.inj answer).2
  | @decrypted piece b₁ w₁ d encrypted taken some decryptor =>
    simp only [Prod.mk.injEq, Except.ok.injEq] at answer
    obtain ⟨nothing, rfl, -⟩ := answer
    obtain ⟨held, few⟩ := Decryptor.held_of_silent (someBytes_eq_none nothing.symm)
    have read := List.length_pos_iff.2 some
    rw [patience_of_some rfl]
    show 17 * (c.blocks.length - c.index) - _ < _
    simp only [heldBack, decryptor, Option.elim_some, held]
    omega
  | finished => exact patience_advance h b (Prod.mk.inj answer).2
  | unread => exact patience_advance h b (Prod.mk.inj answer).2

/-- A turn that hands out nothing uses up patience. -/
theorem patience_turn {c' : Cursor Handle} {w' : World}
    (silent : c.turn bs w = (.ok none, c', w')) : c'.patience < c.patience := by
  cases current : c.current with
  | some b =>
    have h := c.index_lt (by rw [current]; rfl)
    rw [turn_of_some current h] at silent
    rw [patience_of_some current]
    exact patience_turnOpen silent
  | none =>
    rw [turn_of_none current] at silent
    by_cases h : c.index < c.blocks.length
    · rw [dif_pos h] at silent
      unfold openAt at silent
      generalize bs.openBlock c.store c.blocks[c.index] w = opened at silent
      obtain ⟨f | handle, w₁⟩ := opened
      · cases silent
      · have less := patience_turnOpen silent
        have fresh : heldBack (⟨handle, bs.size handle, c.key.map Decryptor.start⟩ :
            OpenBlock Handle) = 0 := by
          cases key : c.key with
          | none => rfl
          | some k => rfl
        rw [patience_of_none current]
        rwa [fresh] at less
    · rw [dif_neg h] at silent
      cases silent

theorem patience_le (c : Cursor Handle) : c.patience ≤ 17 * (c.blocks.length - c.index) :=
  Nat.sub_le ..

/-! ## Loops with a bound -/

/-- Reads and drops bytes in at most so many rounds; none if these are not enough. -/
def skipBytesWithin (bs : BlockStore World Handle) (buffer offset : Nat) :
    (rounds : Nat) → OpenBlock Handle → (skip : Nat) → World →
      Option (Except TransferError Unit × OpenBlock Handle × World)
  | 0, _, _, _ => none
  | rounds + 1, b, skip, w =>
    if skip = 0 then some (.ok (), b, w)
    else
      match readBlock bs b (min skip buffer) w with
      | (.error e, b, w) => some (.error e, b, w)
      | (.ok [], b, w) => some (.error (.rangeOutsideBlocks offset), b, w)
      | (.ok (_ :: more), b, w) =>
        skipBytesWithin bs buffer offset rounds b (skip - (more.length + 1)) w

/-- Takes at most so many turns for a chunk; none if these are not enough. -/
def nextChunkWithin (bs : BlockStore World Handle) :
    (turns : Nat) → Cursor Handle → World →
      Option (Except TransferError Chunk × Cursor Handle × World)
  | 0, _, _ => none
  | turns + 1, c, w =>
    if c.remaining = 0 then some (.ok (.last []), c.release bs w)
    else
      match c.turn bs w with
      | (.error e, c, w) => some (.error e, c, w)
      | (.ok none, c, w) => nextChunkWithin bs turns c w
      | (.ok (some data), c, w) =>
        if c.remaining < data.length then some (.error (.overrun c.total), c, w)
        else if c.remaining - data.length = 0 then
          some (.ok (.last data), { c with remaining := c.remaining - data.length }.release bs w)
        else some (.ok (.more data), { c with remaining := c.remaining - data.length }, w)

/-- Every round but the last drops a byte. -/
theorem skipBytesWithin_eq (bs : BlockStore World Handle) (buffer offset : Nat) {rounds : Nat}
    {skip : Nat} (enough : skip < rounds) (b : OpenBlock Handle) (w : World) :
    skipBytesWithin bs buffer offset rounds b skip w = some (skipBytes bs buffer offset b skip w) := by
  induction rounds generalizing skip b w with
  | zero => exact absurd enough (Nat.not_lt_zero skip)
  | succ rounds ih =>
    rw [skipBytesWithin, skipBytes]
    by_cases nothing : skip = 0
    · rw [if_pos nothing, if_pos nothing]
    · rw [if_neg nothing, if_neg nothing]
      generalize readBlock bs b (min skip buffer) w = answer
      obtain ⟨e | piece, b', w'⟩ := answer
      · rfl
      · cases piece with
        | nil => rfl
        | cons x more => exact ih (by omega) b' w'

/-- Every turn but the last uses up patience. -/
theorem nextChunkWithin_eq (bs : BlockStore World Handle) {turns : Nat} {c : Cursor Handle}
    (enough : c.patience < turns) (w : World) :
    nextChunkWithin bs turns c w = some (c.nextChunk bs w) := by
  induction turns generalizing c w with
  | zero => exact absurd enough (Nat.not_lt_zero c.patience)
  | succ turns ih =>
    rw [nextChunkWithin, nextChunk_eq]
    by_cases spent : c.remaining = 0
    · rw [if_pos spent, if_pos spent]
    · rw [if_neg spent, if_neg spent]
      generalize taken : c.turn bs w = answer
      obtain ⟨e | _ | data, c', w'⟩ := answer
      · rfl
      · have less := patience_turn taken
        exact ih (by omega) w'
      · dsimp only
        split
        · rfl
        · split <;> rfl

/-! ## Draining -/

/-- Every chunk but the last takes something off what is to be delivered. -/
theorem ending_drain (bs : BlockStore World Handle) {c : Cursor Handle} {limit : Nat}
    (enough : c.remaining < limit) (w : World) :
    ((source bs).drain limit c w).1.ending.isSome := by
  induction limit generalizing c w with
  | zero => exact absurd enough (Nat.not_lt_zero c.remaining)
  | succ limit ih =>
    unfold Source.drain
    have same : (source bs).nextChunk c w = c.nextChunk bs w := rfl
    rw [same]
    generalize answer : c.nextChunk bs w = out
    obtain ⟨e | chunk, c', w'⟩ := out
    · rfl
    · dsimp only
      split
      · rfl
      · rename_i unfinished
        have counted := (counts_nextChunk answer).1
        have solid := List.length_pos_iff.2
          (ne_nil_of_more answer (Bool.eq_false_of_not_eq_true unfinished))
        exact ih (by omega) w'

theorem ending_run (bs : BlockStore World Handle) {c : Cursor Handle} {limit : Nat}
    (enough : c.remaining < limit) (w : World) :
    ((source bs).run limit c w).1.ending.isSome := by
  have kept : ((source bs).start c w).2.1.remaining = c.remaining := remaining_begin c w
  unfold Source.run
  generalize (source bs).start c w = answer at kept ⊢
  obtain ⟨e | _, c', w'⟩ := answer
  · rfl
  · exact ending_drain bs (by rw [← kept] at enough; exact enough) w'

/-- The loops of a cursor end, whatever the store answers.

* Skipping to the first byte of a range takes a round for each byte, and one more.
* A chunk takes no more than seventeen turns for each block that is not behind the cursor, and
  one more.  What a handle reports as its size does not matter.
* A chunk after which more is to follow is not empty.
* So a transfer of `total` bytes ends, well or not, with its chunk number `total + 1` at the
  latest. -/
theorem loops_end (bs : BlockStore World Handle) :
    (∀ (buffer offset skip : Nat) (b : OpenBlock Handle) (w : World),
      skipBytesWithin bs buffer offset (skip + 1) b skip w =
        some (skipBytes bs buffer offset b skip w)) ∧
    (∀ (c : Cursor Handle) (w : World),
      nextChunkWithin bs (17 * (c.blocks.length - c.index) + 1) c w =
        some (c.nextChunk bs w)) ∧
    (∀ (c : Cursor Handle) (w : World) (chunk : Chunk),
      (c.nextChunk bs w).1 = .ok chunk → chunk.done = false → chunk.data ≠ []) ∧
    ∀ c : Cursor Handle, c.Fresh → ∀ w : World,
      ∃ ending, ((source bs).run (c.total + 1) c w).1.ending = some ending := by
  refine ⟨fun buffer offset skip b w => ?skip, fun c w => ?chunk, fun c w chunk answer more => ?solid,
    fun c fresh w => ?drain⟩
  case skip => exact skipBytesWithin_eq bs buffer offset (Nat.lt_succ_self skip) b w
  case chunk => exact nextChunkWithin_eq bs (Nat.lt_succ_of_le c.patience_le) w
  case solid => exact ne_nil_of_more (Prod.ext answer rfl) more
  case drain =>
    refine Option.isSome_iff_exists.1 (ending_run bs ?_ w)
    exact Nat.lt_succ_of_le (Nat.le_of_eq fresh.remaining)

/-- Two blocks that are read one byte at a time, the first one through handles that report a
thousand bytes too many.  A cursor that decrypts goes by what they report. -/
theorem loops_end_of_misreported :
    let k : CipherKey :=
      ⟨.aes128, List.replicate 16 0, List.replicate 16 0, rfl, rfl⟩
    let plan : FaultPlan := ⟨[(SlowPair.one, { maxRead := some 1, openSize := some 1003 }),
      (SlowPair.two, { maxRead := some 1 })]⟩
    let w : Faulted MemoryBlocks := ⟨SlowPair.blocks [1, 2, 3] [4], plan⟩
    let c (key : Option CipherKey) : Cursor (FaultedHandle MemoryHandle) :=
      .wholeFile SlowPair.ref ⟨5, [SlowPair.one, SlowPair.two]⟩ key 2
    let chunk : Chunk := .more [1]
    (((c none).nextChunk SlowPair.store w).1 = .ok chunk ∧ chunk.data ≠ []) ∧
      ∃ ending, ((source SlowPair.store).run 6 (c (some k)) w).1.ending = some ending := by
  intro k plan w c chunk
  obtain ⟨-, ends, solid, drains⟩ := loops_end SlowPair.store
  have answer : ((c none).nextChunk SlowPair.store w).1 = .ok chunk := by
    have first : (nextChunkWithin SlowPair.store (17 * (2 - 0) + 1) (c none) w).map Prod.fst =
        some (.ok chunk) := by
      decide
    rw [show nextChunkWithin SlowPair.store (17 * (2 - 0) + 1) (c none) w = _ from ends (c none) w]
      at first
    exact Option.some.inj first
  exact ⟨⟨answer, solid _ w chunk answer rfl⟩, drains (c (some k)) (.wholeFile ..) w⟩

end Cursor

end StreamGate
