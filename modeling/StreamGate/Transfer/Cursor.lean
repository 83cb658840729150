import StreamGate.Cipher.Decryptor
import StreamGate.Range
import StreamGate.Storage.BlockStore
import StreamGate.Transfer.Source

/-!
# The block cursor

Puts a file together from its blocks, one bounded read at a time.  A cursor
covers three kinds of transfer: a whole file, decrypted block by block if a key
is given; a byte range of a file that is not encrypted; one block as it is
stored.

At most one block is open at a time.  A range is positioned on the first step,
by looking up block sizes until the block with the first byte is found.

`Cursor.nextChunk` repeats a turn until bytes come out.  A turn that hands out
nothing has read ciphertext or left a block behind, so `Cursor.progress` falls
and the repetition ends whatever the store answers.
-/

namespace StreamGate

/-- A block that is being read. -/
structure OpenBlock (Handle : Type) where
  handle : Handle
  /-- Stored bytes that are still to come, going by the size the handle
  reported. -/
  left : Nat
  /-- The decryption of this block, for an encrypted file. -/
  decryptor : Option Decryptor

/-- A transfer of blocks, part of the way through. -/
structure Cursor (Handle : Type) where
  store : StoreRef
  blocks : List BlockId
  /-- The block that is open, or that is opened next. -/
  index : Nat
  current : Option (OpenBlock Handle)
  /-- Bytes to deliver in all. -/
  total : Nat
  /-- Bytes still to deliver. -/
  remaining : Nat
  /-- The first byte of a range that is not positioned yet. -/
  seekTo : Option Nat
  key : Option CipherKey
  /-- The most bytes asked for at a time. -/
  buffer : Nat
  buffer_pos : 0 < buffer
  index_lt : current.isSome → index < blocks.length

namespace Cursor

variable {World Handle : Type}

/-! ## The three kinds of transfer -/

/-- A cursor before its first step.  A buffer of no bytes counts as one. -/
def start (store : StoreRef) (blocks : List BlockId) (total buffer : Nat) : Cursor Handle where
  store := store
  blocks := blocks
  index := 0
  current := none
  total := total
  remaining := total
  seekTo := none
  key := none
  buffer := max 1 buffer
  buffer_pos := Nat.le_max_left 1 buffer
  index_lt := fun isOpen => nomatch isOpen

/-- Delivers a whole file. -/
def wholeFile (store : StoreRef) (manifest : Manifest) (key : Option CipherKey) (buffer : Nat) :
    Cursor Handle :=
  { start store manifest.blocks manifest.fileSize.toNat buffer with key := key }

/-- Delivers a range of a file that is not encrypted. -/
def range (store : StoreRef) (manifest : Manifest) (range : ByteRange) (buffer : Nat) :
    Cursor Handle :=
  { start store manifest.blocks range.length.toNat buffer with seekTo := some range.first.toNat }

/-- Delivers one block as it is stored. -/
def singleBlock (store : StoreRef) (id : BlockId) (size buffer : Nat) : Cursor Handle :=
  start store [id] size buffer

/-! ## Opening, reading and leaving a block -/

/-- Closes the open block, if there is one. -/
def closeCurrent (bs : BlockStore World Handle) (c : Cursor Handle) (w : World) : World :=
  match c.current with
  | some b => bs.close b.handle w
  | none => w

/-- The cursor with no block open. -/
def bare (c : Cursor Handle) : Cursor Handle := { c with current := none, index_lt := by simp }

/-- The cursor with a block open. -/
def holding (c : Cursor Handle) (b : OpenBlock Handle) (h : c.index < c.blocks.length) :
    Cursor Handle :=
  { c with current := some b, index_lt := fun _ => h }

/-- Closes the open block and forgets its decryption. -/
def release (bs : BlockStore World Handle) (c : Cursor Handle) (w : World) :
    Cursor Handle × World :=
  (c.bare, c.closeCurrent bs w)

/-- Opens the block at the cursor. -/
def openAt (bs : BlockStore World Handle) (c : Cursor Handle) (h : c.index < c.blocks.length)
    (w : World) : Except TransferError (OpenBlock Handle) × World :=
  match bs.openBlock c.store c.blocks[c.index] w with
  | (.error e, w) => (.error (.block e), w)
  | (.ok handle, w) => (.ok ⟨handle, bs.size handle, c.key.map Decryptor.start⟩, w)

/-- Leaves a block behind. -/
def advance (bs : BlockStore World Handle) (c : Cursor Handle) (b : OpenBlock Handle) (w : World) :
    Cursor Handle × World :=
  ({ c.bare with index := c.index + 1, index_lt := by simp [bare] }, bs.close b.handle w)

/-- Reads on in a block. -/
def readBlock (bs : BlockStore World Handle) (b : OpenBlock Handle) (want : Nat) (w : World) :
    Except TransferError Bytes × OpenBlock Handle × World :=
  match bs.read b.handle want w with
  | (.error e, handle, w) => (.error (.block e), { b with handle }, w)
  | (.ok bytes, handle, w) => (.ok bytes.val, { b with handle, left := b.left - bytes.val.length }, w)

/-! ## Positioning a range -/

/-- The block that holds the byte at `offset`, from block `i` on, and the number
of bytes before it. -/
def locate (bs : BlockStore World Handle) (store : StoreRef) (blocks : List BlockId)
    (offset i before : Nat) (w : World) :
    Except Failure (Option (Fin blocks.length × Nat)) × World :=
  if h : i < blocks.length then
    match bs.stat store blocks[i] w with
    | (.error e, w) => (.error e, w)
    | (.ok size, w) =>
      if offset < before + size then (.ok (some (⟨i, h⟩, before)), w)
      else locate bs store blocks offset (i + 1) (before + size) w
  else (.ok none, w)
termination_by blocks.length - i

/-- Reads `skip` bytes of a block and drops them. -/
def skipBytes (bs : BlockStore World Handle) (buffer offset : Nat) (b : OpenBlock Handle)
    (skip : Nat) (w : World) : Except TransferError Unit × OpenBlock Handle × World :=
  if skip = 0 then (.ok (), b, w)
  else
    match readBlock bs b (min skip buffer) w with
    | (.error e, b, w) => (.error e, b, w)
    | (.ok [], b, w) => (.error (.rangeOutsideBlocks offset), b, w)
    | (.ok (_ :: more), b, w) => skipBytes bs buffer offset b (skip - (more.length + 1)) w
termination_by skip

/-- Opens the block with the byte at `offset` and skips what comes before it.  A
block that is still open is closed once the new one is there. -/
def position (bs : BlockStore World Handle) (c : Cursor Handle) (offset : Nat) (w : World) :
    Except TransferError Unit × Cursor Handle × World :=
  match locate bs c.store c.blocks offset 0 0 w with
  | (.error e, w) => (.error (.block e), c, w)
  | (.ok none, w) => (.error (.rangeOutsideBlocks offset), c, w)
  | (.ok (some (i, before)), w) =>
    let c := { c with index := i.val, index_lt := fun _ => i.isLt }
    match c.openAt bs i.isLt w with
    | (.error e, w) => (.error e, c, w)
    | (.ok b, w) =>
      let (r, b, w) := skipBytes bs c.buffer offset b (offset - before) (c.closeCurrent bs w)
      (r, c.holding b i.isLt, w)

/-- Positions a range, once. -/
def begin (bs : BlockStore World Handle) (c : Cursor Handle) (w : World) :
    Except TransferError Unit × Cursor Handle × World :=
  match c.seekTo with
  | none => (.ok (), c, w)
  | some offset => position bs { c with seekTo := none } offset w

/-! ## One turn -/

/-- Reads from a block that is stored as it is.  An exhausted block is left
behind and nothing comes out. -/
def turnPlain (bs : BlockStore World Handle) (c : Cursor Handle) (b : OpenBlock Handle)
    (h : c.index < c.blocks.length) (w : World) :
    Except TransferError (Option Bytes) × Cursor Handle × World :=
  match readBlock bs b (min c.remaining c.buffer) w with
  | (.error e, b, w) => (.error e, c.holding b h, w)
  | (.ok [], b, w) =>
    let (c, w) := c.advance bs b w
    (.ok none, c, w)
  | (.ok (x :: more), b, w) => (.ok (some (x :: more)), c.holding b h, w)

/-- Gives ciphertext to the decryption of a block. -/
def decryptPiece (b : OpenBlock Handle) (piece : Bytes) :
    Except TransferError Bytes × OpenBlock Handle :=
  match b.decryptor with
  | none => (.error (.block (.internal "no decrypt context for current block")), b)
  | some d =>
    let (plain, d) := d.update piece
    (.ok plain, { b with decryptor := some d })

/-- Ends the decryption of a block whose stored bytes are all read, and leaves
the block behind.  `plain` is what has come out in this turn. -/
def finishBlock (bs : BlockStore World Handle) (c : Cursor Handle) (b : OpenBlock Handle)
    (h : c.index < c.blocks.length) (plain : Bytes) (w : World) :
    Except TransferError Bytes × Cursor Handle × World :=
  if b.left = 0 then
    match b.decryptor with
    | none =>
      (.error (.block (.internal "no decrypt context for current block")), c.holding b h, w)
    | some d =>
      match d.finish with
      | .error e => (.error (.block e), c.holding { b with decryptor := none } h, w)
      | .ok last =>
        let (c, w) := c.advance bs b w
        (.ok (plain ++ last), c, w)
  else (.ok plain, c.holding b h, w)

/-- No bytes are nothing. -/
def someBytes : Bytes → Option Bytes
  | [] => none
  | x :: more => some (x :: more)

/-- Reads from an encrypted block.  What comes out may be shorter or longer than
what was read, and may be nothing. -/
def turnEncrypted (bs : BlockStore World Handle) (c : Cursor Handle) (b : OpenBlock Handle)
    (h : c.index < c.blocks.length) (w : World) :
    Except TransferError (Option Bytes) × Cursor Handle × World :=
  if b.left = 0 then
    let (r, c, w) := finishBlock bs c b h [] w
    (r.map someBytes, c, w)
  else
    match readBlock bs b (min b.left c.buffer) w with
    | (.error e, b, w) => (.error e, c.holding b h, w)
    | (.ok [], b, w) => (.error (.truncated c.remaining), c.holding b h, w)
    | (.ok (x :: more), b, w) =>
      match decryptPiece b (x :: more) with
      | (.error e, b) => (.error e, c.holding b h, w)
      | (.ok plain, b) =>
        let (r, c, w) := finishBlock bs c b h plain w
        (r.map someBytes, c, w)

/-- Reads from the open block. -/
def turnOpen (bs : BlockStore World Handle) (c : Cursor Handle) (b : OpenBlock Handle)
    (h : c.index < c.blocks.length) (w : World) :
    Except TransferError (Option Bytes) × Cursor Handle × World :=
  if c.key.isSome then turnEncrypted bs c b h w else turnPlain bs c b h w

/-- Opens the next block if none is open, and reads from it. -/
def turn (bs : BlockStore World Handle) (c : Cursor Handle) (w : World) :
    Except TransferError (Option Bytes) × Cursor Handle × World :=
  match current : c.current with
  | some b => turnOpen bs c b (c.index_lt (by simp [current])) w
  | none =>
    if h : c.index < c.blocks.length then
      match c.openAt bs h w with
      | (.error e, w) => (.error e, c, w)
      | (.ok b, w) => turnOpen bs c b h w
    else (.error (.truncated c.remaining), c, w)

theorem turn_of_some {bs : BlockStore World Handle} {c : Cursor Handle} {b : OpenBlock Handle}
    {w : World} (current : c.current = some b) (h : c.index < c.blocks.length) :
    c.turn bs w = turnOpen bs c b h w := by
  unfold turn
  split
  · rename_i b₁ current₁
    rw [current] at current₁
    cases current₁
    rfl
  · rename_i missing
    rw [current] at missing
    cases missing

theorem turn_of_none {bs : BlockStore World Handle} {c : Cursor Handle} {w : World}
    (current : c.current = none) :
    c.turn bs w = if h : c.index < c.blocks.length then
      match c.openAt bs h w with
      | (.error e, w) => (.error e, c, w)
      | (.ok b, w) => turnOpen bs c b h w
    else (.error (.truncated c.remaining), c, w) := by
  unfold turn
  split
  · rename_i b₁ present
    rw [current] at present
    cases present
  · rfl

/-! ## Progress -/

/-- What falls with every turn that hands out nothing: the blocks not yet left
behind, then whether the next one is still to be opened, then its stored bytes. -/
def progress (c : Cursor Handle) : Nat × Nat × Nat :=
  (c.blocks.length - c.index, if c.current.isSome then 0 else 1, c.current.elim 0 OpenBlock.left)

/-- `c'` has left the block of `c` behind, or has it open with less than `left`
bytes to come. -/
def Beyond (c c' : Cursor Handle) (left : Nat) : Prop :=
  c'.blocks = c.blocks ∧
    (c'.index = c.index + 1 ∨ c'.index = c.index ∧ ∃ b, c'.current = some b ∧ b.left < left)

theorem readBlock_left {bs : BlockStore World Handle} {b b' : OpenBlock Handle} {want : Nat}
    {w w' : World} {bytes : Bytes} (h : readBlock bs b want w = (.ok bytes, b', w')) :
    b'.left = b.left - bytes.length := by
  unfold readBlock at h
  split at h
  · cases h
  · cases h; rfl

theorem finishBlock_beyond {bs : BlockStore World Handle} {c c' : Cursor Handle}
    {b : OpenBlock Handle} {h : c.index < c.blocks.length} {plain out : Bytes} {w w' : World}
    {left : Nat} (hleft : b.left ≠ 0 → b.left < left)
    (ok : finishBlock bs c b h plain w = (.ok out, c', w')) : c.Beyond c' left := by
  unfold finishBlock at ok
  split at ok
  · split at ok
    · cases ok
    · split at ok
      · cases ok
      · cases ok; exact ⟨rfl, .inl rfl⟩
  · rename_i hne
    cases ok; exact ⟨rfl, .inr ⟨rfl, b, rfl, hleft hne⟩⟩

theorem turnOpen_beyond {bs : BlockStore World Handle} {c c' : Cursor Handle}
    {b : OpenBlock Handle} {h : c.index < c.blocks.length} {w w' : World}
    (ok : turnOpen bs c b h w = (.ok none, c', w')) : c.Beyond c' b.left := by
  have of_finish {b' : OpenBlock Handle} {plain : Bytes} {w : World}
      (hleft : b'.left ≠ 0 → b'.left < b.left)
      (ok : (let (r, c, w) := finishBlock bs c b' h plain w; (r.map someBytes, c, w))
        = (.ok none, c', w')) : c.Beyond c' b.left := by
    match hf : finishBlock bs c b' h plain w with
    | (.error e, c'', w'') => simp [hf, Except.map] at ok
    | (.ok out, c'', w'') =>
      simp only [hf, Except.map, Prod.mk.injEq] at ok
      obtain ⟨_, rfl, rfl⟩ := ok
      exact finishBlock_beyond hleft hf
  unfold turnOpen at ok
  split at ok
  · unfold turnEncrypted at ok
    split at ok
    · rename_i hz
      exact of_finish (fun hne => absurd hz hne) ok
    · rename_i hne
      split at ok
      · cases ok
      · cases ok
      · rename_i b₁ _ hread
        have hb₁ := readBlock_left hread
        unfold decryptPiece at ok
        split at ok
        · rename_i heq
          split at heq <;> cases heq
          cases ok
        · rename_i heq
          split at heq <;> cases heq
          refine of_finish (fun _ => ?_) ok
          simp only [List.length_cons] at hb₁
          simp only
          omega
  · unfold turnPlain at ok
    split at ok
    · cases ok
    · cases ok; exact ⟨rfl, .inl rfl⟩
    · cases ok

/-- A turn that hands out nothing makes progress. -/
theorem progress_turn {bs : BlockStore World Handle} {c c' : Cursor Handle} {w w' : World}
    (ok : c.turn bs w = (.ok none, c', w')) :
    Prod.Lex (· < ·) (Prod.Lex (· < ·) (· < ·)) c'.progress c.progress := by
  have of_beyond {left : Nat} (h : c.index < c.blocks.length) (hb : c.Beyond c' left)
      (hc : c.current = none ∨ ∃ b, c.current = some b ∧ b.left = left) :
      Prod.Lex (· < ·) (Prod.Lex (· < ·) (· < ·)) c'.progress c.progress := by
    obtain ⟨hblocks, hindex | ⟨hindex, b', hb', hlt⟩⟩ := hb
    · apply Prod.Lex.left
      simp only [hblocks, hindex]
      omega
    · simp only [progress, hblocks, hindex, hb']
      apply Prod.Lex.right
      rcases hc with hc | ⟨b, hc, rfl⟩
      · simp only [hc]
        apply Prod.Lex.left
        simp
      · simp only [hc]
        exact Prod.Lex.right _ hlt
  unfold turn at ok
  split at ok
  · rename_i b hc
    exact of_beyond (c.index_lt (by simp [hc])) (turnOpen_beyond ok) (.inr ⟨b, hc, rfl⟩)
  · rename_i hc
    split at ok
    · rename_i h
      split at ok
      · cases ok
      · exact of_beyond h (turnOpen_beyond ok) (.inl hc)
    · cases ok

/-! ## Delivery -/

/-- Takes turns until bytes come out, all bytes are delivered, or a turn fails.
The chunk that completes the transfer is marked as the last one. -/
def nextChunk (bs : BlockStore World Handle) (c : Cursor Handle) (w : World) :
    Except TransferError Chunk × Cursor Handle × World :=
  if c.remaining = 0 then
    let (c, w) := c.release bs w
    (.ok (.last []), c, w)
  else
    match taken : c.turn bs w with
    | (.error e, c, w) => (.error e, c, w)
    | (.ok none, c', w) => nextChunk bs c' w
    | (.ok (some data), c', w) =>
      if c'.remaining < data.length then (.error (.overrun c'.total), c', w)
      else
        let c' := { c' with remaining := c'.remaining - data.length }
        if c'.remaining = 0 then
          let (c', w) := c'.release bs w
          (.ok (.last data), c', w)
        else (.ok (.more data), c', w)
termination_by c.progress
decreasing_by exact progress_turn taken

/-- A chunk, by the turn that it begins with. -/
theorem nextChunk_eq (bs : BlockStore World Handle) (c : Cursor Handle) (w : World) :
    c.nextChunk bs w =
      if c.remaining = 0 then (.ok (.last []), c.release bs w)
      else match c.turn bs w with
        | (.error e, c, w) => (.error e, c, w)
        | (.ok none, c, w) => c.nextChunk bs w
        | (.ok (some data), c, w) =>
          if c.remaining < data.length then (.error (.overrun c.total), c, w)
          else if c.remaining - data.length = 0 then
            (.ok (.last data), { c with remaining := c.remaining - data.length }.release bs w)
          else (.ok (.more data), { c with remaining := c.remaining - data.length }, w) := by
  rw [nextChunk]
  split
  · rfl
  · split <;> rename_i taken
    · rw [taken]
    · rw [taken]
    · rw [taken]

/-- Cursors as a transfer source. -/
def source (bs : BlockStore World Handle) : Source World (Cursor Handle) where
  start := Cursor.begin bs
  nextChunk := nextChunk bs
  release := release bs

end Cursor

end StreamGate
