import StreamGate.Proofs.Storage.Serving
import StreamGate.Proofs.Transfer.Ending
import StreamGate.Proofs.Transfer.Straddling

/-!
# Encrypted transfers and the size of the buffer

A transfer is over with its last announced byte.  When that byte comes out with a filled
buffer, what is left of its block is neither read nor checked.

* `Depot.Reading.turned`: what a turn within a block comes to, by how much of the block is
  still to be read.
* `Depot.ends_of_whole`, `Depot.ends_of_cut`: whole blocks are handed out whatever the
  buffer, and so is what the buffer cuts short.
* `Depot.accountedWithin`: nothing else ends well, by induction on the turns of a transfer.
* `Cursor.encrypted_outcome`: the outcome depends on the buffer exactly if the announced
  size straddles a block.
-/

namespace StreamGate

/-! ## Blocks in memory -/

/-- A transfer of an encrypted file from blocks in memory, with a buffer. -/
structure Depot where
  blocks : MemoryBlocks
  ref : StoreRef
  key : CipherKey
  buffer : Nat

namespace Depot

open Cursor (Ends someBytes getD_someBytes)

/-- The stored bytes of a block. -/
def contents (d : Depot) (id : BlockId) : Option Bytes := d.blocks.get? d.ref id

/-- A cursor of this transfer.  What was looked up and opened before does not matter. -/
structure Serves (d : Depot) (c : Cursor MemoryHandle) (m : MemoryBlocks) : Prop where
  store : c.store = d.ref
  key : c.key = some d.key
  buffer : c.buffer = d.buffer
  table : m.blocks = d.blocks.blocks

/-- A cursor that has these blocks still to open. -/
structure Between (d : Depot) (c : Cursor MemoryHandle) (m : MemoryBlocks)
    (ahead : List BlockId) : Prop extends d.Serves c m where
  closed : c.current = none
  ahead : c.blocks.drop c.index = ahead

/-- A block of which `read` was read and `rest` is still to be read. -/
def midway (k : CipherKey) (size : Nat) (read rest : Bytes) : OpenBlock MemoryHandle where
  handle := ⟨size, rest⟩
  left := rest.length
  decryptor := some ((Decryptor.start k).update read).2

/-- A cursor within a block. -/
structure Within (d : Depot) (c : Cursor MemoryHandle) (m : MemoryBlocks) (read rest : Bytes)
    (ahead : List BlockId) : Prop extends d.Serves c m where
  current : ∃ size, c.current = some (midway d.key size read rest)
  ahead : c.blocks.drop (c.index + 1) = ahead

variable {d : Depot} {c : Cursor MemoryHandle} {m : MemoryBlocks} {read rest : Bytes}
  {ahead : List BlockId}

/-- What a turn within a block comes to. -/
inductive Turned (d : Depot) (c : Cursor MemoryHandle) (read rest : Bytes) (ahead : List BlockId) :
    Except TransferError (Option Bytes) × Cursor MemoryHandle × MemoryBlocks → Prop
  /-- The last of the block was read, and it does not decrypt. -/
  | refused {e : TransferError} {c' : Cursor MemoryHandle} {m' : MemoryBlocks}
      (all : rest.length ≤ d.buffer) (bad : ∀ plain, d.key.decrypt (read ++ rest) ≠ .ok plain) :
      Turned d c read rest ahead (.error e, c', m')
  /-- The last of the block was read and the block is left behind. -/
  | left {data : Bytes} {c' : Cursor MemoryHandle} {m' : MemoryBlocks}
      (all : rest.length ≤ d.buffer)
      (opened : d.key.decrypt (read ++ rest) = .ok (d.key.early read ++ data))
      (between : d.Between c' m' ahead) (remaining : c'.remaining = c.remaining) :
      Turned d c read rest ahead (.ok (someBytes data), c', m')
  /-- The buffer was filled, with some of the block still to be read. -/
  | filled {piece more data : Bytes} {c' : Cursor MemoryHandle} {m' : MemoryBlocks}
      (split : rest = piece ++ more) (full : piece.length = d.buffer) (some : more ≠ [])
      (early : d.key.early (read ++ piece) = d.key.early read ++ data)
      (within : d.Within c' m' (read ++ piece) more ahead)
      (remaining : c'.remaining = c.remaining) :
      Turned d c read rest ahead (.ok (someBytes data), c', m')

theorem readBlock_midway (k : CipherKey) (size want : Nat) (read rest : Bytes)
    (m : MemoryBlocks) :
    Cursor.readBlock MemoryBlocks.store (midway k size read rest) want m =
      (.ok (rest.take want), { midway k size read rest with
        handle := ⟨size, rest.drop want⟩
        left := rest.length - (rest.take want).length }, m) := rfl

/-- The last of a block. -/
theorem turned_finish (serves : d.Serves c m) (h : c.index < c.blocks.length)
    (after : c.blocks.drop (c.index + 1) = ahead) {b : OpenBlock MemoryHandle}
    (empty : b.left = 0)
    (decryptor : b.decryptor = some ((Decryptor.start d.key).update (read ++ rest)).2)
    (out : Bytes) (early : d.key.early (read ++ rest) = d.key.early read ++ out)
    (all : rest.length ≤ d.buffer) :
    let (r, c', m') := Cursor.finishBlock MemoryBlocks.store c b h out m
    d.Turned c read rest ahead (r.map someBytes, c', m') := by
  unfold Cursor.finishBlock
  rw [if_pos empty, decryptor]
  dsimp only
  cases finished : ((Decryptor.start d.key).update (read ++ rest)).2.finish with
  | error e =>
    refine .refused all fun plain opened => ?_
    obtain ⟨last, ended, -⟩ := CipherKey.decrypt_eq_ok_iff.1 opened
    rw [finished] at ended
    cases ended
  | ok last =>
    refine .left all ?_ ⟨⟨serves.store, serves.key, serves.buffer, serves.table⟩, rfl, after⟩ rfl
    refine CipherKey.decrypt_eq_ok_iff.2 ⟨last, finished, ?_⟩
    rw [← List.append_assoc, ← early]
    rfl

/-- A piece of a block, as much as the buffer takes. -/
theorem turned_piece (serves : d.Serves c m) (h : c.index < c.blocks.length)
    (after : c.blocks.drop (c.index + 1) = ahead) (size : Nat) (read : Bytes)
    {piece more : Bytes} (length : piece.length = min (piece ++ more).length c.buffer) :
    let updated := ((Decryptor.start d.key).update read).2.update piece
    let b : OpenBlock MemoryHandle := ⟨⟨size, more⟩, more.length, some updated.2⟩
    let (r, c', m') := Cursor.finishBlock MemoryBlocks.store c b h updated.1 m
    d.Turned c read (piece ++ more) ahead (r.map someBytes, c', m') := by
  intro updated b
  have update := Decryptor.update_append (Decryptor.start d.key) read piece
  have early : d.key.early (read ++ piece) = d.key.early read ++ updated.1 :=
    CipherKey.early_append d.key read piece
  rw [List.length_append] at length
  cases more with
  | nil =>
    have all : piece.length ≤ d.buffer := by
      rw [← serves.buffer]
      rw [List.length_nil] at length
      omega
    have decryptor : b.decryptor = some ((Decryptor.start d.key).update (read ++ piece)).2 := by
      rw [update]
    rw [List.append_nil]
    exact turned_finish serves h after rfl decryptor updated.1 early all
  | cons x tail =>
    have full : piece.length = d.buffer := by
      rw [← serves.buffer]
      rw [List.length_cons] at length
      omega
    have unread : b.left ≠ 0 := Nat.succ_ne_zero _
    unfold Cursor.finishBlock
    rw [if_neg unread]
    refine .filled rfl full (List.cons_ne_nil x tail) early ?_ rfl
    refine ⟨⟨serves.store, serves.key, serves.buffer, serves.table⟩, ⟨size, ?_⟩, after⟩
    rw [midway, update]
    rfl

/-- A turn within a block. -/
theorem turned_open (serves : d.Serves c m) (h : c.index < c.blocks.length)
    (after : c.blocks.drop (c.index + 1) = ahead) (size : Nat) (read rest : Bytes) :
    d.Turned c read rest ahead
      (Cursor.turnOpen MemoryBlocks.store c (midway d.key size read rest) h m) := by
  have key : c.key.isSome = true := by
    rw [serves.key]
    rfl
  unfold Cursor.turnOpen Cursor.turnEncrypted
  rw [if_pos key]
  by_cases nothing : rest = []
  · subst nothing
    have left : (midway d.key size read []).left = 0 := rfl
    rw [if_pos left]
    refine turned_finish serves h after left ?_ [] ?_ ?_
    · rw [List.append_nil]
      rfl
    · rw [List.append_nil, List.append_nil]
    · exact Nat.zero_le _
  · have some : 0 < rest.length := List.length_pos_iff.2 nothing
    have left : (midway d.key size read rest).left = rest.length := rfl
    have pos := c.buffer_pos
    rw [left, if_neg (Nat.ne_of_gt some), readBlock_midway]
    obtain ⟨piece, more, rfl, length⟩ : ∃ piece more, rest = piece ++ more ∧
        piece.length = min rest.length c.buffer :=
      ⟨_, _, (List.take_append_drop (min rest.length c.buffer) rest).symm,
        List.length_take_of_le (Nat.min_le_left ..)⟩
    rw [← length, List.take_left, List.drop_left, List.length_append, Nat.add_sub_cancel_left]
    have turned := turned_piece serves h after size read length
    cases piece with
    | nil =>
      rw [List.length_nil] at length
      omega
    | cons x tail => exact turned

/-! ## Where a cursor stands -/

/-- A cursor that reads a block next, one that is open or the next one to open. -/
inductive Reading (d : Depot) (c : Cursor MemoryHandle) (m : MemoryBlocks) :
    (id : BlockId) → (read rest : Bytes) → (ahead : List BlockId) → Prop
  | within {id : BlockId} {read rest : Bytes} {ahead : List BlockId}
      (within : d.Within c m read rest ahead) (found : d.contents id = some (read ++ rest))
      (unread : rest ≠ []) : Reading d c m id read rest ahead
  | fresh {id : BlockId} {stored : Bytes} {ahead : List BlockId}
      (between : d.Between c m (id :: ahead)) (found : d.contents id = some stored) :
      Reading d c m id [] stored ahead

variable {id : BlockId} {out : Bytes}

theorem Reading.found (reading : d.Reading c m id read rest ahead) :
    d.contents id = some (read ++ rest) := by
  cases reading with
  | within _ found => exact found
  | fresh _ found => exact found

theorem Between.index_lt (between : d.Between c m (id :: ahead)) :
    ∃ h : c.index < c.blocks.length, c.blocks[c.index] = id ∧
      c.blocks.drop (c.index + 1) = ahead := by
  have ahead_eq := between.ahead
  have h : c.index < c.blocks.length := by
    have lengths := congrArg List.length ahead_eq
    rw [List.length_drop, List.length_cons] at lengths
    omega
  rw [List.drop_eq_getElem_cons h] at ahead_eq
  cases ahead_eq
  exact ⟨h, rfl, rfl⟩

/-- A block that is there is opened. -/
theorem Between.openAt (between : d.Between c m (id :: ahead)) {stored : Bytes}
    (found : d.contents id = some stored) (h : c.index < c.blocks.length) :
    c.openAt MemoryBlocks.store h m =
      (.ok (midway d.key stored.length [] stored), { m with opens := m.opens + 1 }) := by
  obtain ⟨_, same, -⟩ := between.index_lt
  have there : m.get? d.ref id = some stored := by
    rw [← found]
    unfold contents MemoryBlocks.get?
    rw [between.table]
  simp only [Cursor.openAt, MemoryBlocks.store, same, between.store, MemoryBlocks.lookup, there,
    between.key, midway, Decryptor.update_start_nil]
  rfl

/-- A block that is missing is an error, and so is the end of the blocks. -/
theorem Between.turn_failed (between : d.Between c m ahead)
    (missing : ∀ id rest, ahead = id :: rest → d.contents id = none) :
    ∃ e s, c.turn MemoryBlocks.store m = (.error e, s) := by
  rw [Cursor.turn_of_none between.closed]
  cases ahead with
  | nil =>
    have out : ¬c.index < c.blocks.length := by
      have lengths := congrArg List.length between.ahead
      rw [List.length_drop, List.length_nil] at lengths
      omega
    rw [dif_neg out]
    exact ⟨_, _, rfl⟩
  | cons id rest =>
    obtain ⟨h, same, -⟩ := between.index_lt
    have absent : m.get? d.ref id = none := by
      rw [← missing id rest rfl]
      unfold contents MemoryBlocks.get?
      rw [between.table]
    rw [dif_pos h]
    simp only [Cursor.openAt, MemoryBlocks.store, same, between.store, MemoryBlocks.lookup, absent]
    exact ⟨_, _, rfl⟩

theorem Reading.turned (reading : d.Reading c m id read rest ahead) :
    d.Turned c read rest ahead (c.turn MemoryBlocks.store m) := by
  cases reading with
  | within within =>
    obtain ⟨size, current⟩ := within.current
    have h := c.index_lt (by rw [current]; rfl)
    rw [Cursor.turn_of_some current h]
    exact turned_open within.toServes h within.ahead size read rest
  | fresh between found =>
    obtain ⟨h, -, after⟩ := between.index_lt
    have opened : d.Serves c { m with opens := m.opens + 1 } :=
      ⟨between.store, between.key, between.buffer, between.table⟩
    rw [Cursor.turn_of_none between.closed, dif_pos h, between.openAt found h]
    exact turned_open opened h after rest.length [] rest

theorem Between.counting (between : d.Between c m ahead) (length : Nat) :
    d.Between (c.counting length) m ahead :=
  ⟨⟨between.store, between.key, between.buffer, between.table⟩, between.closed, between.ahead⟩

theorem Within.counting (within : d.Within c m read rest ahead) (length : Nat) :
    d.Within (c.counting length) m read rest ahead :=
  ⟨⟨within.store, within.key, within.buffer, within.table⟩, within.current, within.ahead⟩

/-- A turn within a block that hands out what is wanted. -/
theorem ends_of_turn {c' : Cursor MemoryHandle} {m' : MemoryBlocks} {data : Bytes}
    (wanted : c.remaining ≠ 0)
    (taken : c.turn MemoryBlocks.store m = (.ok (someBytes data), c', m'))
    (fits : data.length ≤ c'.remaining)
    (rest : ∃ out, Ends MemoryBlocks.store (c'.counting data.length) m' out) :
    ∃ out, Ends MemoryBlocks.store c m out := by
  obtain ⟨out, rest⟩ := rest
  refine ⟨(someBytes data).getD [] ++ out, .turn wanted taken ?_ ?_⟩
  · rwa [getD_someBytes]
  · rwa [getD_someBytes]

/-! ## What ends well -/

theorem buffer_pos (serves : d.Serves c m) : 0 < d.buffer := serves.buffer ▸ c.buffer_pos

theorem Reading.buffer_pos (reading : d.Reading c m id read rest ahead) : 0 < d.buffer := by
  cases reading with
  | within within => exact Depot.buffer_pos within.toServes
  | fresh between => exact Depot.buffer_pos between.toServes

/-- A block that decrypts is handed out, and the transfer goes on behind it. -/
theorem Reading.ends_of_opened {c : Cursor MemoryHandle} {m : MemoryBlocks}
    {read rest plain : Bytes} {size : Nat}
    (next : ∀ {c m}, d.Between c m ahead → c.remaining = size →
      ∃ out, Ends MemoryBlocks.store c m out)
    (reading : d.Reading c m id read rest ahead)
    (opened : d.key.decrypt (read ++ rest) = .ok plain)
    (counts : (d.key.early read).length + c.remaining = plain.length + size) :
    ∃ out, Ends MemoryBlocks.store c m out := by
  by_cases wanted : c.remaining = 0
  · exact ⟨[], .done wanted⟩
  have turned := reading.turned
  generalize taken : c.turn MemoryBlocks.store m = answer at turned
  cases turned with
  | refused _ bad => exact absurd opened (bad plain)
  | @left data c' m' all opened' between remaining =>
    rw [opened'] at opened
    cases opened
    rw [List.length_append] at counts
    refine ends_of_turn wanted taken (by omega) (next (between.counting _) ?_)
    show c'.remaining - data.length = size
    omega
  | @filled piece more data c' m' split full some early within remaining =>
    subst split
    have pos := reading.buffer_pos
    have found := reading.found
    rw [← List.append_assoc] at opened found
    obtain ⟨later, plain_eq⟩ := CipherKey.update_prefix_of_decrypt opened
    have front : plain = d.key.early read ++ data ++ later := early ▸ plain_eq
    have lengths := congrArg List.length front
    rw [List.length_append, List.length_append] at lengths
    refine ends_of_turn wanted taken (by omega) ?_
    refine Reading.ends_of_opened next (.within (within.counting _) found some) opened ?_
    show (d.key.early (read ++ piece)).length + (c'.remaining - data.length) = plain.length + size
    rw [early, List.length_append]
    omega
termination_by rest.length
decreasing_by
  subst split
  rw [List.length_append]
  omega

/-- A buffer that is filled within the block, with the last wanted byte, ends the
transfer. -/
theorem Reading.ends_of_filled {c : Cursor MemoryHandle} {m : MemoryBlocks}
    {read rest : Bytes} {n last : Nat} (reading : d.Reading c m id read rest ahead)
    (start : read.length = n * d.buffer) (le : n ≤ last)
    (inside : last * d.buffer < (read ++ rest).length)
    (counts : (d.key.early read).length + c.remaining = Decryptor.ready (last * d.buffer)) :
    ∃ out, Ends MemoryBlocks.store c m out := by
  by_cases wanted : c.remaining = 0
  · exact ⟨[], .done wanted⟩
  have early_length := CipherKey.length_early d.key read
  have before : n < last := by
    refine Nat.lt_of_le_of_ne le ?_
    rintro rfl
    rw [start] at early_length
    omega
  have further : (n + 1) * d.buffer ≤ last * d.buffer := Nat.mul_le_mul_right _ before
  rw [Nat.succ_mul] at further
  rw [List.length_append] at inside
  have turned := reading.turned
  generalize taken : c.turn MemoryBlocks.store m = answer at turned
  cases turned with
  | refused all => omega
  | left all => omega
  | @filled piece more data c' m' split full some early within remaining =>
    subst split
    have found := reading.found
    have pos := reading.buffer_pos
    rw [← List.append_assoc] at found
    have length : (read ++ piece).length = (n + 1) * d.buffer := by
      rw [List.length_append, start, full, Nat.succ_mul]
    have within_last : Decryptor.ready ((n + 1) * d.buffer) ≤ Decryptor.ready (last * d.buffer) :=
      Decryptor.ready_mono (Nat.mul_le_mul_right d.buffer before)
    have lengths := congrArg List.length early
    rw [CipherKey.length_early, length, List.length_append] at lengths
    refine ends_of_turn wanted taken (by omega) ?_
    refine Reading.ends_of_filled (.within (within.counting _) found some) length before ?_ ?_
    · rw [List.append_assoc, List.length_append]
      exact inside
    · show (d.key.early (read ++ piece)).length + (c'.remaining - data.length) = _
      rw [early, List.length_append]
      omega
termination_by rest.length
decreasing_by
  subst split
  rw [List.length_append]
  omega

/-- Whole blocks are handed out, whatever the buffer. -/
theorem ends_of_whole {size : Nat} (whole : Encrypted.Whole d.contents d.key ahead size) :
    ∀ {c m}, d.Between c m ahead → c.remaining = size →
      ∃ out, Ends MemoryBlocks.store c m out := by
  induction whole with
  | enough blocks => exact fun _ nothing => ⟨[], .done nothing⟩
  | @block id rest size stored plain found opened fits more ih =>
    intro c m between remaining
    refine Reading.ends_of_opened ih (.fresh between found) opened ?_
    rw [CipherKey.early_nil, List.length_nil]
    omega

/-- So is what the buffer cuts short. -/
theorem ends_of_cut {size : Nat} (cut : Encrypted.Cut d.contents d.key d.buffer ahead size) :
    ∀ {c m}, d.Between c m ahead → c.remaining = size →
      ∃ out, Ends MemoryBlocks.store c m out := by
  induction cut with
  | @here id rest stored n found inside some =>
    intro c m between remaining
    refine Reading.ends_of_filled (n := 0) (.fresh between found) ?_ (Nat.zero_le n) inside ?_
    · rw [Nat.zero_mul]
      rfl
    · rw [CipherKey.early_nil, List.length_nil, remaining, Nat.zero_add]
  | later found opened fits more ih =>
    intro c m between remaining
    refine Reading.ends_of_opened ih (.fresh between found) opened ?_
    rw [CipherKey.early_nil, List.length_nil]
    omega

/-- What a transfer that ends well hands out of these blocks, when `front` was handed out
of the first of them before. -/
structure Accounted (d : Depot) (blocks : List BlockId) (front : Bytes) (remaining : Nat)
    (out : Bytes) : Prop where
  reason : Encrypted.Whole d.contents d.key blocks (front.length + remaining) ∨
    Encrypted.Cut d.contents d.key d.buffer blocks (front.length + remaining)
  stream : ∃ more, Encrypted.stream d.contents d.key blocks = front ++ out ++ more

/-- What is certain of a block comes out first. -/
theorem early_isPrefix_stream (ahead : List BlockId)
    (found : d.contents id = some (read ++ rest)) :
    ∃ more, Encrypted.stream d.contents d.key (id :: ahead) = d.key.early read ++ more := by
  unfold Encrypted.stream
  rw [found]
  dsimp only
  cases opened : d.key.decrypt (read ++ rest) with
  | error e => exact ⟨_, CipherKey.early_append d.key read rest⟩
  | ok plain =>
    obtain ⟨later, rfl⟩ := CipherKey.update_prefix_of_decrypt opened
    exact ⟨_, List.append_assoc ..⟩

theorem stream_of_opened {stored plain : Bytes} (found : d.contents id = some stored)
    (opened : d.key.decrypt stored = .ok plain) :
    Encrypted.stream d.contents d.key (id :: ahead) =
      plain ++ Encrypted.stream d.contents d.key ahead := by
  rw [Encrypted.stream, found]
  simp only [opened]

/-- A transfer within a block, by how often the buffer was filled with the block. -/
def AccountedWithin (d : Depot) (c : Cursor MemoryHandle) (m : MemoryBlocks) (out : Bytes) :
    Prop :=
  ∀ {id read rest ahead n}, d.Reading c m id read rest ahead → read.length = n * d.buffer →
    d.Accounted (id :: ahead) (d.key.early read) c.remaining out

/-- Between blocks nothing was handed out of the next one. -/
theorem AccountedWithin.between (within : d.AccountedWithin c m out)
    (ends : Ends MemoryBlocks.store c m out) (between : d.Between c m ahead) :
    d.Accounted ahead [] c.remaining out := by
  by_cases next : ∃ id rest stored, ahead = id :: rest ∧ d.contents id = some stored
  · obtain ⟨id, rest, stored, rfl, found⟩ := next
    have start : ([] : Bytes).length = 0 * d.buffer := (Nat.zero_mul d.buffer).symm
    have accounted := within (.fresh between found) start
    rwa [CipherKey.early_nil] at accounted
  · cases ends with
    | done nothing =>
      rw [nothing]
      exact ⟨.inl (.enough ahead), _, rfl⟩
    | turn wanted taken =>
      obtain ⟨e, s, failed⟩ := between.turn_failed fun id rest same => by
        rw [Option.eq_none_iff_forall_ne_some]
        exact fun stored found => next ⟨id, rest, stored, same, found⟩
      rw [taken] at failed
      cases failed

/-- A transfer that is over within a block has filled the buffer with its last byte. -/
theorem Reading.accounted_nil {n : Nat} (reading : d.Reading c m id read rest ahead)
    (start : read.length = n * d.buffer) : d.Accounted (id :: ahead) (d.key.early read) 0 [] := by
  obtain ⟨more, stream⟩ := early_isPrefix_stream ahead reading.found
  refine ⟨?_, more, by rw [stream, List.append_nil]⟩
  have length := CipherKey.length_early d.key read
  rw [start] at length
  rw [Nat.add_zero, length]
  by_cases nothing : Decryptor.ready (n * d.buffer) = 0
  · rw [nothing]
    exact .inl (.enough _)
  · refine .inr (.here n reading.found ?_ (Nat.pos_of_ne_zero nothing))
    rw [List.length_append, ← start]
    cases reading with
    | within _ _ unread =>
      have := List.length_pos_iff.2 unread
      omega
    | fresh => exact absurd length.symm (by rwa [CipherKey.early_nil])

/-- What comes behind a block that decrypts. -/
theorem Accounted.behind {remaining : Nat} {data : Bytes}
    (found : d.contents id = some (read ++ rest))
    (opened : d.key.decrypt (read ++ rest) = .ok (d.key.early read ++ data))
    (fits : data.length ≤ remaining)
    (accounted : d.Accounted ahead [] (remaining - data.length) out) :
    d.Accounted (id :: ahead) (d.key.early read) remaining (data ++ out) := by
  obtain ⟨reason, more, stream⟩ := accounted
  have size : (d.key.early read).length + remaining - (d.key.early read ++ data).length =
      ([] : Bytes).length + (remaining - data.length) := by
    rw [List.length_append, List.length_nil]
    omega
  have fits' : (d.key.early read ++ data).length ≤ (d.key.early read).length + remaining := by
    rw [List.length_append]
    omega
  rw [← size] at reason
  refine ⟨reason.imp (.block found opened fits') (.later found opened fits'), more, ?_⟩
  rw [stream_of_opened found opened, stream]
  simp only [List.nil_append, List.append_assoc]

/-- What comes after a piece of a block. -/
theorem Accounted.further {remaining : Nat} {blocks : List BlockId} {piece data : Bytes}
    (early : d.key.early (read ++ piece) = d.key.early read ++ data)
    (fits : data.length ≤ remaining)
    (accounted : d.Accounted blocks (d.key.early (read ++ piece)) (remaining - data.length) out) :
    d.Accounted blocks (d.key.early read) remaining (data ++ out) := by
  obtain ⟨reason, more, stream⟩ := accounted
  have size : (d.key.early (read ++ piece)).length + (remaining - data.length) =
      (d.key.early read).length + remaining := by
    rw [early, List.length_append]
    omega
  rw [size] at reason
  refine ⟨reason, more, ?_⟩
  rw [stream, early]
  simp only [List.append_assoc]

/-- Every transfer that ends well is accounted for. -/
theorem accountedWithin (ends : Ends MemoryBlocks.store c m out) : d.AccountedWithin c m out := by
  induction ends with
  | @done c m nothing =>
    intro id read rest ahead n reading start
    rw [nothing]
    exact reading.accounted_nil start
  | @turn c c' m m' o out wanted taken fits ends ih =>
    intro id read rest ahead n reading start
    have found := reading.found
    have turned := reading.turned
    rw [taken] at turned
    cases turned with
    | @left data _ _ all opened between remaining =>
      rw [getD_someBytes] at fits ends ih ⊢
      rw [remaining] at fits
      refine .behind found opened fits ?_
      rw [← remaining]
      exact ih.between ends (between.counting _)
    | @filled piece more data _ _ split full some early within remaining =>
      subst split
      rw [getD_someBytes] at fits ends ih ⊢
      rw [remaining] at fits
      rw [← List.append_assoc] at found
      have length : (read ++ piece).length = (n + 1) * d.buffer := by
        rw [List.length_append, start, full, Nat.succ_mul]
      refine .further early fits ?_
      rw [← remaining]
      exact ih (.within (within.counting _) found some) length

theorem Between.accounted (between : d.Between c m ahead)
    (ends : Ends MemoryBlocks.store c m out) : d.Accounted ahead [] c.remaining out :=
  AccountedWithin.between (accountedWithin ends) ends between

/-- A transfer between blocks ends well exactly if the blocks are whole or cut short. -/
theorem Between.ends_iff (between : d.Between c m ahead) :
    (∃ out, Ends MemoryBlocks.store c m out) ↔
      Encrypted.Whole d.contents d.key ahead c.remaining ∨
        Encrypted.Cut d.contents d.key d.buffer ahead c.remaining := by
  constructor
  · rintro ⟨out, ends⟩
    have reason := (between.accounted ends).reason
    rwa [List.length_nil, Nat.zero_add] at reason
  · rintro (whole | cut)
    · exact ends_of_whole whole between rfl
    · exact ends_of_cut cut between rfl

/-- What comes out are the first bytes of the stream, whatever the buffer. -/
theorem Between.out_eq (between : d.Between c m ahead) (ends : Ends MemoryBlocks.store c m out) :
    out = (Encrypted.stream d.contents d.key ahead).take c.remaining := by
  obtain ⟨more, stream⟩ := (between.accounted ends).stream
  rw [stream, List.nil_append, ← ends.length, List.take_left]

end Depot

/-! ## A block with damaged padding

Sixteen bytes in one stored block, with their padding and with other bytes in its place.
-/

namespace OneBlock

def key : CipherKey := ⟨.aes128, List.replicate 16 0, List.replicate 16 0, rfl, rfl⟩

def plain : CipherBlock := Vector.replicate 16 0

/-- The stored block, with a last block of plaintext in place of the padding. -/
def storedWith (last : CipherBlock) : Bytes :=
  CipherBlock.toBytesAll (Cbc.encryptBlocks key.cipher key.ivBlock [plain, last])

def intact : Bytes := key.encrypt plain.toList

def damaged : Bytes := storedWith plain

def manifest : Manifest := ⟨16, [SlowPair.one]⟩

def holding (stored : Bytes) : MemoryBlocks :=
  ({} : MemoryBlocks).put SlowPair.ref SlowPair.one stored

theorem get?_holding (stored : Bytes) :
    (holding stored).get? SlowPair.ref SlowPair.one = some stored := by
  rw [holding, MemoryBlocks.get?_put, if_pos rfl]

theorem length_storedWith (last : CipherBlock) : (storedWith last).length = 32 := by
  rw [storedWith, CipherBlock.length_toBytesAll, Cbc.length_encryptBlocks]
  rfl

theorem take_storedWith (last : CipherBlock) :
    (storedWith last).take 16 = (key.cipher.encrypt (CipherBlock.xor plain key.ivBlock)).toList :=
  List.take_left' Vector.length_toList

theorem intact_eq_storedWith : intact = storedWith (Vector.replicate 16 16) := by
  have padded : Padding.pad plain.toList =
      CipherBlock.toBytesAll [plain, Vector.replicate 16 16] := by decide
  rw [intact, CipherKey.encrypt, Cbc.encrypt, padded, CipherBlock.ofBytesAll_toBytesAll]
  rfl

/-- A last block that is no padding does not decrypt. -/
theorem not_decrypt_of_unpadded {last : CipherBlock} (unpadded : Padding.unpad? last.toList = none)
    (bytes : Bytes) : key.decrypt (storedWith last) ≠ .ok bytes := by
  intro opened
  obtain ⟨rest, finished, -⟩ := CipherKey.decrypt_eq_ok_iff.1 opened
  let block := key.cipher.encrypt (CipherBlock.xor plain key.ivBlock)
  have blocks : Cbc.encryptBlocks key.cipher key.ivBlock [plain, last] =
      [block] ++ [key.cipher.encrypt (CipherBlock.xor last block)] := rfl
  rw [storedWith, blocks, Decryptor.update_start_toBytesAll, Decryptor.finish_block,
    key.cipher_inverse.decrypt_encrypt] at finished
  have chain : Cbc.lastChain key.ivBlock [block] = block := rfl
  rw [chain, CipherBlock.xor_xor_cancel, unpadded] at finished
  cases finished

theorem damaged_bad (bytes : Bytes) : key.decrypt damaged ≠ .ok bytes :=
  not_decrypt_of_unpadded (by decide) bytes

open Encrypted

theorem straddles_damaged :
    Straddles ((holding damaged).get? SlowPair.ref) key manifest.blocks 16 := by
  refine .here (get?_holding damaged) (by decide) rfl ?_ fun bytes opened => ?_
  · rw [damaged, length_storedWith]
    decide
  · exact absurd opened (damaged_bad bytes)

theorem whole_intact : Whole ((holding intact).get? SlowPair.ref) key manifest.blocks 16 :=
  .block (get?_holding intact) (key.decrypt_encrypt plain.toList) (by decide) (.enough [])

end OneBlock

/-! ## The outcome of a transfer -/

namespace Cursor

open Encrypted

variable {m : MemoryBlocks} {ref : StoreRef} {manifest : Manifest} {k : CipherKey}
  {buffer limit : Nat}

theorem between_wholeFile (m : MemoryBlocks) (ref : StoreRef) (manifest : Manifest)
    (k : CipherKey) (buffer : Nat) :
    Depot.Between ⟨m, ref, k, max 1 buffer⟩ (wholeFile ref manifest (some k) buffer) m
      manifest.blocks where
  store := rfl
  key := rfl
  buffer := rfl
  table := rfl
  closed := rfl
  ahead := rfl

/-- A transfer ends well exactly if its blocks are whole or cut short by its buffer. -/
theorem ending_iff (enough : manifest.fileSize.toNat < limit) :
    ((source MemoryBlocks.store).run limit (wholeFile ref manifest (some k) buffer) m).1.ending =
        some (.ok ()) ↔
      Whole (m.get? ref) k manifest.blocks manifest.fileSize.toNat ∨
        Cut (m.get? ref) k (max 1 buffer) manifest.blocks manifest.fileSize.toNat := by
  have ends_iff := (between_wholeFile m ref manifest k buffer).ends_iff
  refine Iff.trans ?_ ends_iff
  constructor
  · exact fun ended => ⟨_, (drain_iff_ends enough).1 ⟨ended, rfl⟩⟩
  · rintro ⟨out, ends⟩
    exact ((drain_iff_ends enough).2 ends).1

/-- The bytes that come out of a transfer that ends well. -/
theorem bytes_of_ending (enough : manifest.fileSize.toNat < limit)
    (ended : ((source MemoryBlocks.store).run limit (wholeFile ref manifest (some k) buffer)
      m).1.ending = some (.ok ())) :
    ((source MemoryBlocks.store).run limit (wholeFile ref manifest (some k) buffer) m).1.bytes =
      (stream (m.get? ref) k manifest.blocks).take manifest.fileSize.toNat :=
  (between_wholeFile m ref manifest k buffer).out_eq ((drain_iff_ends enough).1 ⟨ended, rfl⟩)

/-- What the size of the buffer has to do with the outcome of an encrypted transfer,
whatever is stored and whatever the manifest says.

* It has nothing to do with the bytes of a transfer that ends well.
* Unless the announced size straddles a block, a transfer ends well exactly if the blocks
  decrypt to that size, so the outcome does not depend on the buffer.
* If it does, there are buffers with which the transfer ends well and others with which
  it does not. -/
theorem encrypted_outcome (m : MemoryBlocks) (ref : StoreRef) (manifest : Manifest)
    (k : CipherKey) :
    let size := manifest.fileSize.toNat
    let outcome (buffer limit : Nat) : Drain :=
      ((source MemoryBlocks.store).run limit (wholeFile ref manifest (some k) buffer) m).1
    (∀ buffer limit, size < limit → (outcome buffer limit).ending = some (.ok ()) →
      (outcome buffer limit).bytes = (stream (m.get? ref) k manifest.blocks).take size) ∧
    (¬Straddles (m.get? ref) k manifest.blocks size → ∀ buffer limit, size < limit →
      ((outcome buffer limit).ending = some (.ok ()) ↔
        Whole (m.get? ref) k manifest.blocks size)) ∧
    (Straddles (m.get? ref) k manifest.blocks size → ∃ small large, ∀ limit, size < limit →
      (outcome small limit).ending = some (.ok ()) ∧
        (outcome large limit).ending ≠ some (.ok ())) := by
  intro size outcome
  refine ⟨?bytes, ?independent, ?dependent⟩
  case bytes => exact fun buffer limit enough ended => bytes_of_ending enough ended
  case independent =>
    intro aligned buffer limit enough
    refine (ending_iff enough).trans ⟨?_, .inl⟩
    rintro (whole | cut)
    · exact whole
    · exact cut.whole_or_straddles.resolve_right aligned
  case dependent =>
    intro straddles
    obtain ⟨small, pos, cut⟩ := straddles.exists_cut
    refine ⟨small, longest (m.get? ref) manifest.blocks, fun limit enough => ⟨?_, fun ended => ?_⟩⟩
    · refine (ending_iff enough).2 (.inr ?_)
      rwa [Nat.max_eq_right pos]
    · rcases (ending_iff enough).1 ended with whole | cut
      · exact straddles.not_whole whole
      · exact not_cut_of_longest_le (Nat.le_max_right ..) cut

/-- A block whose padding is damaged, and the same block as it was stored. -/
theorem encrypted_outcome_of_oneBlock :
    let outcome (stored : Bytes) (buffer : Nat) : Drain :=
      ((source MemoryBlocks.store).run 17
        (wholeFile SlowPair.ref OneBlock.manifest (some OneBlock.key) buffer)
        (OneBlock.holding stored)).1
    (Straddles ((OneBlock.holding OneBlock.damaged).get? SlowPair.ref) OneBlock.key
        OneBlock.manifest.blocks 16 ∧
      ∃ small large, (outcome OneBlock.damaged small).ending = some (.ok ()) ∧
        (outcome OneBlock.damaged large).ending ≠ some (.ok ())) ∧
    (¬Straddles ((OneBlock.holding OneBlock.intact).get? SlowPair.ref) OneBlock.key
        OneBlock.manifest.blocks 16 ∧
      ∀ buffer, (outcome OneBlock.intact buffer).ending = some (.ok ()) ∧
        (outcome OneBlock.intact buffer).bytes = OneBlock.plain.toList) := by
  intro outcome
  have aligned : ¬Straddles ((OneBlock.holding OneBlock.intact).get? SlowPair.ref) OneBlock.key
      OneBlock.manifest.blocks 16 := fun straddles =>
    straddles.not_whole OneBlock.whole_intact
  obtain ⟨-, -, depends⟩ := encrypted_outcome (OneBlock.holding OneBlock.damaged) SlowPair.ref
    OneBlock.manifest OneBlock.key
  obtain ⟨bytes, independent, -⟩ := encrypted_outcome (OneBlock.holding OneBlock.intact)
    SlowPair.ref OneBlock.manifest OneBlock.key
  refine ⟨⟨OneBlock.straddles_damaged, ?_⟩, aligned, fun buffer => ?_⟩
  · obtain ⟨small, large, differ⟩ := depends OneBlock.straddles_damaged
    exact ⟨small, large, differ 17 (by decide)⟩
  · have ended := (independent aligned buffer 17 (by decide)).2 OneBlock.whole_intact
    refine ⟨ended, (bytes buffer 17 (by decide) ended).trans ?_⟩
    have opened := OneBlock.key.decrypt_encrypt OneBlock.plain.toList
    have found := OneBlock.get?_holding OneBlock.intact
    have only : stream ((OneBlock.holding OneBlock.intact).get? SlowPair.ref) OneBlock.key
        OneBlock.manifest.blocks = OneBlock.plain.toList ++ [] :=
      Depot.stream_of_opened (d := ⟨OneBlock.holding OneBlock.intact, SlowPair.ref,
        OneBlock.key, 1⟩) found opened
    rw [only, List.append_nil]
    rfl

/-- One block of sixteen bytes whose padding was damaged.  A buffer of eight bytes is
filled three times before the padding is looked at, and by then all is delivered. -/
theorem encrypted_outcome_of_damaged :
    let outcome (buffer : Nat) : Drain := ((source MemoryBlocks.store).run 17
      (wholeFile SlowPair.ref OneBlock.manifest (some OneBlock.key) buffer)
      (OneBlock.holding OneBlock.damaged)).1
    OneBlock.damaged.take 16 = OneBlock.intact.take 16 ∧
      OneBlock.damaged.length = OneBlock.intact.length ∧
      (outcome 8).ending = some (.ok ()) ∧ (outcome 64).ending ≠ some (.ok ()) := by
  intro outcome
  have found := OneBlock.get?_holding OneBlock.damaged
  have length : OneBlock.damaged.length = 32 := OneBlock.length_storedWith OneBlock.plain
  refine ⟨?start, ?length, ?delivered, ?refused⟩
  case start =>
    rw [OneBlock.intact_eq_storedWith, OneBlock.damaged, OneBlock.take_storedWith,
      OneBlock.take_storedWith]
  case length =>
    rw [OneBlock.intact_eq_storedWith, OneBlock.length_storedWith, length]
  case delivered =>
    have cut : Cut ((OneBlock.holding OneBlock.damaged).get? SlowPair.ref) OneBlock.key (max 1 8)
        OneBlock.manifest.blocks (Decryptor.ready (3 * 8)) :=
      .here 3 found (by rw [length]; decide) (by decide)
    exact (ending_iff (by decide)).2 (.inr cut)
  case refused =>
    intro ended
    rcases (ending_iff (by decide)).1 ended with whole | cut
    · exact OneBlock.straddles_damaged.not_whole whole
    · obtain ⟨id, mem, stored, found', longer⟩ := cut.exists_longer
      obtain rfl := List.mem_singleton.1 mem
      rw [found] at found'
      cases found'
      omega

end Cursor

end StreamGate
