import StreamGate.Proofs.Cipher.Decryption
import StreamGate.Proofs.Storage.Serving
import StreamGate.Transfer.Cursor
import StreamGate.Transfer.Drain

/-!
# What a cursor feeds

A `Feed` says what a cursor is to hand out: the plaintexts of its blocks, one
after another, up to `stop`.  `Feed.Stands` relates a cursor to what is
still `ahead` of it, and every operation keeps it:

* `Feed.Stands.turn`: a turn takes something off the front of `ahead`, or
  nothing, or fails and leaves `ahead` as it was.
* `Feed.Stands.nextChunk`: so does a chunk.
* `Feed.Stands.drain`: a drain hands out a prefix of `ahead`, and how it
  ended says how long the prefix is.

None of these looks at how reads were cut, at the size of the buffer or at where
the cursor stands in a block.  A cursor that stands also knows which blocks were
opened: each position once, in order, and none that starts at `stop` or later.
-/

namespace StreamGate

/-- The plaintext of a stored block.  Without a key it is stored as it is. -/
def Deciphers (key : Option CipherKey) (stored plain : Bytes) : Prop :=
  match key with
  | none => plain = stored
  | some k => k.decrypt stored = .ok plain

/-- The plaintext of a stored block, if it has one. -/
def plaintext (key : Option CipherKey) (stored : Bytes) : Bytes :=
  match key with
  | none => stored
  | some k => ((k.decrypt stored).toOption).getD []

theorem Deciphers.plaintext_eq {key : Option CipherKey} {stored plain : Bytes}
    (h : Deciphers key stored plain) : plaintext key stored = plain := by
  cases key with
  | none => exact h.symm
  | some k =>
    have hdecrypt : k.decrypt stored = .ok plain := h
    show ((k.decrypt stored).toOption).getD [] = plain
    rw [hdecrypt]
    rfl

theorem Deciphers.plaintext {key : Option CipherKey} {stored plain : Bytes}
    (h : Deciphers key stored plain) : Deciphers key stored (StreamGate.plaintext key stored) := by
  rw [h.plaintext_eq]
  exact h

/-- The position of the next block that is opened. -/
def Cursor.next {Handle : Type} (c : Cursor Handle) : Nat :=
  if c.current.isSome then c.index + 1 else c.index

theorem Cursor.next_of_none {Handle : Type} {c : Cursor Handle} (h : c.current = none) :
    c.next = c.index := by
  simp [Cursor.next, h]

theorem Cursor.holding_eq {Handle : Type} {c : Cursor Handle} {b : OpenBlock Handle}
    (current : c.current = some b) (h : c.index < c.blocks.length) : c.holding b h = c := by
  cases c
  cases current
  rfl

/-- What is to be handed out, and what a store is known to answer. -/
structure Feed (World Handle : Type) where
  shelf : Shelf World Handle
  store : StoreRef
  blocks : List BlockId
  key : Option CipherKey
  /-- The plaintext of the block with an id. -/
  plain : BlockId → Bytes
  /-- The visits before the feed began. -/
  before : List Visit
  /-- The position of the first block that is opened. -/
  first : Nat
  /-- Where the wanted part of the file ends. -/
  stop : Nat

namespace Feed

variable {World Handle : Type}

/-! ## The file -/

/-- The file: its blocks in order. -/
def file (t : Feed World Handle) : Bytes := t.blocks.flatMap t.plain

/-- The part of the file before the block at a position. -/
def behind (t : Feed World Handle) (i : Nat) : Bytes := (t.blocks.take i).flatMap t.plain

/-- The part of the file from the block at a position on. -/
def ahead (t : Feed World Handle) (i : Nat) : Bytes := (t.blocks.drop i).flatMap t.plain

/-- The visits once the blocks before position `n` were opened. -/
def visitsTo (t : Feed World Handle) (n : Nat) : List Visit :=
  t.before ++ ((t.blocks.take n).drop t.first).map .opened

theorem behind_append_ahead (t : Feed World Handle) (i : Nat) :
    t.behind i ++ t.ahead i = t.file := by
  rw [behind, ahead, file, ← List.flatMap_append, List.take_append_drop]

theorem ahead_of_lt (t : Feed World Handle) {i : Nat} (h : i < t.blocks.length) :
    t.ahead i = t.plain t.blocks[i] ++ t.ahead (i + 1) := by
  rw [ahead, List.drop_eq_getElem_cons h, List.flatMap_cons]
  rfl

theorem ahead_of_le (t : Feed World Handle) {i : Nat} (h : t.blocks.length ≤ i) :
    t.ahead i = [] := by
  rw [ahead, List.drop_of_length_le h, List.flatMap_nil]

theorem visitsTo_succ (t : Feed World Handle) {i : Nat} (h : i < t.blocks.length)
    (first : t.first ≤ i) : t.visitsTo (i + 1) = t.visitsTo i ++ [.opened t.blocks[i]] := by
  have hle : t.first ≤ (t.blocks.take i).length := by
    rw [List.length_take]
    omega
  rw [visitsTo, visitsTo, List.take_add_one, List.drop_append_of_le_length hle,
    List.getElem?_eq_getElem h, Option.toList_some, List.map_append, List.append_assoc]
  rfl

/-! ## Where a cursor stands -/

/-- The store keeps its word on the blocks of the feed, and each of them has
its plaintext.  What is encrypted is handed out to its end. -/
structure Served (t : Feed World Handle) (bs : BlockStore World Handle) : Prop where
  honest : bs.Honest t.shelf t.store t.blocks
  deciphers : ∀ id ∈ t.blocks, Deciphers t.key (t.shelf.content id) (t.plain id)
  sized : t.key.isSome → bs.Sized t.shelf t.store t.blocks
  fits : t.key.isSome → t.file.length ≤ t.stop

/-- Blocks that are stored as they are need no more than an honest store. -/
theorem Served.of_plain {t : Feed World Handle} {bs : BlockStore World Handle}
    (honest : bs.Honest t.shelf t.store t.blocks) (key : t.key = none)
    (plain : t.plain = t.shelf.content) : t.Served bs where
  honest := honest
  deciphers id _ := by
    rw [key, plain]
    rfl
  sized encrypted := by
    rw [key] at encrypted
    cases encrypted
  fits encrypted := by
    rw [key] at encrypted
    cases encrypted

/-- The stored bytes `rest` of an encrypted block are still to be read, and what
they decrypt to, after what came before them, is `more`.  The decryptor was
started with this block. -/
structure Deciphering (t : Feed World Handle) (k : CipherKey) (id : BlockId) (w : World)
    (b : OpenBlock Handle) (rest more : Bytes) : Prop where
  left_eq : b.left = rest.length
  left : t.shelf.left w b.handle rest
  decryptor : ∃ read, t.shelf.content id = read ++ rest ∧
    b.decryptor = some ((Decryptor.start k).update read).2 ∧
    t.plain id = ((Decryptor.start k).update read).1 ++ more

/-- The open block `b` has `more` of its plaintext still to come.  An encrypted
block is left behind in the turn that reads the last of it. -/
def Pending (t : Feed World Handle) (id : BlockId) (w : World) (b : OpenBlock Handle)
    (more : Bytes) : Prop :=
  match t.key with
  | none => t.shelf.left w b.handle more
  | some k => ∃ rest, rest ≠ [] ∧ t.Deciphering k id w b rest more

/-- The blocks before position `n` all start before `stop`. -/
structure Reached (t : Feed World Handle) (n : Nat) : Prop where
  first_le : t.first ≤ n
  le : n ≤ t.blocks.length
  begun : ∀ p < n, (t.behind p).length < t.stop

/-- The blocks before position `n` were opened, from the first one on. -/
structure Visited (t : Feed World Handle) (n : Nat) (w : World) : Prop where
  good : t.shelf.good (t.visitsTo n) w
  reached : t.Reached n

theorem Reached.succ {t : Feed World Handle} {n : Nat} (reached : t.Reached n)
    (h : n < t.blocks.length) (begins : (t.behind n).length < t.stop) : t.Reached (n + 1) := by
  refine ⟨Nat.le_succ_of_le reached.first_le, h, fun p hp => ?_⟩
  rcases Nat.lt_succ_iff_lt_or_eq.1 hp with hlt | heq
  · exact reached.begun p hlt
  · rw [heq]
    exact begins

/-- A cursor of this feed has the bytes `ahead` of it. -/
structure Stands (t : Feed World Handle) (c : Cursor Handle) (w : World) (ahead : Bytes) :
    Prop where
  store : c.store = t.store
  blocks : c.blocks = t.blocks
  key : c.key = t.key
  visited : t.Visited c.next w
  between : c.current = none → ahead = t.ahead c.index
  within : ∀ b, c.current = some b → ∃ (h : c.index < t.blocks.length) (more : Bytes),
    t.Pending t.blocks[c.index] w b more ∧ ahead = more ++ t.ahead (c.index + 1)

/-- The count of a cursor says how much of what is ahead is wanted. -/
def Balanced (t : Feed World Handle) (remaining : Nat) (ahead : Bytes) : Prop :=
  remaining + t.file.length = t.stop + ahead.length

/-- Why a cursor that stands fails: a call did, or more is wanted than is ahead. -/
def Stops (t : Feed World Handle) (remaining : Nat) (ahead : Bytes) (e : TransferError) : Prop :=
  (∃ f, t.shelf.fault f ∧ e = .block f) ∨ (ahead = [] ∧ remaining ≠ 0 ∧ e = .truncated remaining)

/-- The cursor with the open block replaced. -/
theorem Stands.holding {t : Feed World Handle} {c : Cursor Handle} {w w' : World}
    {b b' : OpenBlock Handle} {h : c.index < c.blocks.length} {ahead more : Bytes}
    (stands : t.Stands (c.holding b h) w ahead) (i : c.index < t.blocks.length)
    (good : t.shelf.good (t.visitsTo (c.index + 1)) w')
    (pending : t.Pending t.blocks[c.index] w' b' more) :
    t.Stands (c.holding b' h) w' (more ++ t.ahead (c.index + 1)) where
  store := stands.store
  blocks := stands.blocks
  key := stands.key
  visited := ⟨good, stands.visited.reached⟩
  between none := by cases none
  within b'' current := by
    cases current
    exact ⟨i, more, pending, rfl⟩

/-- The cursor once the open block is left behind. -/
theorem Stands.advance {t : Feed World Handle} {bs : BlockStore World Handle}
    {c : Cursor Handle} {w w' : World} {b b' : OpenBlock Handle} {h : c.index < c.blocks.length}
    {ahead : Bytes} (served : t.Served bs) (stands : t.Stands (c.holding b h) w ahead)
    (good : t.shelf.good (t.visitsTo (c.index + 1)) w') :
    t.Stands (c.advance bs b' w').1 (c.advance bs b' w').2 (t.ahead (c.index + 1)) where
  store := stands.store
  blocks := stands.blocks
  key := stands.key
  visited := ⟨served.honest.close b'.handle good, stands.visited.reached⟩
  between _ := rfl
  within b'' current := by cases current

/-! ## Reading -/

/-- What a read of a block with `rest` left comes to. -/
def Reads (t : Feed World Handle) (visits : List Visit) (b : OpenBlock Handle) (rest : Bytes)
    (want : Nat) : Except TransferError Bytes × OpenBlock Handle × World → Prop
  | (.ok piece, b', w) =>
    t.shelf.good visits w ∧ piece.length ≤ want ∧ (piece = [] → want = 0 ∨ rest = []) ∧
      b'.decryptor = b.decryptor ∧ b'.left = b.left - piece.length ∧
      ∃ more, rest = piece ++ more ∧ t.shelf.left w b'.handle more
  | (.error e, b', w) =>
    t.shelf.good visits w ∧ b'.decryptor = b.decryptor ∧ b'.left = b.left ∧
      t.shelf.left w b'.handle rest ∧ ∃ f, t.shelf.fault f ∧ e = .block f

theorem Served.readBlock {t : Feed World Handle} {bs : BlockStore World Handle}
    {visits : List Visit} {b : OpenBlock Handle} {w : World} {rest : Bytes} (served : t.Served bs)
    (want : Nat) (good : t.shelf.good visits w) (left : t.shelf.left w b.handle rest) :
    t.Reads visits b rest want (Cursor.readBlock bs b want w) := by
  have h := served.honest.read want good left
  unfold Cursor.readBlock
  generalize bs.read b.handle want w = answer at h ⊢
  obtain ⟨e | piece, handle, w'⟩ := answer
  · obtain ⟨hgood, hleft, hfault⟩ := h
    exact ⟨hgood, rfl, rfl, hleft, e, hfault, rfl⟩
  · obtain ⟨hgood, hrest, hempty⟩ := h
    exact ⟨hgood, piece.property, hempty, rfl, rfl, hrest⟩

theorem pending_plain {t : Feed World Handle} (plain : t.key = none) {id : BlockId} {w : World}
    {b : OpenBlock Handle} {more : Bytes} :
    t.Pending id w b more ↔ t.shelf.left w b.handle more := by
  rw [Pending, plain]

theorem pending_encrypted {t : Feed World Handle} {k : CipherKey} (encrypted : t.key = some k)
    {id : BlockId} {w : World} {b : OpenBlock Handle} {more : Bytes} :
    t.Pending id w b more ↔ ∃ rest, rest ≠ [] ∧ t.Deciphering k id w b rest more := by
  rw [Pending, encrypted]

/-! ## Turns -/

/-- What a turn comes to: nothing, something off the front, or a failure. -/
def Turned (t : Feed World Handle) (remaining : Nat) (ahead : Bytes) :
    Except TransferError (Option Bytes) × Cursor Handle × World → Prop
  | (.ok none, c, w) => t.Stands c w ahead ∧ c.remaining = remaining
  | (.ok (some data), c, w) =>
    data ≠ [] ∧ (t.key = none → data.length ≤ remaining) ∧ c.remaining = remaining ∧
      ∃ more, ahead = data ++ more ∧ t.Stands c w more
  | (.error e, c, w) => t.Stands c w ahead ∧ c.remaining = remaining ∧ t.Stops remaining ahead e

theorem Stands.turnPlain {t : Feed World Handle} {bs : BlockStore World Handle}
    {c : Cursor Handle} {w : World} {b : OpenBlock Handle} {h : c.index < c.blocks.length}
    {ahead : Bytes} (served : t.Served bs) (plain : t.key = none)
    (stands : t.Stands (c.holding b h) w ahead) (wanted : c.remaining ≠ 0) :
    t.Turned c.remaining ahead (Cursor.turnPlain bs c b h w) := by
  obtain ⟨i, rest, pending, rfl⟩ := stands.within b rfl
  have hread := served.readBlock (min c.remaining c.buffer) stands.visited.good
    ((pending_plain plain).1 pending)
  unfold Cursor.turnPlain
  generalize Cursor.readBlock bs b (min c.remaining c.buffer) w = answer at hread ⊢
  obtain ⟨e | piece, b', w'⟩ := answer
  · obtain ⟨good, -, -, left, f, hf, rfl⟩ := hread
    exact ⟨stands.holding i good ((pending_plain plain).2 left), rfl, .inl ⟨f, hf, rfl⟩⟩
  · obtain ⟨good, hwant, hempty, -, -, more, rfl, left⟩ := hread
    cases piece with
    | nil =>
      have hpos := c.buffer_pos
      have hmore : more = [] := by
        rcases hempty rfl with hzero | hnil
        · omega
        · exact hnil
      rw [hmore]
      exact ⟨stands.advance served good, rfl⟩
    | cons x tail =>
      refine ⟨List.cons_ne_nil x tail, fun _ => by omega, rfl, _, List.append_assoc _ _ _, ?_⟩
      exact stands.holding i good ((pending_plain plain).2 left)

/-- A piece that was read goes on into the decryption of its block. -/
theorem Deciphering.decryptPiece {t : Feed World Handle} {k : CipherKey} {id : BlockId}
    {w w' : World} {b b' : OpenBlock Handle} {piece rest more : Bytes}
    (deciphering : t.Deciphering k id w b (piece ++ rest) more)
    (deciphers : k.decrypt (t.shelf.content id) = .ok (t.plain id))
    (decryptor : b'.decryptor = b.decryptor) (left_eq : b'.left = b.left - piece.length)
    (left : t.shelf.left w' b'.handle rest) :
    ∃ out b'' more', Cursor.decryptPiece b' piece = (.ok out, b'') ∧ more = out ++ more' ∧
      t.Deciphering k id w' b'' rest more' := by
  obtain ⟨hleft, -, read, hcontent, hdecryptor, hplain⟩ := deciphering
  have hupdate := Decryptor.update_append (Decryptor.start k) read piece
  rw [← List.append_assoc] at hcontent
  rw [hcontent] at deciphers
  obtain ⟨more', hmore⟩ := CipherKey.update_prefix_of_decrypt deciphers
  rw [hplain, hupdate, List.append_assoc] at hmore
  unfold Cursor.decryptPiece
  rw [decryptor, hdecryptor]
  refine ⟨_, _, more', rfl, List.append_cancel_left hmore, ?_, left, read ++ piece, hcontent,
    ?_, ?_⟩
  · show b'.left = rest.length
    rw [left_eq, hleft, List.length_append, Nat.add_sub_cancel_left]
  · rw [hupdate]
    rfl
  · rw [hplain, hupdate, List.append_assoc, List.append_cancel_left hmore]

/-- Once the stored bytes of a block are all read, its end comes out and the
block is left behind. -/
theorem Stands.finishBlock {t : Feed World Handle} {bs : BlockStore World Handle}
    {c : Cursor Handle} {w w₀ : World} {b b₀ : OpenBlock Handle} {h : c.index < c.blocks.length}
    {i : c.index < t.blocks.length} {k : CipherKey} {ahead rest more : Bytes} (out : Bytes)
    (served : t.Served bs) (encrypted : t.key = some k)
    (stands : t.Stands (c.holding b₀ h) w₀ ahead)
    (good : t.shelf.good (t.visitsTo (c.index + 1)) w)
    (deciphering : t.Deciphering k t.blocks[c.index] w b rest more) :
    ∃ data c' w', Cursor.finishBlock bs c b h out w = (.ok data, c', w') ∧
      c'.remaining = c.remaining ∧
      ∃ after, out ++ (more ++ t.ahead (c.index + 1)) = data ++ after ∧ t.Stands c' w' after := by
  obtain ⟨hleft, left, read, hcontent, hdecryptor, hplain⟩ := deciphering
  have hdecrypt := served.deciphers _ (List.getElem_mem i)
  rw [encrypted] at hdecrypt
  unfold Cursor.finishBlock
  by_cases hzero : b.left = 0
  · have hrest : rest = [] := List.eq_nil_of_length_eq_zero (hleft ▸ hzero)
    rw [hrest, List.append_nil] at hcontent
    obtain ⟨last, hfinish, hwhole⟩ := CipherKey.decrypt_eq_ok_iff.1 hdecrypt
    have hmore : more = last := by
      rw [hcontent, hplain] at hwhole
      exact List.append_cancel_left hwhole
    rw [hcontent] at hfinish
    simp only [hzero, ↓reduceIte, hdecryptor, hfinish]
    refine ⟨_, _, _, rfl, rfl, t.ahead (c.index + 1), ?_, stands.advance served good⟩
    rw [hmore, List.append_assoc]
  · have hrest : rest ≠ [] := fun hnil => hzero (by rw [hleft, hnil, List.length_nil])
    rw [if_neg hzero]
    refine ⟨_, _, _, rfl, rfl, _, rfl, stands.holding i good ?_⟩
    exact (pending_encrypted encrypted).2
      ⟨rest, hrest, hleft, left, read, hcontent, hdecryptor, hplain⟩

theorem Stands.turnEncrypted {t : Feed World Handle} {bs : BlockStore World Handle}
    {c : Cursor Handle} {w : World} {b : OpenBlock Handle} {h : c.index < c.blocks.length}
    {k : CipherKey} {ahead : Bytes} (served : t.Served bs) (encrypted : t.key = some k)
    (stands : t.Stands (c.holding b h) w ahead) :
    t.Turned c.remaining ahead (Cursor.turnEncrypted bs c b h w) := by
  obtain ⟨i, more, pending, rfl⟩ := stands.within b rfl
  obtain ⟨rest, hrest, hleft, left, read, hcontent, hdecryptor, hplain⟩ :=
    (pending_encrypted encrypted).1 pending
  have hne : b.left ≠ 0 := by
    rw [hleft]
    exact fun hzero => hrest (List.eq_nil_of_length_eq_zero hzero)
  have hread := served.readBlock (min b.left c.buffer) stands.visited.good left
  unfold Cursor.turnEncrypted
  rw [if_neg hne]
  generalize Cursor.readBlock bs b (min b.left c.buffer) w = answer at hread ⊢
  obtain ⟨e | piece, b', w'⟩ := answer
  · obtain ⟨good, hdec, hl, left', f, hf, rfl⟩ := hread
    refine ⟨stands.holding i good ((pending_encrypted encrypted).2 ⟨rest, hrest, ?_, left', ?_⟩),
      rfl, .inl ⟨f, hf, rfl⟩⟩
    · rw [hl, hleft]
    · exact ⟨read, hcontent, by rw [hdec, hdecryptor], hplain⟩
  · obtain ⟨good, -, hempty, hdec, hl, rest', rfl, left'⟩ := hread
    cases piece with
    | nil =>
      have hpos := c.buffer_pos
      rcases hempty rfl with hzero | hnil
      · omega
      · exact absurd hnil hrest
    | cons x tail =>
      have hdecrypt := served.deciphers _ (List.getElem_mem i)
      rw [encrypted] at hdecrypt
      have deciphering : t.Deciphering k t.blocks[c.index] w b (x :: tail ++ rest') more :=
        ⟨hleft, left, read, hcontent, hdecryptor, hplain⟩
      obtain ⟨out, b'', more', hpiece, rfl, deciphering'⟩ :=
        deciphering.decryptPiece hdecrypt hdec hl left'
      obtain ⟨data, c', w'', hfinish, hremaining, after, hdata, stands'⟩ :=
        stands.finishBlock out served encrypted good deciphering'
      simp only [hpiece, hfinish]
      rw [List.append_assoc]
      show t.Turned c.remaining (out ++ (more' ++ t.ahead (c.index + 1))) _
      rw [hdata]
      cases data with
      | nil => exact ⟨stands', hremaining⟩
      | cons y front =>
        refine ⟨List.cons_ne_nil y front, fun plain => ?_, hremaining, after, rfl, stands'⟩
        rw [encrypted] at plain
        cases plain

theorem Stands.turnOpen {t : Feed World Handle} {bs : BlockStore World Handle}
    {c : Cursor Handle} {w : World} {b : OpenBlock Handle} {h : c.index < c.blocks.length}
    {ahead : Bytes} (served : t.Served bs) (stands : t.Stands (c.holding b h) w ahead)
    (wanted : c.remaining ≠ 0) : t.Turned c.remaining ahead (Cursor.turnOpen bs c b h w) := by
  have hkey : c.key = t.key := stands.key
  unfold Cursor.turnOpen
  rw [hkey]
  cases key : t.key with
  | none => exact stands.turnPlain served key wanted
  | some k => exact stands.turnEncrypted served key

/-- A fresh block has all of its plaintext still to come. -/
theorem Served.pending_opened {t : Feed World Handle} {bs : BlockStore World Handle}
    {visits : List Visit} {w : World} {id : BlockId} (served : t.Served bs) (mem : id ∈ t.blocks)
    (good : t.shelf.good visits w) (handle : Handle) (w' : World)
    (opened : bs.openBlock t.store id w = (.ok handle, w'))
    (left : t.shelf.left w' handle (t.shelf.content id)) :
    t.Pending id w' ⟨handle, bs.size handle, t.key.map Decryptor.start⟩ (t.plain id) := by
  have hdeciphers := served.deciphers id mem
  unfold Pending
  cases key : t.key with
  | none =>
    rw [key] at hdeciphers
    have hplain : t.plain id = t.shelf.content id := hdeciphers
    rw [hplain]
    exact left
  | some k =>
    rw [key] at hdeciphers
    have hsize := (served.sized (by rw [key]; rfl)).size mem good opened
    refine ⟨t.shelf.content id, CipherKey.ne_nil_of_decrypt hdeciphers, hsize, left, [], rfl,
      ?_, ?_⟩
    · rw [Decryptor.update_start_nil]
      rfl
    · rw [Decryptor.update_start_nil, List.nil_append]

/-- What opening the next block comes to. -/
theorem Stands.openAt {t : Feed World Handle} {bs : BlockStore World Handle}
    {c : Cursor Handle} {w : World} {ahead : Bytes} (served : t.Served bs)
    (stands : t.Stands c w ahead) (between : c.current = none) (h : c.index < c.blocks.length)
    (begins : (t.behind c.index).length < t.stop) :
    match Cursor.openAt bs c h w with
    | (.ok b, w') => t.Stands (c.holding b h) w' ahead
    | (.error e, w') => t.Stands c w' ahead ∧ ∃ f, t.shelf.fault f ∧ e = .block f := by
  have i : c.index < t.blocks.length := stands.blocks ▸ h
  have mem := List.getElem_mem i
  have visited := stands.visited
  rw [Cursor.next_of_none between] at visited
  have hopen := served.honest.openBlock mem visited.good
  have pending := served.pending_opened mem visited.good
  simp only [Cursor.openAt, stands.store, stands.blocks, stands.key]
  generalize bs.openBlock t.store t.blocks[c.index] w = answer at hopen pending ⊢
  obtain ⟨f | handle, w'⟩ := answer
  · obtain ⟨good, fault⟩ := hopen
    refine ⟨{ stands with visited := ?_, within := ?_ }, f, fault, rfl⟩
    · rw [Cursor.next_of_none between]
      exact ⟨good, visited.reached⟩
    · intro b current
      rw [between] at current
      cases current
  · obtain ⟨good, left⟩ := hopen
    rw [← t.visitsTo_succ i visited.reached.first_le] at good
    refine ⟨stands.store, stands.blocks, stands.key, ⟨good, visited.reached.succ i begins⟩, ?_, ?_⟩
    · intro current
      cases current
    · intro b current
      cases current
      exact ⟨i, _, pending handle w' rfl left, (stands.between between).trans (t.ahead_of_lt i)⟩

theorem Stands.turn {t : Feed World Handle} {bs : BlockStore World Handle}
    {c : Cursor Handle} {w : World} {ahead : Bytes} (served : t.Served bs)
    (stands : t.Stands c w ahead) (balanced : t.Balanced c.remaining ahead)
    (wanted : c.remaining ≠ 0) : t.Turned c.remaining ahead (c.turn bs w) := by
  unfold Cursor.turn
  split
  · rename_i b current
    have hlt := c.index_lt (by simp [current])
    rw [← Cursor.holding_eq current hlt] at stands
    exact stands.turnOpen served wanted
  · rename_i current
    have hahead := stands.between current
    by_cases h : c.index < c.blocks.length
    · rw [dif_pos h]
      have begins : (t.behind c.index).length < t.stop := by
        have hfile := congrArg List.length (t.behind_append_ahead c.index)
        rw [List.length_append, ← hahead] at hfile
        unfold Balanced at balanced
        omega
      have hopen := stands.openAt served current h begins
      generalize Cursor.openAt bs c h w = answer at hopen ⊢
      obtain ⟨e | b, w'⟩ := answer
      · exact ⟨hopen.1, rfl, .inl hopen.2⟩
      · exact hopen.turnOpen served wanted
    · rw [dif_neg h]
      rw [stands.blocks] at h
      have hnil : ahead = [] := by rw [hahead, t.ahead_of_le (by omega)]
      exact ⟨stands, rfl, .inr ⟨hnil, wanted, rfl⟩⟩

/-! ## Chunks -/

/-- What a chunk comes to. -/
def Chunked (t : Feed World Handle) (remaining : Nat) (ahead : Bytes) :
    Except TransferError Chunk × Cursor Handle × World → Prop
  | (.ok ⟨data, true⟩, c, w) =>
    data.length = remaining ∧ (∃ more, ahead = data ++ more) ∧ c.current = none ∧ ∃ n, t.Visited n w
  | (.ok ⟨data, false⟩, c, w) =>
    data ≠ [] ∧ ∃ more, ahead = data ++ more ∧ t.Stands c w more ∧ t.Balanced c.remaining more
  | (.error e, c, w) =>
    t.Stands c w ahead ∧ t.Balanced c.remaining ahead ∧ t.Stops c.remaining ahead e

/-- Nothing comes out beyond what is wanted. -/
theorem Served.length_le {t : Feed World Handle} {bs : BlockStore World Handle}
    {remaining : Nat} {ahead data more : Bytes} (served : t.Served bs)
    (balanced : t.Balanced remaining ahead) (split : ahead = data ++ more)
    (plain : t.key = none → data.length ≤ remaining) : data.length ≤ remaining := by
  cases key : t.key with
  | none => exact plain key
  | some k =>
    have hfits := served.fits (by rw [key]; rfl)
    have hlen := congrArg List.length split
    rw [List.length_append] at hlen
    unfold Balanced at balanced
    omega

theorem Balanced.after {t : Feed World Handle} {remaining : Nat} {ahead data more : Bytes}
    (balanced : t.Balanced remaining ahead) (split : ahead = data ++ more)
    (le : data.length ≤ remaining) : t.Balanced (remaining - data.length) more := by
  have hlen := congrArg List.length split
  rw [List.length_append] at hlen
  unfold Balanced at balanced ⊢
  omega

/-- How much is wanted is of no concern to where a cursor stands. -/
theorem Stands.counting {t : Feed World Handle} {c : Cursor Handle} {w : World} {ahead : Bytes}
    (stands : t.Stands c w ahead) (remaining : Nat) : t.Stands { c with remaining } w ahead :=
  ⟨stands.store, stands.blocks, stands.key, stands.visited, stands.between, stands.within⟩

theorem Visited.release {t : Feed World Handle} {bs : BlockStore World Handle}
    {c : Cursor Handle} {w : World} {n : Nat} (served : t.Served bs) (visited : t.Visited n w) :
    t.Visited n (Cursor.release bs c w).2 := by
  refine ⟨?_, visited.reached⟩
  show t.shelf.good (t.visitsTo n) (c.closeCurrent bs w)
  unfold Cursor.closeCurrent
  cases c.current with
  | none => exact visited.good
  | some b => exact served.honest.close b.handle visited.good

theorem Stands.nextChunk {t : Feed World Handle} {bs : BlockStore World Handle}
    {c : Cursor Handle} {w : World} {ahead : Bytes} (served : t.Served bs)
    (stands : t.Stands c w ahead) (balanced : t.Balanced c.remaining ahead) :
    t.Chunked c.remaining ahead (Cursor.nextChunk bs c w) := by
  fun_induction Cursor.nextChunk bs c w with
  | case1 c w hzero c' w' released =>
    have visited := stands.visited.release (c := c) served
    rw [released] at visited
    cases released
    exact ⟨hzero.symm, ⟨ahead, rfl⟩, rfl, _, visited⟩
  | case2 c w hpos e c' w' taken =>
    have turned := stands.turn served balanced hpos
    rw [taken] at turned
    obtain ⟨stands', hremaining, stops⟩ := turned
    refine ⟨stands', ?_, ?_⟩
    · rw [hremaining]
      exact balanced
    · rw [hremaining]
      exact stops
  | case3 c w hpos c' w' taken ih =>
    have turned := stands.turn served balanced hpos
    rw [taken] at turned
    obtain ⟨stands', hremaining⟩ := turned
    rw [← hremaining] at balanced ⊢
    exact ih stands' balanced
  | case4 c w hpos data c' w' taken overrun =>
    have turned := stands.turn served balanced hpos
    rw [taken] at turned
    obtain ⟨-, plain, hremaining, more, split, -⟩ := turned
    have hle := served.length_le balanced split plain
    omega
  | case5 c w hpos data c' w' taken fits counted hzero c'' w'' released =>
    have turned := stands.turn served balanced hpos
    rw [taken] at turned
    obtain ⟨-, plain, hremaining, more, split, stands'⟩ := turned
    have hle := served.length_le balanced split plain
    have hleft : c'.remaining - data.length = 0 := hzero
    have visited := stands'.visited.release (c := counted) served
    rw [released] at visited
    cases released
    refine ⟨?_, ⟨more, split⟩, rfl, _, visited⟩
    omega
  | case6 c w hpos data c' w' taken fits counted hnonzero =>
    have turned := stands.turn served balanced hpos
    rw [taken] at turned
    obtain ⟨hne, plain, hremaining, more, split, stands'⟩ := turned
    have hle := served.length_le balanced split plain
    rw [← hremaining] at balanced hle
    exact ⟨hne, more, split, stands'.counting _, balanced.after split hle⟩

/-! ## Draining -/

/-- Where a drain of at most `limit` chunks has come to, with `more` ahead. -/
def Ended (t : Feed World Handle) (limit remaining : Nat) (more : Bytes) :
    Drain × Cursor Handle × World → Prop
  | (⟨chunks, some (.ok ())⟩, c, w) =>
    chunks.flatten.length = remaining ∧ c.current = none ∧ ∃ n, t.Visited n w
  | (⟨_, some (.error e)⟩, c, w) =>
    t.Stands c w more ∧ t.Balanced c.remaining more ∧ t.Stops c.remaining more e
  | (⟨chunks, none⟩, c, w) =>
    limit ≤ chunks.flatten.length ∧ t.Stands c w more ∧ t.Balanced c.remaining more

/-- What a drain comes to: a prefix of what is ahead. -/
def Drained (t : Feed World Handle) (limit remaining : Nat) (ahead : Bytes)
    (out : Drain × Cursor Handle × World) : Prop :=
  ∃ more, ahead = out.1.bytes ++ more ∧ t.Ended limit remaining more out

/-- A chunk before it changes how long a drain is, not where it ended. -/
theorem Ended.after {t : Feed World Handle} {limit remaining remaining' : Nat}
    {more data : Bytes} {out : Drain × Cursor Handle × World}
    (ended : t.Ended limit remaining more out) (hne : data ≠ [])
    (sum : remaining' = data.length + remaining) :
    t.Ended (limit + 1) remaining' more (out.1.after data, out.2.1, out.2.2) := by
  have hpos := List.length_pos_iff.2 hne
  obtain ⟨⟨chunks, ending⟩, c, w⟩ := out
  have hlen : (data :: chunks).flatten.length = data.length + chunks.flatten.length := by
    rw [List.flatten_cons, List.length_append]
  rcases ending with _ | e | u
  · obtain ⟨hlimit, stands, balanced⟩ := ended
    refine ⟨?_, stands, balanced⟩
    show limit + 1 ≤ (data :: chunks).flatten.length
    omega
  · exact ended
  · obtain ⟨hall, closed, visited⟩ := ended
    refine ⟨?_, closed, visited⟩
    show (data :: chunks).flatten.length = remaining'
    omega

theorem Stands.drain {t : Feed World Handle} {bs : BlockStore World Handle}
    {c : Cursor Handle} {w : World} {ahead : Bytes} (served : t.Served bs)
    (stands : t.Stands c w ahead) (balanced : t.Balanced c.remaining ahead) (limit : Nat) :
    t.Drained limit c.remaining ahead ((Cursor.source bs).drain limit c w) := by
  induction limit generalizing c w ahead with
  | zero => exact ⟨ahead, rfl, Nat.zero_le _, stands, balanced⟩
  | succ limit ih =>
    have chunked : t.Chunked c.remaining ahead ((Cursor.source bs).nextChunk c w) :=
      stands.nextChunk served balanced
    unfold Source.drain
    generalize (Cursor.source bs).nextChunk c w = answer at chunked ⊢
    obtain ⟨e | ⟨data, done⟩, c', w'⟩ := answer
    · exact ⟨ahead, rfl, chunked⟩
    · cases done with
      | true =>
        obtain ⟨hlen, ⟨more, split⟩, closed, visited⟩ := chunked
        refine ⟨more, ?_, ?_, closed, visited⟩
        · simpa [Drain.bytes] using split
        · simpa using hlen
      | false =>
        obtain ⟨hne, more, split, stands', balanced'⟩ := chunked
        obtain ⟨more', split', ended⟩ := ih stands' balanced'
        simp only [Bool.false_eq_true, ↓reduceIte]
        generalize (Cursor.source bs).drain limit c' w' = out at split' ended ⊢
        refine ⟨more', ?_, ended.after hne ?_⟩
        · rw [split, split', Drain.bytes_after, List.append_assoc]
        · have hlen := congrArg List.length split
          rw [List.length_append] at hlen
          unfold Balanced at balanced balanced'
          omega

/-- Where nothing fails, what comes out is what is wanted of what is ahead, and
the drain ends well if that is all there. -/
theorem Drained.of_reliable {t : Feed World Handle} {limit remaining : Nat} {ahead : Bytes}
    {out : Drain × Cursor Handle × World} (drained : t.Drained limit remaining ahead out)
    (reliable : t.shelf.Reliable) (balanced : t.Balanced remaining ahead)
    (enough : remaining < limit) :
    out.1.bytes = ahead.take remaining ∧
      out.1.ending = some (if remaining ≤ ahead.length then .ok ()
        else .error (.truncated (remaining - ahead.length))) ∧
      ∃ n, t.Visited n out.2.2 := by
  obtain ⟨more, split, ended⟩ := drained
  obtain ⟨⟨chunks, ending⟩, c, w⟩ := out
  have hbytes : (⟨chunks, ending⟩ : Drain).bytes = chunks.flatten := rfl
  have hlen := congrArg List.length split
  rw [hbytes, List.length_append] at hlen
  unfold Balanced at balanced
  rcases ending with _ | e | u
  · obtain ⟨hlimit, -, balanced'⟩ := ended
    unfold Balanced at balanced'
    omega
  · obtain ⟨stands, balanced', ⟨f, fault, -⟩ | ⟨rfl, wanted, rfl⟩⟩ := ended
    · exact absurd fault (reliable f)
    · unfold Balanced at balanced'
      rw [List.length_nil] at balanced' hlen
      have hmissing : c.remaining = remaining - ahead.length := by omega
      rw [if_neg (by omega), hmissing, List.take_of_length_le (by omega)]
      rw [List.append_nil] at split
      exact ⟨split.symm, rfl, _, stands.visited⟩
  · obtain ⟨hall, -, visited⟩ := ended
    have hle : remaining ≤ ahead.length := by omega
    rw [if_pos hle]
    refine ⟨?_, rfl, visited⟩
    rw [split, hbytes, List.take_left' hall]

end Feed

end StreamGate
