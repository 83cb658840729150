import StreamGate.Proofs.Transfer.Feed

/-!
# Whole files

A whole file comes out block by block, whatever the size of the buffer and
however the reads are cut short.

* `Cursor.plain_transfer_exact`: blocks that are stored as they are, and single
  blocks, come out up to the announced size.
* `Cursor.encrypted_transfer_exact`: encrypted blocks come out as their
  plaintexts, each decrypted from its own start.

A file that is announced longer than its blocks ends with the number of bytes
that are missing.
-/

namespace StreamGate

variable {World Handle : Type}

/-- What came out of a file made of `parts`, of which `size` bytes are announced.
The blocks were opened in order, each position once, and none that starts after
the announced bytes. -/
structure Delivers (blocks : List BlockId) (parts : List Bytes) (size : Nat)
    (out : Drain × Cursor Handle × Recorded World) : Prop where
  bytes : out.1.bytes = parts.flatten.take size
  ending : out.1.ending = some (if size ≤ parts.flatten.length then .ok ()
    else .error (.truncated (size - parts.flatten.length)))
  opened : ∃ n ≤ blocks.length, out.2.2.visits = (blocks.take n).map .opened ∧
    ∀ p < n, (parts.take p).flatten.length < size

/-- The open block of a cursor, if there is one, is decrypted from its own start:
the decryptor has seen what was read of this block and nothing else. -/
def DecryptsAfresh (k : CipherKey) (blocks : List BlockId) (content : BlockId → Bytes)
    (c : Cursor Handle) : Prop :=
  ∀ b, c.current = some b → ∃ (h : c.index < blocks.length) (read rest : Bytes),
    content blocks[c.index] = read ++ rest ∧ b.left = rest.length ∧
      b.decryptor = some ((Decryptor.start k).update read).2

namespace Feed

/-- The feed of a file from its first block on. -/
def fromStart (shelf : Shelf World Handle) (ref : StoreRef) (blocks : List BlockId)
    (key : Option CipherKey) (plain : BlockId → Bytes) (size : Nat) : Feed World Handle where
  shelf := shelf
  store := ref
  blocks := blocks
  key := key
  plain := plain
  before := []
  first := 0
  stop := size

theorem Stands.start {shelf : Shelf World Handle} {ref : StoreRef} {blocks : List BlockId}
    {key : Option CipherKey} {plain : BlockId → Bytes} {size : Nat} {w : World}
    (good : shelf.good [] w) (buffer : Nat) :
    (fromStart shelf ref blocks key plain size).Stands
      { Cursor.start ref blocks size buffer with key } w (blocks.flatMap plain) where
  store := rfl
  blocks := rfl
  key := rfl
  visited := by
    refine ⟨?_, Nat.le_refl 0, Nat.zero_le _, ?_⟩
    · exact good
    · intro p hp
      exact absurd hp (Nat.not_lt_zero p)
  between _ := rfl
  within b current := by cases current

/-- What came out of a reliable store is what is announced. -/
theorem Drained.delivers {shelf : Shelf World Handle} {ref : StoreRef} {blocks : List BlockId}
    {key : Option CipherKey} {plain : BlockId → Bytes} {size limit : Nat}
    {out : Drain × Cursor Handle × Recorded World}
    (drained : (fromStart shelf.recorded ref blocks key plain size).Drained limit size
      (blocks.flatMap plain) out)
    (reliable : shelf.Reliable) (enough : size < limit) :
    Delivers blocks (blocks.map plain) size out := by
  obtain ⟨bytes, ending, n, ⟨-, visits⟩, reached⟩ := drained.of_reliable reliable rfl enough
  rw [List.flatMap_def] at bytes ending
  refine ⟨bytes, ending, n, reached.le, visits, fun p hp => ?_⟩
  rw [← List.map_take, ← List.flatMap_def]
  exact reached.begun p hp

theorem Drained.decryptsAfresh {t : Feed World Handle} {k : CipherKey} {limit remaining : Nat}
    {ahead : Bytes} {out : Drain × Cursor Handle × World}
    (drained : t.Drained limit remaining ahead out) (encrypted : t.key = some k) :
    DecryptsAfresh k t.blocks t.shelf.content out.2.1 := by
  have of_stands {c : Cursor Handle} {w : World} {more : Bytes} (stands : t.Stands c w more) :
      DecryptsAfresh k t.blocks t.shelf.content c := by
    intro b current
    obtain ⟨h, more, pending, -⟩ := stands.within b current
    obtain ⟨rest, -, left_eq, -, read, content, decryptor, -⟩ :=
      (pending_encrypted encrypted).1 pending
    exact ⟨h, read, rest, content, left_eq, decryptor⟩
  obtain ⟨more, -, ended⟩ := drained
  obtain ⟨⟨chunks, ending⟩, c, w⟩ := out
  rcases ending with _ | e | u
  · exact of_stands ended.2.1
  · exact of_stands ended.1
  · intro b current
    have closed : c.current = none := ended.2.1
    rw [closed] at current
    cases current

end Feed

/-! ## Stored blocks -/

section Stored

variable {key : Option CipherKey} {store : Bytes → Bytes} {ids : List BlockId}
  {content : BlockId → Bytes} {plains : List Bytes}

theorem deciphers_encrypt (k : CipherKey) (plain : Bytes) :
    Deciphers (some k) (k.encrypt plain) plain := k.decrypt_encrypt plain

/-- What is stored under the ids reads as the pieces that were stored, whatever the ids are. -/
theorem map_plaintext_of_stored (reads : ∀ plain, Deciphers key (store plain) plain)
    (stored : ids.map content = plains.map store) :
    ids.map (fun id => plaintext key (content id)) = plains := by
  have hmap : ids.map (fun id => plaintext key (content id)) =
      (ids.map content).map (plaintext key) := by
    rw [List.map_map]
    rfl
  rw [hmap, stored, List.map_map]
  exact List.map_id'' (fun p => (reads p).plaintext_eq) plains

theorem deciphers_of_stored (reads : ∀ plain, Deciphers key (store plain) plain)
    (stored : ids.map content = plains.map store) {id : BlockId} (mem : id ∈ ids) :
    Deciphers key (content id) (plaintext key (content id)) := by
  have hmem : content id ∈ plains.map store := stored ▸ List.mem_map_of_mem mem
  obtain ⟨p, -, hp⟩ := List.mem_map.1 hmem
  rw [← hp]
  exact (reads p).plaintext

end Stored

/-! ## Files and single blocks -/

namespace Cursor

variable {bs : BlockStore World Handle} {shelf : Shelf World Handle} {ref : StoreRef}
  {blocks : List BlockId} {w : World}

/-- Blocks that are stored as they are come out one after the other, up to the
announced size, and so does a single block. -/
theorem plain_transfer_exact (honest : bs.Honest shelf ref blocks) (reliable : shelf.Reliable)
    (good : shelf.good [] w) (buffer : Nat) :
    (∀ (fileSize : UInt64) (limit : Nat), fileSize.toNat < limit →
      Delivers blocks (blocks.map shelf.content) fileSize.toNat
        ((source bs.recorded).run limit (wholeFile ref ⟨fileSize, blocks⟩ none buffer) ⟨w, []⟩)) ∧
    (∀ id ∈ blocks, ∀ size limit : Nat, size < limit →
      Delivers [id] [shelf.content id] size
        ((source bs.recorded).run limit (singleBlock ref id size buffer) ⟨w, []⟩)) := by
  have good' : shelf.recorded.good [] ⟨w, []⟩ := ⟨good, rfl⟩
  have law (ids : List BlockId) (sub : ids ⊆ blocks) (size limit : Nat) (enough : size < limit) :
      Delivers ids (ids.map shelf.content) size
        ((source bs.recorded).run limit (start ref ids size buffer) ⟨w, []⟩) := by
    have served : (Feed.fromStart shelf.recorded ref ids none shelf.content size).Served
        bs.recorded := .of_plain (honest.subset sub).recorded rfl rfl
    have stands : (Feed.fromStart shelf.recorded ref ids none shelf.content size).Stands
        (start ref ids size buffer) ⟨w, []⟩ (ids.flatMap shelf.content) :=
      Feed.Stands.start good' buffer
    exact (stands.drain served rfl limit).delivers reliable enough
  constructor
  · intro fileSize limit enough
    exact law blocks (List.Subset.refl blocks) fileSize.toNat limit enough
  · intro id mem size limit enough
    exact law [id] (List.cons_subset.2 ⟨mem, List.nil_subset _⟩) size limit enough

/-- Three blocks, one of them empty and one of them repeated, read one byte at a
time through a buffer of no bytes. -/
theorem plain_transfer_of_slowPair :
    Delivers [SlowPair.one, SlowPair.two, SlowPair.one] [[1, 2, 3], [], [1, 2, 3]] 4
      ((source SlowPair.store.recorded).run 5
        (wholeFile SlowPair.ref ⟨4, [SlowPair.one, SlowPair.two, SlowPair.one]⟩ none 0)
        ⟨SlowPair.world [1, 2, 3] [], []⟩) :=
  (plain_transfer_exact SlowPair.honest SlowPair.reliable (SlowPair.good (by decide)) 0).1
    4 5 (by decide)

/-- Blocks that were encrypted under a key come out as their plaintexts, and at
every moment the open block is decrypted from its own start. -/
theorem encrypted_transfer_exact {manifest : Manifest} {k : CipherKey} {plains : List Bytes}
    (honest : bs.Honest shelf ref manifest.blocks) (sized : bs.Sized shelf ref manifest.blocks)
    (reliable : shelf.Reliable) (good : shelf.good [] w)
    (stored : manifest.blocks.map shelf.content = plains.map k.encrypt)
    (fits : plains.flatten.length ≤ manifest.fileSize.toNat) (buffer limit : Nat) :
    let size := manifest.fileSize.toNat
    let out := (source bs.recorded).run limit (wholeFile ref manifest (some k) buffer) ⟨w, []⟩
    DecryptsAfresh k manifest.blocks shelf.content out.2.1 ∧
    (size < limit →
      out.1.bytes = plains.flatten ∧
      out.1.ending = some (if size = plains.flatten.length then .ok ()
        else .error (.truncated (size - plains.flatten.length))) ∧
      ∃ n ≤ manifest.blocks.length, out.2.2.visits = (manifest.blocks.take n).map .opened) := by
  intro size out
  let plain : BlockId → Bytes := fun id => plaintext (some k) (shelf.content id)
  have hplain : manifest.blocks.map plain = plains :=
    map_plaintext_of_stored (deciphers_encrypt k) stored
  have served : (Feed.fromStart shelf.recorded ref manifest.blocks (some k) plain size).Served
      bs.recorded := by
    refine ⟨honest.recorded, fun _ => deciphers_of_stored (deciphers_encrypt k) stored,
      fun _ => sized.recorded, fun _ => ?_⟩
    show (manifest.blocks.flatMap plain).length ≤ size
    rw [List.flatMap_def, hplain]
    exact fits
  have good' : shelf.recorded.good [] ⟨w, []⟩ := ⟨good, rfl⟩
  have stands : (Feed.fromStart shelf.recorded ref manifest.blocks (some k) plain size).Stands
      (wholeFile ref manifest (some k) buffer) ⟨w, []⟩ (manifest.blocks.flatMap plain) :=
    Feed.Stands.start good' buffer
  have drained := stands.drain served rfl limit
  refine ⟨drained.decryptsAfresh rfl, fun enough => ?_⟩
  obtain ⟨bytes, ending, n, hn, visits, -⟩ := drained.delivers reliable enough
  rw [hplain] at bytes ending
  rw [List.take_of_length_le fits] at bytes
  have hsize : size ≤ plains.flatten.length ↔ size = plains.flatten.length :=
    ⟨fun h => Nat.le_antisymm h fits, Nat.le_of_eq⟩
  rw [if_congr hsize rfl rfl] at ending
  exact ⟨bytes, ending, n, hn, visits⟩

/-- Two blocks encrypted under a key of zeros, the second one empty, announced one
byte too long. -/
theorem encrypted_transfer_of_slowPair :
    let k : CipherKey :=
      ⟨.aes128, List.replicate 16 0, List.replicate 16 0, rfl, rfl⟩
    let manifest : Manifest := ⟨4, [SlowPair.one, SlowPair.two]⟩
    let out := (source SlowPair.store.recorded).run 5 (wholeFile SlowPair.ref manifest (some k) 2)
      ⟨SlowPair.world (k.encrypt [1, 2, 3]) (k.encrypt []), []⟩
    DecryptsAfresh k manifest.blocks
      (SlowPair.content (k.encrypt [1, 2, 3]) (k.encrypt [])) out.2.1 ∧
      out.1.bytes = [1, 2, 3] ∧ out.1.ending = some (.error (.truncated 1)) ∧
      ∃ n ≤ 2, out.2.2.visits = ([SlowPair.one, SlowPair.two].take n).map .opened := by
  intro k manifest out
  have stored : manifest.blocks.map (SlowPair.content (k.encrypt [1, 2, 3]) (k.encrypt [])) =
      [[1, 2, 3], []].map k.encrypt := rfl
  have h := encrypted_transfer_exact SlowPair.honest SlowPair.sized SlowPair.reliable
    (SlowPair.good (by decide)) stored (by decide) 2 5
  exact ⟨h.1, h.2 (by decide)⟩

end Cursor

end StreamGate
