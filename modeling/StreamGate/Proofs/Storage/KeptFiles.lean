import StreamGate.Proofs.Bytes.Cutting
import StreamGate.Proofs.Storage.Serving

/-!
# Files kept in memory

A file that is cut and put in memory can be read back block by block, in the order of its
manifest, with reads of any sizes.  Pieces with the same content are stored once, and the
manifest lists them as often as the file holds them.

* `SplitFile.Cuts`: what a file is cut into.
* `BlockStore.readToEnd`, `BlockStore.readBlocks`: reading one block, and one block after the
  other.
* `BlockStore.Honest.readToEnd`, `BlockStore.Honest.readBlocks`: what an honest store hands out.
* `MemoryBlocks.get?_putAll_of_apart`: what is left alone.
* `MemoryBlocks.file_comes_back`: all of it.
-/

namespace StreamGate

/-! ## Cutting -/

namespace Block

/-- A block that is named by its content is what its name says. -/
theorem verify_ofContent (data : Bytes) : (ofContent data).verify = true := by
  have hash : (BlockId.ofContent data).text.toList.length = 64 := by
    show (Hex.encode _).toList.length = 64
    rw [Hex.length_toList_encode, Blake3.length_hash]
  simp [verify, ofContent, BlockId.isContentHash, hash]

/-- Blocks with the same id hold the same bytes. -/
def NoCollision (blocks : List Block) : Prop :=
  ∀ b ∈ blocks, ∀ b' ∈ blocks, b.id = b'.id → b.data = b'.data

end Block

namespace SplitFile

variable {data : Bytes} {size : Nat}

/-- The blocks of a file that was cut, and its manifest. -/
structure Cuts (data : Bytes) (size : Nat) (file : SplitFile) : Prop where
  count : file.blocks.length = (data.length + size - 1) / size
  whole : file.blocks.flatMap Block.data = data
  full : ∀ b ∈ file.blocks.dropLast, b.data.length = size
  last : ∀ b ∈ file.blocks.getLast?, 1 ≤ b.data.length ∧ b.data.length ≤ size
  named : ∀ b ∈ file.blocks, b.id = BlockId.ofContent b.data ∧ b.verify = true
  ids : file.manifest.blocks = file.blocks.map Block.id
  fileSize : file.manifest.fileSize = UInt64.ofNat data.length

/-- Every file can be cut into blocks of some length. -/
theorem exists_split (pos : 0 < size) (data : Bytes) :
    ∃ file, split data size = .ok file ∧ Cuts data size file := by
  refine ⟨_, if_neg (Nat.ne_of_gt pos), ?_, ?_, ?_, ?_, ?_, rfl, rfl⟩
  · rw [List.length_map, Bytes.length_pieces pos]
  · rw [List.flatMap_map]
    exact List.flatMap_id'.trans (Bytes.flatten_pieces size data)
  · intro b mem
    rw [← List.map_dropLast] at mem
    obtain ⟨piece, cut, rfl⟩ := List.mem_map.1 mem
    exact Bytes.length_of_mem_dropLast_pieces pos cut
  · intro b mem
    obtain ⟨piece, cut, rfl⟩ := List.mem_map.1 (List.mem_of_getLast? mem)
    exact Bytes.length_of_mem_pieces pos cut
  · intro b mem
    obtain ⟨piece, -, rfl⟩ := List.mem_map.1 mem
    exact ⟨rfl, Block.verify_ofContent piece⟩

/-- No block is longer than was asked for. -/
theorem Cuts.length_le {file : SplitFile} (cuts : Cuts data size file) {b : Block}
    (mem : b ∈ file.blocks) : b.data.length ≤ size := by
  cases ends : file.blocks.getLast? with
  | none =>
    rw [List.getLast?_eq_none_iff.1 ends] at mem
    cases mem
  | some last =>
    obtain ⟨front, blocks⟩ := List.getLast?_eq_some_iff.1 ends
    have full := cuts.full b
    rw [blocks, List.dropLast_concat] at full
    rw [blocks] at mem
    rcases List.mem_append.1 mem with front | here
    · exact Nat.le_of_eq (full front)
    · exact List.mem_singleton.1 here ▸ (cuts.last last ends).2

end SplitFile

/-! ## Reading -/

namespace BlockStore

variable {World Handle : Type} {bs : BlockStore World Handle} {shelf : Shelf World Handle}
  {ref : StoreRef} {ids : List BlockId} {visits : List Visit} {w : World} {h : Handle}
  {rest : Bytes}

/-- How many reads ask for something. -/
def asking (sizes : List Nat) : Nat := sizes.countP (0 < ·)

theorem asking_cons (want : Nat) (sizes : List Nat) :
    asking (want :: sizes) = asking sizes + if 0 < want then 1 else 0 := by
  simp [asking, List.countP_cons]

/-- Reads up to the end, which is where a read that asks for something gets nothing.  Each read
has a size of its own.  Sizes behind the end are not used, and if the end is not reached there
is no result. -/
def readToEnd (bs : BlockStore World Handle) :
    List Nat → Handle → World → Except Failure (Option Bytes) × Handle × World
  | [], h, w => (.ok none, h, w)
  | want :: sizes, h, w =>
    match bs.read h want w with
    | (.error e, h, w) => (.error e, h, w)
    | (.ok bytes, h, w) =>
      if 0 < want ∧ bytes.val = [] then (.ok (some []), h, w)
      else
        let (r, h, w) := bs.readToEnd sizes h w
        (r.map (Option.map (bytes.val ++ ·)), h, w)

/-- Opens blocks one after the other, reads each to its end and closes it. -/
def readBlocks (bs : BlockStore World Handle) (ref : StoreRef) :
    List (BlockId × List Nat) → World → Except Failure (Option Bytes) × World
  | [], w => (.ok (some []), w)
  | (id, sizes) :: more, w =>
    match bs.openBlock ref id w with
    | (.error e, w) => (.error e, w)
    | (.ok h, w) =>
      match bs.readToEnd sizes h w with
      | (.ok (some bytes), h, w) =>
        let (r, w) := bs.readBlocks ref more (bs.close h w)
        (r.map (Option.map (bytes ++ ·)), w)
      | (r, h, w) => (r, bs.close h w)

/-- Reading to the end gives all that is left, if it gets there. -/
theorem Honest.readToEnd (honest : bs.Honest shelf ref ids) (reliable : shelf.Reliable)
    (good : shelf.good visits w) (left : shelf.left w h rest) (sizes : List Nat) :
    ∃ r h' w', bs.readToEnd sizes h w = (.ok r, h', w') ∧ shelf.good visits w' ∧
      (r = none ∨ r = some rest) ∧ (rest.length < asking sizes → r = some rest) := by
  induction sizes generalizing w h rest with
  | nil => exact ⟨none, h, w, rfl, good, .inl rfl, nofun⟩
  | cons want sizes ih =>
    have answer := honest.read want good left
    unfold BlockStore.readToEnd
    match got : bs.read h want w with
    | (.error e, h', w') =>
      rw [got] at answer
      exact absurd answer.2.2 (reliable e)
    | (.ok bytes, h', w') =>
      rw [got] at answer
      obtain ⟨good', ⟨more, rfl, left'⟩, ends⟩ := answer
      by_cases done : 0 < want ∧ bytes.val = []
      · have nothing := (ends done.2).resolve_left (Nat.ne_of_gt done.1)
        simp only [if_pos done, nothing]
        exact ⟨_, _, _, rfl, good', .inr rfl, fun _ => rfl⟩
      · obtain ⟨r, h'', w'', ran, good'', given, enough⟩ := ih good' left'
        simp only [if_neg done, ran]
        refine ⟨_, _, _, rfl, good'', ?_, fun asked => ?_⟩
        · rcases given with rfl | rfl
          · exact .inl rfl
          · exact .inr rfl
        · have shorter : more.length < asking sizes := by
            rw [asking_cons, List.length_append] at asked
            split at asked
            · rename_i some
              have byte : 0 < bytes.val.length :=
                List.length_pos_iff.2 fun none => done ⟨some, none⟩
              omega
            · omega
          rw [enough shorter]
          rfl

/-- Reading blocks gives what they hold one after the other, if it gets to the end of each. -/
theorem Honest.readBlocks (honest : bs.Honest shelf ref ids) (reliable : shelf.Reliable)
    (good : shelf.good visits w) {plan : List (BlockId × List Nat)}
    (known : ∀ p ∈ plan, p.1 ∈ ids) :
    ∃ r w', bs.readBlocks ref plan w = (.ok r, w') ∧
      (r = none ∨ r = some (plan.flatMap fun p => shelf.content p.1)) ∧
      ((∀ p ∈ plan, (shelf.content p.1).length < asking p.2) →
        r = some (plan.flatMap fun p => shelf.content p.1)) := by
  induction plan generalizing visits w with
  | nil => exact ⟨some [], w, rfl, .inr rfl, fun _ => rfl⟩
  | cons first more ih =>
    obtain ⟨id, sizes⟩ := first
    rw [List.forall_mem_cons] at known
    have answer := honest.openBlock known.1 good
    unfold BlockStore.readBlocks
    match opened : bs.openBlock ref id w with
    | (.error e, w₁) =>
      rw [opened] at answer
      exact absurd answer.2 (reliable e)
    | (.ok h, w₁) =>
      rw [opened] at answer
      obtain ⟨r, h', w₂, ran, good₂, given, enough⟩ :=
        honest.readToEnd reliable answer.1 answer.2 sizes
      simp only [ran]
      rcases given with rfl | rfl
      · refine ⟨none, _, rfl, .inl rfl, fun asked => ?_⟩
        exact absurd (enough (asked _ List.mem_cons_self)) nofun
      · obtain ⟨r', w₃, ran', given', enough'⟩ := ih (honest.close h' good₂) known.2
        simp only [ran']
        refine ⟨_, _, rfl, ?_, fun asked => ?_⟩
        · rcases given' with rfl | rfl
          · exact .inl rfl
          · exact .inr rfl
        · rw [enough' (List.forall_mem_cons.1 asked).2]
          rfl

end BlockStore

/-! ## Keeping -/

namespace MemoryBlocks

/-- What is stored elsewhere stays as it is. -/
theorem get?_putAll_of_apart {ref ref' : StoreRef} {id : BlockId} {blocks : List Block}
    (apart : ref'.storeId ≠ ref.storeId ∨ id ∉ blocks.map Block.id) (m : MemoryBlocks) :
    (m.putAll ref blocks).get? ref' id = m.get? ref' id := by
  induction blocks generalizing m with
  | nil => rfl
  | cons b rest ih =>
    rw [List.map_cons, List.mem_cons, not_or] at apart
    have other : (ref.storeId, b.id) ≠ (ref'.storeId, id) := by
      intro same
      obtain ⟨store, block⟩ := Prod.mk.inj same
      exact apart.elim (fun apart => apart store.symm) fun apart => apart.1 block.symm
    show ((m.put ref b.id b.data).putAll ref rest).get? ref' id = _
    rw [ih (apart.imp_right And.right), get?_put, if_neg other]

/-- Every block that is put in is there, unless ids collide. -/
theorem get?_putAll_of_mem {ref : StoreRef} {blocks : List Block} (alone : Block.NoCollision blocks)
    {b : Block} (mem : b ∈ blocks) (m : MemoryBlocks) :
    (m.putAll ref blocks).get? ref b.id = some b.data :=
  get?_putAll m blocks (fun b' mem' same => alone b' mem' b mem same) (.inr ⟨b, mem, rfl⟩)

/-- What reading the blocks of a file comes to, once they are put in. -/
theorem readBlocks_putAll {data : Bytes} {size : Nat} {file : SplitFile}
    (cuts : SplitFile.Cuts data size file) (alone : Block.NoCollision file.blocks) (ref : StoreRef)
    (m : MemoryBlocks) {plan : List (BlockId × List Nat)}
    (listed : plan.map Prod.fst = file.manifest.blocks) :
    ∃ r m', store.readBlocks ref plan (m.putAll ref file.blocks) = (.ok r, m') ∧
      (r = none ∨ r = some data) ∧
      ((∀ p ∈ plan, size < BlockStore.asking p.2) → r = some data) := by
  let content (id : BlockId) : Bytes := ((m.putAll ref file.blocks).get? ref id).getD []
  have held : ∀ b ∈ file.blocks, content b.id = b.data := fun b mem => by
    show ((m.putAll ref file.blocks).get? ref b.id).getD [] = b.data
    rw [get?_putAll_of_mem alone mem, Option.getD_some]
  have stocked : (shelf ref file.manifest.blocks content).good [] (m.putAll ref file.blocks) := by
    intro id mem
    rw [cuts.ids] at mem
    obtain ⟨b, block, rfl⟩ := List.mem_map.1 mem
    rw [get?_putAll_of_mem alone block, held b block]
  have all : plan.flatMap (fun p => content p.1) = data := by
    rw [← List.flatMap_map, listed, cuts.ids, List.flatMap_map]
    exact (congrArg List.flatten (List.map_congr_left held)).trans cuts.whole
  have known : ∀ p ∈ plan, p.1 ∈ file.manifest.blocks := fun p mem =>
    listed ▸ List.mem_map_of_mem mem
  obtain ⟨r, m', ran, given, enough⟩ :=
    honest_store.readBlocks reliable_shelf stocked known
  change _ ∨ r = some (plan.flatMap fun p => content p.1) at given
  change _ → r = some (plan.flatMap fun p => content p.1) at enough
  rw [all] at given enough
  refine ⟨r, m', ran, given, fun asked => enough fun p mem => ?_⟩
  obtain ⟨b, block, same⟩ := List.mem_map.1 (cuts.ids ▸ known p mem)
  show (content p.1).length < _
  rw [← same, held b block]
  exact Nat.lt_of_le_of_lt (cuts.length_le block) (asked p mem)

/-- A file that is put in comes back.

* It is cut into as few blocks as hold it, all but the last of them full, each named by its
  content, and the manifest lists them in order with the size of the file.
* Whatever was in memory before, the file can be put in, and what is stored in other stores or
  under other ids stays as it is.
* Reading the blocks of the manifest in order never gives anything but the file, unless ids
  collide, and gives it if there are enough reads that ask for something. -/
theorem file_comes_back (data : Bytes) (size : Nat) (pos : 0 < size) :
    ∃ file, SplitFile.split data size = .ok file ∧ SplitFile.Cuts data size file ∧
      (data.length < UInt64.size → file.manifest.fileSize.toNat = data.length) ∧
      ∀ (m : MemoryBlocks) (ref : StoreRef), ∃ m',
        m.putFile ref data size = .ok (file.manifest, m') ∧
        (∀ (ref' : StoreRef) id, ref'.storeId ≠ ref.storeId ∨ id ∉ file.manifest.blocks →
          m'.get? ref' id = m.get? ref' id) ∧
        (Block.NoCollision file.blocks →
          ∀ plan : List (BlockId × List Nat), plan.map Prod.fst = file.manifest.blocks →
            ∃ r m'', store.readBlocks ref plan m' = (.ok r, m'') ∧ (r = none ∨ r = some data) ∧
              ((∀ p ∈ plan, size < BlockStore.asking p.2) → r = some data)) := by
  obtain ⟨file, split, cuts⟩ := SplitFile.exists_split pos data
  refine ⟨file, split, cuts, fun small => ?_, fun m ref => ⟨m.putAll ref file.blocks, ?_, ?_, ?_⟩⟩
  · rw [cuts.fileSize, UInt64.toNat_ofNat', Nat.mod_eq_of_lt small]
  · rw [putFile, split]
    rfl
  · rw [cuts.ids]
    exact fun ref' id apart => get?_putAll_of_apart apart m
  · exact fun alone plan listed => readBlocks_putAll cuts alone ref m listed

/-- Four bytes in two equal pieces, read one byte at a time. -/
theorem file_comes_back_of_equal_pieces : ∃ manifest m',
    ({} : MemoryBlocks).putFile ⟨"alpha", 1⟩ [7, 8, 7, 8] 2 = .ok (manifest, m') ∧
      ∃ m'', store.readBlocks ⟨"alpha", 1⟩ (manifest.blocks.map fun id => (id, [1, 1, 1])) m' =
        (.ok (some [7, 8, 7, 8]), m'') := by
  obtain ⟨file, split, cuts, -, kept⟩ := file_comes_back [7, 8, 7, 8] 2 (by decide)
  obtain ⟨m', put, -, back⟩ := kept {} ⟨"alpha", 1⟩
  have equal : ∀ b ∈ file.blocks, b = Block.ofContent [7, 8] := by
    cases split
    simp [Bytes.pieces]
  have alone : Block.NoCollision file.blocks := fun b mem b' mem' _ => by
    rw [equal b mem, equal b' mem']
  have three : 2 < BlockStore.asking [1, 1, 1] := by decide
  obtain ⟨r, m'', ran, -, enough⟩ :=
    back alone (file.manifest.blocks.map fun id => (id, [1, 1, 1])) (by simp [Function.comp_def])
  exact ⟨file.manifest, m', put, m'', by
    rw [ran, enough (List.forall_mem_map.2 fun _ _ => three)]⟩

end MemoryBlocks

end StreamGate
