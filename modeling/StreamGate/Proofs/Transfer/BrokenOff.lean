import StreamGate.Proofs.Transfer.Custody
import StreamGate.Proofs.Transfer.WholeFile

/-!
# Transfers that break off

What comes out of an encrypted file before a transfer breaks off is the start of
its plaintext, whatever the store does.

A store is `Truthful` if what goes well is as the shelf says.  A call that fails may
leave anything behind: the handle may have moved on, and what it hands out later may
be wrong.  A read may be cut short, even to nothing.  That is less than an `Honest`
store promises, but a transfer does not go on after its first error, so it hardly can
tell the store from `BlockStore.steady`, which takes back whatever a failing call did
and fails where a read was cut to nothing.

* `Cursor.told_turn`, `Cursor.told_nextChunk`, `Cursor.told_drain`: on the steady store
  everything is the same up to the first error, and nearly the same error.
* `Cursor.broken_transfer_prefix`: so what holds of transfers from honest stores holds.

`BlockStore.fated` is a store with a schedule of failures and of reads that are cut
short, call by call.
-/

namespace StreamGate

variable {World Handle : Type}

/-! ## Stores that may fail -/

/-- What goes well is as the shelf says. -/
structure BlockStore.Truthful (bs : BlockStore World Handle) (shelf : Shelf World Handle)
    (ref : StoreRef) (ids : List BlockId) : Prop where
  openBlock : ∀ {visits w id h w'}, id ∈ ids → shelf.good visits w →
    bs.openBlock ref id w = (.ok h, w') → shelf.Opens visits id (.ok h, w')
  read : ∀ {visits w h rest want bytes h' w'}, shelf.good visits w → shelf.left w h rest →
    bs.read h want w = (.ok bytes, h', w') →
      shelf.good visits w' ∧ ∃ more, rest = bytes.val ++ more ∧ shelf.left w' h' more
  close : ∀ {visits w} (h : Handle), shelf.good visits w → shelf.good visits (bs.close h w)

/-- A store whose failing calls change nothing.  A read that was cut to nothing fails. -/
def BlockStore.steady (bs : BlockStore World Handle) (empty : Failure) :
    BlockStore World Handle where
  stat ref id w :=
    match bs.stat ref id w with
    | (.ok size, w) => (.ok size, w)
    | (.error e, _) => (.error e, w)
  openBlock ref id w :=
    match bs.openBlock ref id w with
    | (.ok h, w) => (.ok h, w)
    | (.error e, _) => (.error e, w)
  size := bs.size
  read h want w :=
    match bs.read h want w with
    | (.ok bytes, h', w') =>
      if bytes.val = [] ∧ want ≠ 0 then (.error empty, h, w) else (.ok bytes, h', w')
    | (.error e, _, _) => (.error e, h, w)
  close := bs.close

/-- The shelf of a store that can fail in these ways. -/
def Shelf.failing (shelf : Shelf World Handle) (fault : Failure → Prop) : Shelf World Handle :=
  { shelf with fault }

/-- How the steady store fails. -/
def BlockStore.FailsOr (bs : BlockStore World Handle) (empty f : Failure) : Prop :=
  bs.FailsWith f ∨ f = empty

section Steady

variable {bs : BlockStore World Handle} {shelf : Shelf World Handle} {ref : StoreRef}
  {ids : List BlockId}

theorem BlockStore.Truthful.steady (truthful : bs.Truthful shelf ref ids) (empty : Failure) :
    (bs.steady empty).Honest (shelf.failing (bs.FailsOr empty)) ref ids where
  openBlock {visits w id} mem good := by
    have opened {h w'} := @truthful.openBlock visits w id h w' mem good
    simp only [BlockStore.steady]
    generalize answer : bs.openBlock ref id w = out at opened ⊢
    obtain ⟨e | h, w'⟩ := out
    · exact ⟨good, .inl (.openBlock answer)⟩
    · exact opened rfl
  read {visits w h rest} want good left := by
    have read {bytes h' w'} := @truthful.read visits w h rest want bytes h' w' good left
    simp only [BlockStore.steady]
    generalize answer : bs.read h want w = out at read ⊢
    obtain ⟨e | bytes, h', w'⟩ := out
    · exact ⟨good, left, .inl (.read answer)⟩
    · obtain ⟨good', rest'⟩ := read rfl
      dsimp only
      split
      · exact ⟨good, left, .inr rfl⟩
      · rename_i some
        exact ⟨good', rest', fun nothing => .inl (Decidable.not_not.1 fun wanted =>
          some ⟨nothing, wanted⟩)⟩
  close := truthful.close

theorem BlockStore.Sized.steady (sized : bs.Sized shelf ref ids) (empty : Failure)
    (fault : Failure → Prop) : (bs.steady empty).Sized (shelf.failing fault) ref ids where
  size {visits w id h w'} mem good opened := by
    simp only [BlockStore.steady] at opened
    split at opened <;> cases opened
    rename_i answer
    exact sized.size mem good answer

end Steady

/-! ## Cursors on the steady store -/

namespace Cursor

variable {bs : BlockStore World Handle} {c : Cursor Handle}

/-- An answer of an encrypted cursor, and its answer on the steady store. -/
inductive Told (empty : Failure) {α : Type} : Except TransferError α × Cursor Handle × World →
    Except TransferError α × Cursor Handle × World → Prop
  | same {out : Except TransferError α × Cursor Handle × World} (encrypted : out.2.1.key.isSome) :
      Told empty out out
  | error {s t : Cursor Handle × World} (e : TransferError) : Told empty (.error e, s) (.error e, t)
  | empty {s t : Cursor Handle × World} (missing : Nat) :
      Told empty (.error (.truncated missing), s) (.error (.block empty), t)

theorem key_finishBlock (bs : BlockStore World Handle) (c : Cursor Handle) (b : OpenBlock Handle)
    (h : c.index < c.blocks.length) (plain : Bytes) (w : World) :
    (finishBlock bs c b h plain w).2.1.key = c.key := by
  unfold finishBlock
  split
  · split
    · rfl
    · split <;> rfl
  · rfl

theorem readBlock_steady (bs : BlockStore World Handle) (empty : Failure) (b : OpenBlock Handle)
    {want : Nat} (wanted : want ≠ 0) (w : World) :
    match readBlock bs b want w with
    | (.error e, _) => ∃ s, readBlock (bs.steady empty) b want w = (.error e, s)
    | (.ok [], _) => ∃ s, readBlock (bs.steady empty) b want w = (.error (.block empty), s)
    | out => readBlock (bs.steady empty) b want w = out := by
  unfold readBlock
  simp only [BlockStore.steady]
  generalize bs.read b.handle want w = answer
  obtain ⟨e | ⟨bytes, le⟩, h', w'⟩ := answer
  · exact ⟨_, rfl⟩
  · cases bytes with
    | nil =>
      dsimp only
      rw [if_pos ⟨rfl, wanted⟩]
      exact ⟨_, rfl⟩
    | cons x more =>
      dsimp only
      rw [if_neg fun nothing => List.cons_ne_nil x more nothing.1]

theorem told_turnEncrypted (empty : Failure) (encrypted : c.key.isSome) (b : OpenBlock Handle)
    (h : c.index < c.blocks.length) (w : World) :
    Told empty (turnEncrypted bs c b h w) (turnEncrypted (bs.steady empty) c b h w) := by
  have finished (b' : OpenBlock Handle) (plain : Bytes) (w' : World) :
      (finishBlock bs c b' h plain w').2.1.key.isSome := by
    rwa [key_finishBlock]
  unfold turnEncrypted
  by_cases nothing : b.left = 0
  · rw [if_pos nothing, if_pos nothing]
    exact .same (finished b [] w)
  · have pos := c.buffer_pos
    have wanted : min b.left c.buffer ≠ 0 := by omega
    have read := readBlock_steady bs empty b wanted w
    rw [if_neg nothing, if_neg nothing]
    generalize readBlock bs b (min b.left c.buffer) w = out at read ⊢
    obtain ⟨e | piece, b', w'⟩ := out
    · obtain ⟨s, read⟩ := read
      rw [read]
      exact .error e
    · cases piece with
      | nil =>
        obtain ⟨s, read⟩ := read
        rw [read]
        exact .empty c.remaining
      | cons x more =>
        dsimp only at read
        rw [read]
        dsimp only
        generalize decryptPiece b' (x :: more) = decrypted
        obtain ⟨e | plain, b''⟩ := decrypted
        · exact .same encrypted
        · exact .same (finished b'' plain w')

/-- A turn on the steady store. -/
theorem told_turn (bs : BlockStore World Handle) (empty : Failure) (encrypted : c.key.isSome)
    (w : World) : Told empty (c.turn bs w) (c.turn (bs.steady empty) w) := by
  have opened (b : OpenBlock Handle) (h : c.index < c.blocks.length) (w : World) :
      Told empty (turnOpen bs c b h w) (turnOpen (bs.steady empty) c b h w) := by
    unfold turnOpen
    rw [if_pos encrypted, if_pos encrypted]
    exact told_turnEncrypted empty encrypted b h w
  cases current : c.current with
  | some b =>
    have h := c.index_lt (by rw [current]; rfl)
    rw [turn_of_some current h, turn_of_some current h]
    exact opened b h w
  | none =>
    rw [turn_of_none current, turn_of_none current]
    by_cases h : c.index < c.blocks.length
    · rw [dif_pos h, dif_pos h]
      simp only [openAt, BlockStore.steady]
      generalize bs.openBlock c.store c.blocks[c.index] w = out
      obtain ⟨e | handle, w'⟩ := out
      · exact .error (.block e)
      · exact opened _ h w'
    · rw [dif_neg h, dif_neg h]
      exact .error _

/-- A chunk on the steady store. -/
theorem told_nextChunk (bs : BlockStore World Handle) (empty : Failure) {c : Cursor Handle}
    (encrypted : c.key.isSome) (w : World) :
    Told empty (c.nextChunk bs w) (c.nextChunk (bs.steady empty) w) := by
  rw [nextChunk_eq bs, nextChunk_eq (bs.steady empty)]
  by_cases spent : c.remaining = 0
  · rw [if_pos spent, if_pos spent]
    exact .same encrypted
  · have told := told_turn bs empty encrypted w
    rw [if_neg spent, if_neg spent]
    generalize taken : c.turn bs w = out at told ⊢
    generalize c.turn (bs.steady empty) w = out' at told ⊢
    cases told with
    | error e => exact .error e
    | empty missing => exact .empty missing
    | same encrypted =>
      obtain ⟨e | data, c', w'⟩ := out
      · exact .error e
      · cases data with
        | none => exact told_nextChunk bs empty encrypted w'
        | some data =>
          dsimp only
          split
          · exact .same encrypted
          · split <;> exact .same encrypted
termination_by c.progress
decreasing_by exact progress_turn taken

/-- What came out, and what comes out on the steady store. -/
structure ToldDrain (empty : Failure) (out out' : Drain) : Prop where
  chunks : out.chunks = out'.chunks
  ending : out.ending = out'.ending ∨
    (∃ missing, out.ending = some (.error (.truncated missing))) ∧
      out'.ending = some (.error (.block empty))

/-- A drain on the steady store. -/
theorem told_drain (bs : BlockStore World Handle) (empty : Failure) (limit : Nat)
    (encrypted : c.key.isSome) (w : World) :
    ToldDrain empty ((source bs).drain limit c w).1
      ((source (bs.steady empty)).drain limit c w).1 := by
  induction limit generalizing c w with
  | zero => exact ⟨rfl, .inl rfl⟩
  | succ limit ih =>
    have told : Told empty ((source bs).nextChunk c w) ((source (bs.steady empty)).nextChunk c w) :=
      told_nextChunk bs empty encrypted w
    unfold Source.drain
    generalize (source bs).nextChunk c w = out at told ⊢
    generalize (source (bs.steady empty)).nextChunk c w = out' at told ⊢
    cases told with
    | error e => exact ⟨rfl, .inl rfl⟩
    | empty missing => exact ⟨rfl, .inr ⟨⟨missing, rfl⟩, rfl⟩⟩
    | same encrypted =>
      obtain ⟨e | chunk, c', w'⟩ := out
      · exact ⟨rfl, .inl rfl⟩
      · dsimp only
        split
        · exact ⟨rfl, .inl rfl⟩
        · obtain ⟨chunks, ending⟩ := ih encrypted w'
          exact ⟨congrArg (chunk.data :: ·) chunks, ending⟩

end Cursor

/-! ## Schedules -/

/-- What is to happen to a call. -/
inductive Fate where
  | well
  /-- A read hands out no more than this many bytes. -/
  | cut (most : Nat)
  | fail (f : Failure)

/-- A world with what is to happen to the coming calls; later ones go well. -/
structure Fated (World : Type) where
  inner : World
  fates : List Fate

/-- The fate of the next call. -/
def Fated.draw (w : Fated World) : Fate × Fated World :=
  match w.fates with
  | [] => (.well, w)
  | fate :: fates => (fate, { w with fates })

/-- Makes a store fail and cut reads short as scheduled.  What a failing read would
have handed out is lost. -/
def BlockStore.fated (bs : BlockStore World Handle) : BlockStore (Fated World) Handle where
  stat ref id w :=
    match w.draw with
    | (.fail f, w) => (.error f, w)
    | (_, w) =>
      let (r, inner) := bs.stat ref id w.inner
      (r, { w with inner })
  openBlock ref id w :=
    match w.draw with
    | (.fail f, w) => (.error f, w)
    | (_, w) =>
      let (r, inner) := bs.openBlock ref id w.inner
      (r, { w with inner })
  size := bs.size
  read h want w :=
    match w.draw with
    | (.fail f, w) =>
      let (_, h, inner) := bs.read h want w.inner
      (.error f, h, { w with inner })
    | (.cut most, w) =>
      let (r, h, inner) := bs.read h (min want most) w.inner
      (r.map fun bytes => ⟨bytes.val, bytes.property.trans (Nat.min_le_left ..)⟩, h,
        { w with inner })
    | (.well, w) =>
      let (r, h, inner) := bs.read h want w.inner
      (r, h, { w with inner })
  close h w := { w with inner := bs.close h w.inner }

/-- The shelf of a store with a schedule. -/
def Shelf.fated (shelf : Shelf World Handle) : Shelf (Fated World) Handle :=
  shelf.within Fated.inner

section Schedules

variable {bs : BlockStore World Handle} {shelf : Shelf World Handle} {ref : StoreRef}
  {ids : List BlockId}

theorem Fated.inner_draw (w : Fated World) : w.draw.2.inner = w.inner := by
  unfold Fated.draw
  split <;> rfl

/-- Under any schedule, what goes well is right. -/
theorem BlockStore.Honest.fated (honest : bs.Honest shelf ref ids) :
    bs.fated.Truthful shelf.fated ref ids where
  openBlock {visits w id h w'} mem good opened := by
    have h₀ := honest.openBlock mem good
    have same := w.inner_draw
    simp only [BlockStore.fated] at opened
    generalize w.draw = drawn at opened same
    obtain ⟨fate, v⟩ := drawn
    dsimp only at same
    rw [← same] at h₀
    cases fate with
    | fail f => cases opened
    | well | cut most =>
      have answer : ((bs.openBlock ref id v.inner).1,
          ({ v with inner := (bs.openBlock ref id v.inner).2 } : Fated World)) = (.ok h, w') :=
        opened
      generalize bs.openBlock ref id v.inner = out at h₀ answer
      obtain ⟨r, inner⟩ := out
      cases answer
      exact h₀
  read {visits w h rest want bytes h' w'} good left taken := by
    have same := w.inner_draw
    simp only [BlockStore.fated] at taken
    generalize w.draw = drawn at taken same
    obtain ⟨fate, v⟩ := drawn
    dsimp only at same
    have good : shelf.good visits v.inner := same ▸ good
    have left : shelf.left v.inner h rest := same ▸ left
    cases fate with
    | fail f => cases taken
    | well =>
      have h₀ := honest.read want good left
      have answer : ((bs.read h want v.inner).1, (bs.read h want v.inner).2.1,
          ({ v with inner := (bs.read h want v.inner).2.2 } : Fated World)) =
          (.ok bytes, h', w') := taken
      generalize bs.read h want v.inner = out at h₀ answer
      obtain ⟨r, h₁, inner⟩ := out
      cases answer
      exact ⟨h₀.1, h₀.2.1⟩
    | cut most =>
      have h₀ := honest.read (min want most) good left
      have answer : ((bs.read h (min want most) v.inner).1.map
            (fun bytes => (⟨bytes.val, bytes.property.trans (Nat.min_le_left ..)⟩ :
              { bytes : Bytes // bytes.length ≤ want })),
          (bs.read h (min want most) v.inner).2.1,
          ({ v with inner := (bs.read h (min want most) v.inner).2.2 } : Fated World)) =
          (.ok bytes, h', w') := taken
      generalize bs.read h (min want most) v.inner = out at h₀ answer
      obtain ⟨r, h₁, inner⟩ := out
      cases r with
      | error e => cases answer
      | ok piece =>
        cases answer
        exact ⟨h₀.1, h₀.2.1⟩
  close h good := honest.close h good

theorem BlockStore.Sized.fated (sized : bs.Sized shelf ref ids) :
    bs.fated.Sized shelf.fated ref ids where
  size {visits w id h w'} mem good opened := by
    have same := w.inner_draw
    simp only [BlockStore.fated] at opened
    generalize w.draw = drawn at opened same
    obtain ⟨fate, v⟩ := drawn
    dsimp only at same
    have good : shelf.good visits v.inner := same ▸ good
    cases fate with
    | fail f => cases opened
    | well | cut most =>
      have answer : (bs.openBlock ref id v.inner).1 = .ok h := congrArg Prod.fst opened
      exact sized.size mem good (Prod.ext answer rfl)

end Schedules

/-! ## Encrypted files -/

/-- Why a transfer breaks off: a call to the store failed, or a read was cut to nothing. -/
inductive TransferError.Breaks (bs : BlockStore World Handle) : TransferError → Prop
  | call {f : Failure} (fails : bs.FailsWith f) : Breaks bs (.block f)
  | empty (missing : Nat) : Breaks bs (.truncated missing)

/-- What came out of a file with this plaintext when at most `limit` chunks were asked
for: its start, and all of it if the transfer ended well.  Otherwise it broke off, or
not enough chunks were asked for. -/
structure BrokenOff (breaks : TransferError → Prop) (plain : Bytes) (limit : Nat) (out : Drain) :
    Prop where
  bytes : out.bytes <+: plain
  ending : match out.ending with
    | some (.ok ()) => out.bytes = plain
    | some (.error e) => breaks e
    | none => limit ≤ out.bytes.length

namespace BrokenOff

variable {breaks breaks' : TransferError → Prop} {plain : Bytes} {limit : Nat} {out out' : Drain}

theorem imp (broken : BrokenOff breaks plain limit out)
    (why : ∀ e, out.ending = some (.error e) → breaks e → breaks' e) :
    BrokenOff breaks' plain limit out := by
  refine ⟨broken.bytes, ?_⟩
  have ended := broken.ending
  cases ending : out.ending with
  | none => rwa [ending] at ended
  | some r =>
    rw [ending] at ended
    cases r with
    | ok => exact ended
    | error e => exact why e ending ended

theorem of_drained {t : Feed World Handle} {out : Drain × Cursor Handle × World}
    (drained : t.Drained limit t.stop t.file out) (all : t.stop = t.file.length) :
    BrokenOff (fun e => ∃ f, t.shelf.fault f ∧ e = .block f) t.file limit out.1 := by
  obtain ⟨more, split, ended⟩ := drained
  refine ⟨⟨more, split.symm⟩, ?_⟩
  obtain ⟨⟨chunks, ending⟩, c, w⟩ := out
  rcases ending with _ | e | u
  · exact ended.1
  · obtain ⟨-, balanced, fault | ⟨rfl, wanted, -⟩⟩ := ended
    · exact fault
    · unfold Feed.Balanced at balanced
      rw [List.length_nil] at balanced
      omega
  · have count : chunks.flatten.length = t.stop := ended.1
    have bytes : (⟨chunks, some (.ok u)⟩ : Drain).bytes = chunks.flatten := rfl
    have sizes := congrArg List.length split
    rw [bytes, List.length_append] at sizes
    have nothing : more = [] := List.eq_nil_of_length_eq_zero (by omega)
    rw [nothing, List.append_nil] at split
    exact split.symm

/-- What broke off on the steady store broke off at the same place. -/
theorem of_told {bs : BlockStore World Handle} {empty : Failure}
    (told : Cursor.ToldDrain empty out out')
    (broken : BrokenOff (fun e => ∃ f, bs.FailsOr empty f ∧ e = .block f) plain limit out') :
    BrokenOff (fun e => e.Breaks bs ∨ e = .block empty) plain limit out := by
  have bytes : out.bytes = out'.bytes := congrArg List.flatten told.chunks
  refine ⟨bytes ▸ broken.bytes, ?_⟩
  have ended := broken.ending
  rw [bytes]
  rcases told.ending with same | ⟨⟨missing, cut⟩, -⟩
  · rw [same]
    cases ending : out'.ending with
    | none => rwa [ending] at ended
    | some r =>
      rw [ending] at ended
      cases r with
      | ok => exact ended
      | error e =>
        obtain ⟨f, fails | rfl, rfl⟩ := ended
        · exact .inl (.call fails)
        · exact .inr rfl
  · rw [cut]
    exact .inl (.empty missing)

end BrokenOff

namespace Cursor

/-- However a store fails and cuts reads short, what comes out of an encrypted file is
the start of its plaintext, and the transfer ends well only with all of it. -/
theorem broken_transfer_prefix {bs : BlockStore World Handle} {shelf : Shelf World Handle}
    {ref : StoreRef} {w : World} {manifest : Manifest} {k : CipherKey} {plains : List Bytes}
    (truthful : bs.Truthful shelf ref manifest.blocks)
    (sized : bs.Sized shelf ref manifest.blocks) (good : shelf.good [] w)
    (stored : manifest.blocks.map shelf.content = plains.map k.encrypt)
    (announced : manifest.fileSize.toNat = plains.flatten.length) (buffer limit : Nat) :
    BrokenOff (TransferError.Breaks bs) plains.flatten limit
      ((source bs).run limit (wholeFile ref manifest (some k) buffer) w).1 := by
  let plain : BlockId → Bytes := fun id => plaintext (some k) (shelf.content id)
  have hplain : manifest.blocks.map plain = plains :=
    map_plaintext_of_stored (deciphers_encrypt k) stored
  have broken (empty : Failure) :
      BrokenOff (fun e => e.Breaks bs ∨ e = .block empty) plains.flatten limit
        ((source bs).run limit (wholeFile ref manifest (some k) buffer) w).1 := by
    let t := Feed.fromStart (shelf.failing (bs.FailsOr empty)) ref manifest.blocks (some k) plain
      manifest.fileSize.toNat
    have file : t.file = plains.flatten := by
      show manifest.blocks.flatMap plain = plains.flatten
      rw [List.flatMap_def, hplain]
    have served : t.Served (bs.steady empty) := by
      refine ⟨truthful.steady empty, fun _ => deciphers_of_stored (deciphers_encrypt k) stored,
        fun _ => sized.steady empty _, fun _ => ?_⟩
      rw [file]
      exact Nat.le_of_eq announced.symm
    have good' : (shelf.failing (bs.FailsOr empty)).good [] w := good
    have stands : t.Stands (wholeFile ref manifest (some k) buffer) w t.file :=
      Feed.Stands.start good' buffer
    have drained := stands.drain served rfl limit
    have encrypted : (wholeFile ref manifest (some k) buffer : Cursor Handle).key.isSome := rfl
    have told := told_drain bs empty limit encrypted w
    rw [← file]
    refine .of_told told (.of_drained drained ?_)
    rw [file]
    exact announced
  refine (broken (.internal "")).imp fun e ended why => ?_
  have why' := (broken (.storage "")).ending
  rw [ended] at why'
  rcases why with breaks | rfl
  · exact breaks
  · exact why'.resolve_right nofun

/-- Two encrypted blocks on a store that cuts a read short and the next one to nothing. -/
theorem broken_transfer_of_fated :
    let k : CipherKey :=
      ⟨.aes128, List.replicate 16 0, List.replicate 16 0, rfl, rfl⟩
    let manifest : Manifest := ⟨3, [SlowPair.one, SlowPair.two]⟩
    let fates : List Fate := [.well, .cut 2, .cut 0, .fail (.storage "connection lost")]
    BrokenOff (TransferError.Breaks MemoryBlocks.store.fated) [1, 2, 3] 5
      ((source MemoryBlocks.store.fated).run 5 (wholeFile SlowPair.ref manifest (some k) 64)
        ⟨SlowPair.blocks (k.encrypt [1, 2]) (k.encrypt [3]), fates⟩).1 := by
  intro k manifest fates
  have stored : manifest.blocks.map (SlowPair.content (k.encrypt [1, 2]) (k.encrypt [3])) =
      [[1, 2], [3]].map k.encrypt := rfl
  have good : (MemoryBlocks.shelf SlowPair.ref manifest.blocks (SlowPair.content (k.encrypt [1, 2])
      (k.encrypt [3]))).fated.good []
      ⟨SlowPair.blocks (k.encrypt [1, 2]) (k.encrypt [3]), fates⟩ :=
    (SlowPair.good (List.Subset.refl _)).1
  exact broken_transfer_prefix MemoryBlocks.honest_store.fated MemoryBlocks.sized_store.fated good
    stored rfl 64 5

end Cursor

end StreamGate
