import StreamGate.Proofs.Transfer.Turns

/-!
# Nothing is read ahead

What a cursor reads goes out at once, but for what decryption has to hold back.

`BlockStore.gauged` and `Source.gauged` count bytes: those read from handles, in all and from
each handle, those read in starting a source, and those handed out.

* `Cursor.Flows`: what an operation that goes well does to these counts, and that it keeps
  `Cursor.Trails`, the account of the open block: what was read of it and not handed out is
  what its decryption holds back.
* `Cursor.flows_turn`, `Cursor.flows_nextChunk`: a turn and a chunk flow.
* `Cursor.begins_begin`: a start reads exactly what comes before the range in its block.
* `Cursor.no_read_ahead`: the counts after any calls that went well.
-/

namespace StreamGate

variable {World Handle State : Type}

/-! ## Gauges -/

/-- A handle with a gauge on it. -/
structure GaugedHandle (Handle : Type) where
  inner : Handle
  /-- The bytes that were read from it. -/
  taken : Nat
  /-- The bytes that had been handed out when it was opened. -/
  since : Nat

/-- A world with gauges beside it. -/
structure Gauged (World : Type) where
  inner : World
  /-- The bytes that were read from handles. -/
  read : Nat := 0
  /-- Those of them that were read in starting a source. -/
  skipped : Nat := 0
  /-- The bytes that were handed out. -/
  handed : Nat := 0

/-- Counts what is read from the handles of a store. -/
def BlockStore.gauged (bs : BlockStore World Handle) :
    BlockStore (Gauged World) (GaugedHandle Handle) where
  stat ref id w :=
    let (r, inner) := bs.stat ref id w.inner
    (r, { w with inner })
  openBlock ref id w :=
    match bs.openBlock ref id w.inner with
    | (.ok handle, inner) => (.ok ⟨handle, 0, w.handed⟩, { w with inner })
    | (.error e, inner) => (.error e, { w with inner })
  size h := bs.size h.inner
  read h want w :=
    match bs.read h.inner want w.inner with
    | (.ok bytes, handle, inner) =>
      (.ok bytes, { h with inner := handle, taken := h.taken + bytes.val.length },
        { w with inner, read := w.read + bytes.val.length })
    | (.error e, handle, inner) => (.error e, { h with inner := handle }, { w with inner })
  close h w := { w with inner := bs.close h.inner w.inner }

/-- Counts what is handed out by a source, and what is read in starting it. -/
def Source.gauged (src : Source (Gauged World) State) : Source (Gauged World) State where
  start s w :=
    let (r, s, w') := src.start s w
    (r, s, { w' with skipped := w'.skipped + (w'.read - w.read) })
  nextChunk s w :=
    match src.nextChunk s w with
    | (.ok chunk, s, w) => (.ok chunk, s, { w with handed := w.handed + chunk.data.length })
    | (.error e, s, w) => (.error e, s, w)
  release := src.release

theorem Source.gauged_start (src : Source (Gauged World) State) (s : State) (w : Gauged World) :
    src.gauged.start s w = ((src.start s w).1, (src.start s w).2.1,
      { (src.start s w).2.2 with
        skipped := (src.start s w).2.2.skipped + ((src.start s w).2.2.read - w.read) }) := rfl

theorem Source.gauged_nextChunk (src : Source (Gauged World) State) (s : State)
    (w : Gauged World) : src.gauged.nextChunk s w = match src.nextChunk s w with
      | (.ok chunk, s, w) => (.ok chunk, s, { w with handed := w.handed + chunk.data.length })
      | (.error e, s, w) => (.error e, s, w) := rfl

/-- Nothing was read or handed out on the way from one world to another. -/
structure Gauged.Still (w w' : Gauged World) : Prop where
  read : w'.read = w.read
  skipped : w'.skipped = w.skipped
  handed : w'.handed = w.handed

/-! ## What decryption holds back -/

namespace Decryptor

/-- Between pieces, sixteen bytes are held back at most, and one at least once there were any.
All others have come out. -/
theorem held_update {d : Decryptor} (held : d.pending.length ≤ 16) (piece : Bytes) :
    (d.update piece).2.pending.length ≤ 16 ∧
      (d.update piece).1.length + (d.update piece).2.pending.length =
        d.pending.length + piece.length ∧
      (piece ≠ [] → 1 ≤ (d.update piece).2.pending.length) := by
  rw [length_update, length_pending_update]
  unfold ready
  refine ⟨by omega, by omega, fun nonempty => ?_⟩
  have := List.length_pos_iff.2 nonempty
  omega

end Decryptor

namespace Cursor

variable {bs : BlockStore World Handle} {c c' : Cursor (GaugedHandle Handle)}
  {b b' : OpenBlock (GaugedHandle Handle)} {h : c.index < c.blocks.length} {w w' : Gauged World}
  {n : Nat}

/-! ## Opening, reading and closing -/

/-- What a read that goes well does to the gauges. -/
structure Measures (n : Nat) (b b' : OpenBlock (GaugedHandle Handle)) (w w' : Gauged World) :
    Prop where
  taken : b'.handle.taken = b.handle.taken + n
  since : b'.handle.since = b.handle.since
  read : w'.read = w.read + n
  skipped : w'.skipped = w.skipped
  handed : w'.handed = w.handed

theorem measures_readBlock {want : Nat} {piece : Bytes}
    (answer : readBlock bs.gauged b want w = (.ok piece, b', w')) :
    Measures piece.length b b' w w' := by
  unfold readBlock BlockStore.gauged at answer
  dsimp only at answer
  generalize bs.read b.handle.inner want w.inner = given at answer
  obtain ⟨f | bytes, handle, inner⟩ := given
  · cases answer
  · cases answer
    exact ⟨rfl, rfl, rfl, rfl, rfl⟩

theorem still_closeCurrent (bs : BlockStore World Handle) (c : Cursor (GaugedHandle Handle)) (w : Gauged World) :
    w.Still (c.closeCurrent bs.gauged w) := by
  unfold closeCurrent
  cases c.current with
  | none => exact ⟨rfl, rfl, rfl⟩
  | some b => exact ⟨rfl, rfl, rfl⟩

/-- A fresh block has nothing read, and the bytes before it are those handed out so far. -/
theorem openAt_gauged (answer : c.openAt bs.gauged h w = (.ok b, w')) :
    w.Still w' ∧ b.handle.taken = 0 ∧ b.handle.since = w.handed ∧
      b.decryptor = c.key.map Decryptor.start := by
  unfold openAt BlockStore.gauged at answer
  dsimp only at answer
  generalize bs.openBlock c.store c.blocks[c.index] w.inner = opened at answer
  obtain ⟨f | handle, inner⟩ := opened
  · cases answer
  · cases answer
    exact ⟨⟨rfl, rfl, rfl⟩, rfl, rfl, rfl⟩

/-! ## What flows -/

/-- The account of an open block: what was read of it, so many bytes having been handed out in
all, is what was handed out since it was opened and what its decryption holds back. -/
structure Accounts (b : OpenBlock (GaugedHandle Handle)) (d : Decryptor) (handed : Nat) : Prop where
  decryptor : b.decryptor = some d
  held : d.pending.length ≤ 16
  since : b.handle.since ≤ handed
  taken : b.handle.taken + b.handle.since = handed + d.pending.length

/-- The open block of an encrypted cursor has an account. -/
def Trails (c : Cursor (GaugedHandle Handle)) (handed : Nat) : Prop :=
  c.key.isSome → ∀ b, c.current = some b → ∃ d, Accounts b d handed

/-- What can be more in a chunk than in the buffer. -/
def surplus (c : Cursor Handle) : Nat := if c.key.isSome then 15 else 0

/-- What an operation that goes well and hands out `n` bytes does to the gauges.  The bytes are
not counted as handed out until the source has them. -/
structure Flows (n : Nat) (c : Cursor (GaugedHandle Handle)) (w : Gauged World)
    (c' : Cursor (GaugedHandle Handle)) (w' : Gauged World) : Prop where
  key : c'.key = c.key
  buffer : c'.buffer = c.buffer
  seekTo : c'.seekTo = c.seekTo
  skipped : w'.skipped = w.skipped
  handed : w'.handed = w.handed
  read : c.key = none → w'.read = w.read + n
  bounded : c.Trails w.handed → n ≤ c.buffer + c.surplus
  trails : c.Trails w.handed → c'.Trails (w.handed + n)

theorem Trails.accounts {handed : Nat} {d : Decryptor} (trails : (c.holding b h).Trails handed)
    (encrypted : c.key.isSome) (decryptor : b.decryptor = some d) : Accounts b d handed := by
  obtain ⟨d', accounts⟩ := trails encrypted b rfl
  obtain rfl : d' = d := Option.some.inj (accounts.decryptor.symm.trans decryptor)
  exact accounts

theorem not_plain (encrypted : c.key.isSome) : c.key ≠ none := by
  intro plain
  rw [plain] at encrypted
  cases encrypted

theorem trails_of_closed (closed : c.current = none) (handed : Nat) : c.Trails handed := by
  intro _ b current
  rw [closed] at current
  cases current

theorem trails_of_plain (plain : c.key = none) (handed : Nat) : c.Trails handed :=
  fun encrypted => absurd plain (not_plain encrypted)

/-- What flows after an operation that handed out nothing. -/
theorem Flows.after {c₁ : Cursor (GaugedHandle Handle)} {w₁ : Gauged World}
    (flows : Flows n c₁ w₁ c' w') (silent : Flows 0 c w c₁ w₁) : Flows n c w c' w' where
  key := flows.key.trans silent.key
  buffer := flows.buffer.trans silent.buffer
  seekTo := flows.seekTo.trans silent.seekTo
  skipped := flows.skipped.trans silent.skipped
  handed := flows.handed.trans silent.handed
  read plain := (flows.read (silent.key.trans plain)).trans (by rw [silent.read plain]; rfl)
  bounded trails := by
    have bounded := flows.bounded (by rw [silent.handed]; exact silent.trails trails)
    rwa [surplus, silent.buffer, silent.key] at bounded
  trails trails := by
    rw [← silent.handed]
    exact flows.trails (by rw [silent.handed]; exact silent.trails trails)

/-! ## Turns -/

/-- Bytes of a block that is stored as it is. -/
theorem flows_read (plain : c.key = none) {piece : Bytes}
    (taken : readBlock bs.gauged b (min c.remaining c.buffer) w = (.ok piece, b', w')) :
    Flows piece.length (c.holding b h) w (c.holding b' h) w' := by
  obtain ⟨-, -, read, skipped, handed⟩ := measures_readBlock taken
  have wanted := length_readBlock taken
  refine ⟨rfl, rfl, rfl, skipped, handed, fun _ => read, fun _ => ?_, fun _ => ?_⟩
  · exact Nat.le_add_right_of_le (wanted.trans (Nat.min_le_right ..))
  · exact trails_of_plain (c := c.holding b' h) plain _

/-- A piece of ciphertext, with more of the block to come. -/
theorem flows_decrypted (encrypted : c.key.isSome) {piece : Bytes} {d : Decryptor}
    (taken : readBlock bs.gauged b (min b.left c.buffer) w = (.ok piece, b', w'))
    (some : piece ≠ []) (decryptor : b.decryptor = .some d) :
    Flows (d.update piece).1.length (c.holding b h) w
      (c.holding { b' with decryptor := (d.update piece).2 } h) w' := by
  obtain ⟨taken', since, read, skipped, handed⟩ := measures_readBlock taken
  have wanted := length_readBlock taken
  refine ⟨rfl, rfl, rfl, skipped, handed, fun plain => absurd plain (not_plain encrypted),
    fun trails => ?_, fun trails => ?_⟩
  · have held := (trails.accounts encrypted decryptor).held
    obtain ⟨-, out, pos⟩ := Decryptor.held_update held piece
    have pos := pos some
    have surplus : (c.holding b h).surplus = 15 := if_pos encrypted
    show _ ≤ c.buffer + _
    omega
  · obtain ⟨-, held, before, balance⟩ := trails.accounts encrypted decryptor
    obtain ⟨held', out, -⟩ := Decryptor.held_update held piece
    rintro - b'' current
    cases current
    refine ⟨(d.update piece).2, rfl, held', ?_, ?_⟩
    · show b'.handle.since ≤ _
      omega
    · show b'.handle.taken + b'.handle.since = _
      omega

/-- What flows when the block is left behind. -/
theorem flows_advance (b : OpenBlock (GaugedHandle Handle)) (h : c.index < c.blocks.length)
    (b' : OpenBlock (GaugedHandle Handle)) (skipped : w'.skipped = w.skipped)
    (handed : w'.handed = w.handed) (read : c.key = none → w'.read = w.read + n)
    (bounded : (c.holding b h).Trails w.handed → n ≤ c.buffer + c.surplus) :
    Flows n (c.holding b h) w (c.advance bs.gauged b' w').1 (c.advance bs.gauged b' w').2 :=
  ⟨rfl, rfl, rfl, skipped, handed, read, bounded, fun _ => trails_of_closed rfl _⟩

/-- A block that is stored as it is, once it is exhausted. -/
theorem flows_exhausted (h : c.index < c.blocks.length) {want : Nat}
    (taken : readBlock bs.gauged b want w = (.ok [], b', w')) :
    Flows 0 (c.holding b h) w (c.advance bs.gauged b' w').1 (c.advance bs.gauged b' w').2 := by
  obtain ⟨-, -, read, skipped, handed⟩ := measures_readBlock taken
  exact flows_advance b h b' skipped handed (fun _ => read) fun _ => Nat.zero_le _

/-- The last of the ciphertext: what was held back becomes bytes, but for one at least. -/
theorem flows_finished (h : c.index < c.blocks.length) (encrypted : c.key.isSome)
    {piece last : Bytes} {d : Decryptor} (b'' : OpenBlock (GaugedHandle Handle))
    (taken : readBlock bs.gauged b (min b.left c.buffer) w = (.ok piece, b', w'))
    (decryptor : b.decryptor = some d) (ended : (d.update piece).2.finish = .ok last) :
    Flows ((d.update piece).1 ++ last).length (c.holding b h) w
      (c.advance bs.gauged b'' w').1 (c.advance bs.gauged b'' w').2 := by
  obtain ⟨-, -, -, skipped, handed⟩ := measures_readBlock taken
  have wanted := length_readBlock taken
  refine flows_advance b h b'' skipped handed (fun plain => absurd plain (not_plain encrypted))
    fun trails => ?_
  obtain ⟨kept, short⟩ := Decryptor.length_of_finish ended
  have held := (trails.accounts encrypted decryptor).held
  obtain ⟨-, out, -⟩ := Decryptor.held_update held piece
  have surplus : c.surplus = 15 := if_pos encrypted
  rw [List.length_append, surplus]
  omega

/-- The end of a block that has no ciphertext to read. -/
theorem flows_unread (b : OpenBlock (GaugedHandle Handle)) (h : c.index < c.blocks.length)
    (encrypted : c.key.isSome) {last : Bytes} {d : Decryptor} (ended : d.finish = .ok last) :
    Flows last.length (c.holding b h) w (c.advance bs.gauged b w).1 (c.advance bs.gauged b w).2 := by
  refine flows_advance b h b rfl rfl (fun plain => absurd plain (not_plain encrypted)) fun _ => ?_
  obtain ⟨-, short⟩ := Decryptor.length_of_finish ended
  have surplus : c.surplus = 15 := if_pos encrypted
  rw [surplus]
  omega

theorem flows_turnOpen {o : Option Bytes}
    (answer : turnOpen bs.gauged c b h w = (.ok o, c', w')) :
    Flows (o.getD []).length (c.holding b h) w c' w' := by
  have outcome := outcome_turnOpen bs.gauged c b h w
  generalize turnOpen bs.gauged c b h w = out at answer outcome
  cases outcome with
  | failed => cases answer
  | read plain taken =>
    cases answer
    exact flows_read plain taken
  | exhausted plain taken =>
    cases answer
    exact flows_exhausted h taken
  | decrypted encrypted taken some decryptor =>
    cases answer
    rw [getD_someBytes]
    exact flows_decrypted encrypted taken some decryptor
  | finished encrypted taken decryptor ended =>
    cases answer
    rw [getD_someBytes]
    exact flows_finished h encrypted _ taken decryptor ended
  | unread encrypted decryptor ended =>
    cases answer
    rw [getD_someBytes]
    exact flows_unread b h encrypted ended

/-- Opening the next block. -/
theorem flows_openAt (opened : c.openAt bs.gauged h w = (.ok b, w')) :
    Flows 0 c w (c.holding b h) w' := by
  obtain ⟨⟨read, skipped, handed⟩, taken, since, decryptor⟩ := openAt_gauged opened
  refine ⟨rfl, rfl, rfl, skipped, handed, fun _ => read, fun _ => Nat.zero_le _, fun _ => ?_⟩
  rintro encrypted b' current
  cases current
  obtain ⟨k, key⟩ := Option.isSome_iff_exists.1 encrypted
  have key : c.key = some k := key
  rw [key] at decryptor
  refine ⟨_, decryptor, Nat.zero_le _, Nat.le_of_eq since, ?_⟩
  rw [taken, since]
  exact Nat.zero_add _

theorem flows_turn {o : Option Bytes} (answer : c.turn bs.gauged w = (.ok o, c', w')) :
    Flows (o.getD []).length c w c' w' := by
  cases current : c.current with
  | some b =>
    have h := c.index_lt (by rw [current]; rfl)
    rw [turn_of_some current h] at answer
    have flows := flows_turnOpen answer
    rwa [holding_eq current h] at flows
  | none =>
    rw [turn_of_none current] at answer
    by_cases h : c.index < c.blocks.length
    · rw [dif_pos h] at answer
      generalize opened : c.openAt bs.gauged h w = result at answer
      obtain ⟨e | b, w₁⟩ := result
      · cases answer
      · exact (flows_turnOpen answer).after (flows_openAt opened)
    · rw [dif_neg h] at answer
      cases answer

/-! ## Chunks -/

theorem Flows.refl (c : Cursor (GaugedHandle Handle)) (w : Gauged World) : Flows 0 c w c w :=
  ⟨rfl, rfl, rfl, rfl, rfl, fun _ => rfl, fun _ => Nat.zero_le _, id⟩

theorem Flows.release (flows : Flows n c w c' w') (bs : BlockStore World Handle) :
    Flows n c w (c'.release bs.gauged w').1 (c'.release bs.gauged w').2 := by
  have still := still_closeCurrent bs c' w'
  exact ⟨flows.key, flows.buffer, flows.seekTo, still.skipped.trans flows.skipped,
    still.handed.trans flows.handed, fun plain => still.read.trans (flows.read plain),
    flows.bounded, fun _ => trails_of_closed rfl _⟩

/-- How much is still to be delivered is of no concern. -/
theorem Flows.counting (flows : Flows n c w c' w') (remaining : Nat) :
    Flows n c w { c' with remaining } w' :=
  ⟨flows.key, flows.buffer, flows.seekTo, flows.skipped, flows.handed, flows.read, flows.bounded,
    flows.trails⟩

theorem flows_nextChunk {chunk : Chunk} (answer : c.nextChunk bs.gauged w = (.ok chunk, c', w')) :
    Flows chunk.data.length c w c' w' := by
  fun_induction nextChunk bs.gauged c w with
  | case1 c w _ c₁ w₁ released =>
    have flows := (Flows.refl c w).release bs
    rw [released] at flows
    cases answer
    exact flows
  | case2 => cases answer
  | case3 c w _ c₁ w₁ taken ih => exact (ih answer).after (flows_turn taken)
  | case4 => cases answer
  | case5 c w _ data c₁ w₁ taken _ counted _ c₂ w₂ released =>
    have flows := ((flows_turn taken).counting counted.remaining).release bs
    rw [released] at flows
    cases answer
    exact flows
  | case6 c w _ data c₁ w₁ taken _ counted =>
    have flows := (flows_turn taken).counting counted.remaining
    obtain ⟨rfl, rfl, rfl⟩ : Chunk.more data = chunk ∧ counted = c' ∧ w₁ = w' := by
      simpa using answer
    exact flows

/-! ## Starts -/

/-- Looking for a byte reads nothing. -/
theorem locate_gauged (bs : BlockStore World Handle) (ref : StoreRef) (blocks : List BlockId)
    (offset i before : Nat) (w : Gauged World) :
    locate bs.gauged ref blocks offset i before w =
      ((locate bs ref blocks offset i before w.inner).1,
        { w with inner := (locate bs ref blocks offset i before w.inner).2 }) := by
  fun_induction locate bs.gauged ref blocks offset i before w with
  | case1 i before w h e w' looked =>
    rw [locate, dif_pos h]
    simp only [BlockStore.gauged, Prod.mk.injEq] at looked
    obtain ⟨answer, rfl⟩ := looked
    rw [show bs.stat ref blocks[i] w.inner = (.error e, _) from Prod.ext answer rfl]
  | case2 i before w h size w' looked found =>
    rw [locate, dif_pos h]
    simp only [BlockStore.gauged, Prod.mk.injEq] at looked
    obtain ⟨answer, rfl⟩ := looked
    rw [show bs.stat ref blocks[i] w.inner = (.ok size, _) from Prod.ext answer rfl]
    simp only [if_pos found]
  | case3 i before w h size w' looked beyond ih =>
    rw [ih]
    rw [locate.eq_def bs _ _ _ i, dif_pos h]
    simp only [BlockStore.gauged, Prod.mk.injEq] at looked
    obtain ⟨answer, rfl⟩ := looked
    rw [show bs.stat ref blocks[i] w.inner = (.ok size, _) from Prod.ext answer rfl]
    simp only [if_neg beyond]
  | case4 i before w h =>
    rw [locate, dif_neg h]

/-- Skipping that goes well reads as many bytes as there are to skip. -/
theorem measures_skipBytes {buffer offset skip : Nat}
    (answer : skipBytes bs.gauged buffer offset b skip w = (.ok (), b', w')) :
    Measures skip b b' w w' := by
  fun_induction skipBytes bs.gauged buffer offset b skip w with
  | case1 b w =>
    cases answer
    exact ⟨rfl, rfl, rfl, rfl, rfl⟩
  | case2 => cases answer
  | case3 => cases answer
  | case4 b skip w _ x more b₁ w₁ taken ih =>
    obtain ⟨taken', since, read, skipped, handed⟩ := ih answer
    have first := measures_readBlock taken
    have wanted := length_readBlock taken
    rw [List.length_cons] at wanted
    have sum : more.length + 1 + (skip - (more.length + 1)) = skip := by omega
    refine ⟨?_, since.trans first.since, ?_, skipped.trans first.skipped,
      handed.trans first.handed⟩
    · rw [taken', first.taken, List.length_cons, Nat.add_assoc, sum]
    · rw [read, first.read, List.length_cons, Nat.add_assoc, sum]

/-- The bytes before a range in the block with its first byte. -/
def lead (bs : BlockStore World Handle) {Other : Type} (c : Cursor Other) (w : World) : Nat :=
  match c.seekTo with
  | none => 0
  | some offset =>
    match locate bs c.store c.blocks offset 0 0 w with
    | (.ok (some (_, before)), _) => offset - before
    | _ => 0

/-- What a start that goes well and skips so many bytes does to the gauges. -/
structure Begins (skip : Nat) (c : Cursor (GaugedHandle Handle)) (w : Gauged World)
    (c' : Cursor (GaugedHandle Handle)) (w' : Gauged World) : Prop where
  key : c'.key = c.key
  buffer : c'.buffer = c.buffer
  seekTo : c'.seekTo = none
  read : w'.read = w.read + skip
  skipped : w'.skipped = w.skipped
  handed : w'.handed = w.handed
  /-- A cursor that has nothing to position is left as it is. -/
  same : c.seekTo = none → c' = c

theorem begins_position {offset : Nat} (seekTo : c.seekTo = some offset)
    (answer : position bs.gauged { c with seekTo := none } offset w = (.ok (), c', w')) :
    Begins (c.lead bs w.inner) c w c' w' := by
  unfold position at answer
  rw [locate_gauged] at answer
  rw [lead, seekTo]
  dsimp only at answer ⊢
  generalize locate bs c.store c.blocks offset 0 0 w.inner = located at answer ⊢
  obtain ⟨e | _ | ⟨i, before⟩, inner⟩ := located
  · cases answer
  · cases answer
  · let c₁ : Cursor (GaugedHandle Handle) :=
      { c with seekTo := none, index := i.val, index_lt := fun _ => i.isLt }
    dsimp only at answer ⊢
    generalize opened : c₁.openAt bs.gauged i.isLt { w with inner } = result at answer
    obtain ⟨e | b, w₁⟩ := result
    · cases answer
    · obtain ⟨⟨read, skipped, handed⟩, -⟩ := openAt_gauged opened
      dsimp only at answer
      have still := still_closeCurrent bs c₁ w₁
      generalize went : skipBytes bs.gauged c.buffer offset b (offset - before)
        (c₁.closeCurrent bs.gauged w₁) = result at answer
      obtain ⟨r, b', w₃⟩ := result
      cases answer
      have measures := measures_skipBytes went
      refine ⟨rfl, rfl, rfl, ?_, ?_, ?_, fun none => ?_⟩
      · rw [measures.read, still.read, read]
      · rw [measures.skipped, still.skipped, skipped]
      · rw [measures.handed, still.handed, handed]
      · rw [seekTo] at none
        cases none

/-- A start that goes well reads what comes before the range in its block, and no more. -/
theorem begins_begin (answer : c.begin bs.gauged w = (.ok (), c', w')) :
    Begins (c.lead bs w.inner) c w c' w' := by
  unfold begin at answer
  cases seekTo : c.seekTo with
  | some offset =>
    rw [seekTo] at answer
    exact begins_position seekTo answer
  | none =>
    rw [seekTo] at answer
    cases answer
    rw [lead, seekTo]
    exact ⟨rfl, rfl, seekTo, rfl, rfl, rfl, fun _ => rfl⟩

/-! ## Calls in any order -/

theorem Fresh.aimed {c : Cursor Handle} (fresh : c.Fresh) : c.key.isSome → c.seekTo = none := by
  cases fresh with
  | wholeFile => exact fun _ => rfl
  | range => exact fun encrypted => by cases encrypted
  | singleBlock => exact fun _ => rfl

/-- What holds after calls that all went well, to a cursor that was `c₀` before them. -/
structure Paces (c₀ c : Cursor (GaugedHandle Handle)) (calls : List Call) (w : Gauged World) :
    Prop where
  key : c.key = c₀.key
  buffer : c.buffer = c₀.buffer
  /-- A cursor that decrypts has nothing to position. -/
  aimed : c.key.isSome → c.seekTo = none
  handed : w.handed = (Chunk.join (Session.pulled calls)).length
  read : c₀.key = none → w.read = w.skipped + w.handed
  bounded : ∀ chunk ∈ Session.pulled calls, chunk.data.length ≤ c₀.buffer + c₀.surplus
  trails : c.Trails w.handed

variable {c₀ : Cursor (GaugedHandle Handle)} {calls : List Call}

theorem Fresh.paces (fresh : c.Fresh) (w : World) : Paces c c [] ⟨w, 0, 0, 0⟩ where
  key := rfl
  buffer := rfl
  aimed := fresh.aimed
  handed := rfl
  read _ := rfl
  bounded _ mem := absurd mem List.not_mem_nil
  trails := trails_of_closed fresh.current 0

theorem Paces.start {skip : Nat} (paces : Paces c₀ c calls w) (begins : Begins skip c w c' w') :
    Paces c₀ c' (calls ++ [.start (.ok ())])
      { w' with skipped := w'.skipped + (w'.read - w.read) } where
  key := begins.key.trans paces.key
  buffer := begins.buffer.trans paces.buffer
  aimed _ := begins.seekTo
  handed := by
    rw [Session.pulled_silent calls _ rfl]
    exact begins.handed.trans paces.handed
  read plain := by
    have before := paces.read plain
    have read := begins.read
    have skipped := begins.skipped
    have handed := begins.handed
    show w'.read = w'.skipped + (w'.read - w.read) + w'.handed
    omega
  bounded chunk mem := by
    rw [Session.pulled_silent calls _ rfl] at mem
    exact paces.bounded chunk mem
  trails := by
    show c'.Trails w'.handed
    rw [begins.handed]
    cases key : c.key with
    | none => exact trails_of_plain (begins.key.trans key) _
    | some k =>
      rw [begins.same (paces.aimed (by rw [key]; rfl))]
      exact paces.trails

theorem Paces.chunk {chunk : Chunk} (paces : Paces c₀ c calls w)
    (flows : Flows chunk.data.length c w c' w') :
    Paces c₀ c' (calls ++ [.nextChunk (.ok chunk)])
      { w' with handed := w'.handed + chunk.data.length } where
  key := flows.key.trans paces.key
  buffer := flows.buffer.trans paces.buffer
  aimed encrypted := flows.seekTo.trans (paces.aimed (by rwa [flows.key] at encrypted))
  handed := by
    rw [Session.pulled_append]
    show w'.handed + _ = (Chunk.join (_ ++ [chunk])).length
    rw [Chunk.length_join_concat, flows.handed, paces.handed]
  read plain := by
    have before := paces.read plain
    have read := flows.read (paces.key.trans plain)
    have skipped := flows.skipped
    have handed := flows.handed
    show w'.read = w'.skipped + (w'.handed + chunk.data.length)
    omega
  bounded chunk' mem := by
    rw [Session.pulled_append] at mem
    rcases List.mem_append.1 mem with mem | mem
    · exact paces.bounded chunk' mem
    · obtain rfl : chunk' = chunk := List.mem_singleton.1 mem
      have bounded := flows.bounded paces.trails
      rwa [surplus, paces.key, paces.buffer] at bounded
  trails := by
    show c'.Trails (w'.handed + chunk.data.length)
    rw [flows.handed]
    exact flows.trails paces.trails

theorem Paces.release (paces : Paces c₀ c calls w) (bs : BlockStore World Handle) :
    Paces c₀ (c.release bs.gauged w).1 (calls ++ [.release]) (c.release bs.gauged w).2 := by
  have still := still_closeCurrent bs c w
  have pulled := Session.pulled_silent calls .release rfl
  refine ⟨paces.key, paces.buffer, paces.aimed, ?_, fun plain => ?_, ?_, trails_of_closed rfl _⟩
  · rw [pulled]
    exact still.handed.trans paces.handed
  · show (c.closeCurrent bs.gauged w).read = _ + (c.closeCurrent bs.gauged w).handed
    rw [still.read, still.handed, paces.read plain]
    exact congrArg (· + w.handed) still.skipped.symm
  · rw [pulled]
    exact paces.bounded

theorem paces_start (bs : BlockStore World Handle)
    (paces : Session.failures calls = [] → Paces c₀ c calls w) :
    let (r, c', w') := (source bs.gauged).gauged.start c w
    Session.failures (calls ++ [.start r]) = [] → Paces c₀ c' (calls ++ [.start r]) w' := by
  rw [Source.gauged_start]
  generalize answer : (source bs.gauged).start c w = out
  intro well
  rw [Session.failures_append, Session.failures_singleton, List.append_eq_nil_iff] at well
  obtain ⟨before, now⟩ := well
  obtain ⟨e | _, c', w'⟩ := out
  · cases now
  · exact (paces before).start (begins_begin answer)

theorem paces_nextChunk (bs : BlockStore World Handle)
    (paces : Session.failures calls = [] → Paces c₀ c calls w) :
    let (r, c', w') := (source bs.gauged).gauged.nextChunk c w
    Session.failures (calls ++ [.nextChunk r]) = [] → Paces c₀ c' (calls ++ [.nextChunk r]) w' := by
  rw [Source.gauged_nextChunk]
  generalize answer : (source bs.gauged).nextChunk c w = out
  obtain ⟨e | chunk, c', w'⟩ := out
  · intro well
    rw [Session.failures_append, Session.failures_singleton, List.append_eq_nil_iff] at well
    cases well.2
  · intro well
    rw [Session.failures_append, List.append_eq_nil_iff] at well
    exact (paces well.1).chunk (flows_nextChunk answer)

theorem paces_release (bs : BlockStore World Handle)
    (paces : Session.failures calls = [] → Paces c₀ c calls w) :
    Session.failures (calls ++ [.release]) = [] →
      Paces c₀ (c.release bs.gauged w).1 (calls ++ [.release]) (c.release bs.gauged w).2 := by
  intro well
  rw [Session.failures_append, List.append_eq_nil_iff] at well
  exact (paces well.1).release bs

/-- Any calls, as long as none of them fails. -/
theorem Paces.perform (bs : BlockStore World Handle) (asks : List Ask)
    (paces : Session.failures calls = [] → Paces c₀ c calls w) :
    let (c', j) := (source bs.gauged).gauged.journaled.perform asks c ⟨w, calls⟩
    Session.failures j.calls = [] → Paces c₀ c' j.calls j.world := by
  induction asks generalizing c calls w with
  | nil => exact paces
  | cons ask asks ih =>
    cases ask with
    | start => exact ih (paces_start bs paces)
    | nextChunk => exact ih (paces_nextChunk bs paces)
    | release => exact ih (paces_release bs paces)

/-- How far a cursor is ahead that was `c₀` before the calls in the journal. -/
structure Paced (c₀ c : Cursor (GaugedHandle Handle)) (j : Journal (Gauged World)) : Prop where
  /-- What was handed out is what the chunks hold. -/
  handed : j.world.handed = (Chunk.join (Session.pulled j.calls)).length
  /-- Without a key, what was read is what was skipped and what was handed out. -/
  read : c₀.key = none → j.world.read = j.world.skipped + j.world.handed
  /-- A chunk is no longer than the buffer, or with a key by fifteen bytes at most. -/
  bounded : ∀ chunk ∈ Session.pulled j.calls,
    chunk.data.length ≤ c₀.buffer + if c₀.key.isSome then 15 else 0
  /-- With a key, no more than sixteen bytes were read of the open block beyond what was handed
  out since it was opened. -/
  ahead : c₀.key.isSome → ∀ b, c.current = some b → b.handle.since ≤ j.world.handed ∧
    b.handle.taken ≤ j.world.handed - b.handle.since + 16

theorem Paces.paced {j : Journal (Gauged World)} (paces : Paces c₀ c j.calls j.world) :
    Paced c₀ c j where
  handed := paces.handed
  read := paces.read
  bounded := paces.bounded
  ahead encrypted b current := by
    obtain ⟨d, -, held, since, taken⟩ := paces.trails (by rw [paces.key]; exact encrypted) b current
    exact ⟨since, by omega⟩

/-- Nothing is read ahead, whatever the store answers and in whatever order the cursor is used,
as long as no call fails.

* A start reads what comes before the range in the block with its first byte, and no more.
* Apart from that, a cursor has read what it handed out, or of a block that it decrypts sixteen
  bytes more. -/
theorem no_read_ahead (bs : BlockStore World Handle) {c₀ : Cursor (GaugedHandle Handle)}
    (fresh : c₀.Fresh) (asks : List Ask) (w : World) :
    (∀ (c c' : Cursor (GaugedHandle Handle)) (w w' : Gauged World),
      (source bs.gauged).gauged.start c w = (.ok (), c', w') →
        w'.read = w.read + c.lead bs w.inner ∧ w'.skipped = w.skipped + c.lead bs w.inner) ∧
    let (c, j) := (source bs.gauged).gauged.journaled.perform asks c₀ ⟨⟨w, 0, 0, 0⟩, []⟩
    Session.failures j.calls = [] → Paced c₀ c j := by
  refine ⟨fun c c' w w' started => ?_, fun well => ?_⟩
  · rw [Source.gauged_start] at started
    generalize answer : (source bs.gauged).start c w = out at started
    obtain ⟨r, c₁, w₁⟩ := out
    cases started
    have begins := begins_begin answer
    refine ⟨begins.read, ?_⟩
    show w₁.skipped + (w₁.read - w.read) = _
    rw [begins.skipped, begins.read, Nat.add_sub_cancel_left]
  · exact (Paces.perform bs asks (fun _ => fresh.paces w) well).paced

/-- A range that begins with the second byte of a block, which is read one byte at a time. -/
theorem no_read_ahead_of_slowPair :
    let c₀ : Cursor (GaugedHandle (FaultedHandle MemoryHandle)) :=
      .range SlowPair.ref ⟨5, [SlowPair.one, SlowPair.two]⟩ ⟨1, 3⟩ 2
    let asks : List Ask := [.start, .nextChunk, .nextChunk]
    let (c, j) := (source SlowPair.store.gauged).gauged.journaled.perform asks c₀
      ⟨⟨SlowPair.world [1, 2, 3] [4, 5], 0, 0, 0⟩, []⟩
    (Session.failures j.calls = [] ∧ j.world.skipped = 1 ∧ j.world.handed = 2) ∧
      Paced c₀ c j := by
  intro c₀ asks
  have fresh : c₀.Fresh := .range ..
  have counts :
      let (_, j) := (source SlowPair.store.gauged).gauged.journaled.perform asks c₀
        ⟨⟨SlowPair.world [1, 2, 3] [4, 5], 0, 0, 0⟩, []⟩
      Session.failures j.calls = [] ∧ j.world.skipped = 1 ∧ j.world.handed = 2 := by
    cbv
  exact ⟨counts, (no_read_ahead SlowPair.store fresh asks _).2 counts.1⟩

end Cursor

end StreamGate
