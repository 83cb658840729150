import StreamGate.Proofs.Storage.Matching
import StreamGate.Transfer.Cursor
import StreamGate.Transfer.Session

/-!
# Cursors side by side

Two cursors on two stores that answer alike (`BlockStore.Matches`) do the same thing.
Of what is left after a failure nothing is said: a transfer does not go on after its
first error.

* `Cursor.Beside`: two cursors that stand at the same place.
* `Cursor.Beside.turn`, `Cursor.Beside.nextChunk`, `Cursor.Beside.begin`: what one
  does, the other does.
* `Source.Matches`: the same for any two sources.
* `Session.Beside.step`: a step of a session on the one is a step of a session on the
  other.
-/

namespace StreamGate

variable {World World' Handle Handle' : Type}

/-! ## Blocks -/

/-- Two blocks that were read as far as each other. -/
structure OpenBlock.Beside (handle : Handle → Handle' → Prop) (b : OpenBlock Handle)
    (b' : OpenBlock Handle') : Prop where
  handle : handle b.handle b'.handle
  left : b.left = b'.left
  decryptor : b.decryptor = b'.decryptor

namespace Cursor

/-- Two cursors that stand at the same place among blocks with the given ids, in
related worlds. -/
structure Beside (ref : StoreRef) (ids : List BlockId) (world : World → World' → Prop)
    (handle : Handle → Handle' → Prop) (s : Cursor Handle × World) (t : Cursor Handle' × World') :
    Prop where
  store : s.1.store = ref ∧ t.1.store = ref
  known : s.1.blocks ⊆ ids
  blocks : s.1.blocks = t.1.blocks
  index : s.1.index = t.1.index
  current : Option.Rel (OpenBlock.Beside handle) s.1.current t.1.current
  total : s.1.total = t.1.total
  remaining : s.1.remaining = t.1.remaining
  seekTo : s.1.seekTo = t.1.seekTo
  key : s.1.key = t.1.key
  buffer : s.1.buffer = t.1.buffer
  world : world s.2 t.2

variable {bs : BlockStore World Handle} {bs' : BlockStore World' Handle'} {ref : StoreRef}
  {ids : List BlockId} {world : World → World' → Prop} {handle : Handle → Handle' → Prop}
  {c : Cursor Handle} {c' : Cursor Handle'} {b : OpenBlock Handle} {b' : OpenBlock Handle'}
  {w v : World} {w' v' : World'}

/-- Two cursors that were just made for the same transfer. -/
theorem Beside.start {blocks : List BlockId} (known : blocks ⊆ ids) (worlds : world w w')
    (total buffer : Nat) (seekTo : Option Nat) (key : Option CipherKey) :
    Beside ref ids world handle
      ({ Cursor.start ref blocks total buffer with seekTo, key }, w)
      ({ Cursor.start ref blocks total buffer with seekTo, key }, w') where
  store := ⟨rfl, rfl⟩
  known := known
  blocks := rfl
  index := rfl
  current := .none
  total := rfl
  remaining := rfl
  seekTo := rfl
  key := rfl
  buffer := rfl
  world := worlds

/-- The cursors with a block open in each. -/
theorem Beside.holding (beside : Beside ref ids world handle (c, w) (c', w'))
    (block : b.Beside handle b') (after : world v v') (h : c.index < c.blocks.length)
    (h' : c'.index < c'.blocks.length) :
    Beside ref ids world handle (c.holding b h, v) (c'.holding b' h', v') :=
  { beside with current := .some block, world := after }

/-- The cursors with no block open. -/
theorem Beside.bare (beside : Beside ref ids world handle (c, w) (c', w')) (after : world v v') :
    Beside ref ids world handle (c.bare, v) (c'.bare, v') :=
  { beside with current := .none, world := after }

/-! ## Opening, reading and closing -/

theorem openAt_alike (alike : bs.Matches bs' ref ids world handle)
    (beside : Beside ref ids world handle (c, w) (c', w'))
    (h : c.index < c.blocks.length) (h' : c'.index < c'.blocks.length) :
    Alike (OpenBlock.Beside handle) world (c.openAt bs h w) (c'.openAt bs' h' w') := by
  have same : c'.blocks[c'.index] = c.blocks[c.index] := by
    have blocks : c.blocks = c'.blocks := beside.blocks
    have index : c.index = c'.index := beside.index
    simp only [blocks, index]
  have opened := alike.openBlock (beside.known (List.getElem_mem h)) beside.world
  have key : c.key = c'.key := beside.key
  have store : c.store = ref ∧ c'.store = ref := beside.store
  unfold openAt
  rw [same, store.1, store.2, ← key]
  generalize bs.openBlock ref c.blocks[c.index] w = out at opened ⊢
  generalize bs'.openBlock ref c.blocks[c.index] w' = out' at opened ⊢
  cases opened with
  | ok handles after => exact .ok ⟨handles.1, handles.2, rfl⟩ after
  | error e => exact .error (TransferError.block e)

theorem readBlock_alike (alike : bs.Matches bs' ref ids world handle)
    (block : b.Beside handle b') (worlds : world w w') (want : Nat) :
    Alike Eq (fun s t => s.1.Beside handle t.1 ∧ world s.2 t.2) (readBlock bs b want w)
      (readBlock bs' b' want w') := by
  have read := alike.read want block.handle worlds
  unfold readBlock
  generalize bs.read b.handle want w = out at read ⊢
  generalize bs'.read b'.handle want w' = out' at read ⊢
  cases read with
  | ok bytes after =>
    cases bytes
    refine .ok rfl ⟨⟨after.1, ?_, block.decryptor⟩, after.2⟩
    rw [block.left]
  | error e => exact .error (TransferError.block e)

theorem Beside.closeCurrent (alike : bs.Matches bs' ref ids world handle)
    (beside : Beside ref ids world handle (c, w) (c', w')) (worlds : world v v') :
    world (c.closeCurrent bs v) (c'.closeCurrent bs' v') := by
  have current : Option.Rel (OpenBlock.Beside handle) c.current c'.current := beside.current
  unfold Cursor.closeCurrent
  generalize c.current = open₁ at current ⊢
  generalize c'.current = open₂ at current ⊢
  cases current with
  | none => exact worlds
  | some block => exact alike.close block.handle worlds

theorem Beside.release (alike : bs.Matches bs' ref ids world handle)
    (beside : Beside ref ids world handle (c, w) (c', w')) :
    Beside ref ids world handle (c.release bs w) (c'.release bs' w') :=
  beside.bare (beside.closeCurrent alike beside.world)

theorem Beside.advance (alike : bs.Matches bs' ref ids world handle)
    (beside : Beside ref ids world handle (c, w) (c', w')) (block : b.Beside handle b')
    (worlds : world v v') :
    Beside ref ids world handle (c.advance bs b v) (c'.advance bs' b' v') :=
  { beside with
    index := congrArg (· + 1) beside.index
    current := .none
    world := alike.close block.handle worlds }

/-! ## Turns -/

theorem Beside.turnPlain (alike : bs.Matches bs' ref ids world handle)
    (beside : Beside ref ids world handle (c, w) (c', w')) (block : b.Beside handle b')
    (worlds : world v v') (h : c.index < c.blocks.length) (h' : c'.index < c'.blocks.length) :
    Alike Eq (Beside ref ids world handle) (turnPlain bs c b h v) (turnPlain bs' c' b' h' v') := by
  have want : min c'.remaining c'.buffer = min c.remaining c.buffer := by
    have remaining : c.remaining = c'.remaining := beside.remaining
    have buffer : c.buffer = c'.buffer := beside.buffer
    rw [remaining, buffer]
  have read := readBlock_alike alike block worlds (min c.remaining c.buffer)
  unfold Cursor.turnPlain
  rw [want]
  generalize readBlock bs b (min c.remaining c.buffer) v = out at read ⊢
  generalize readBlock bs' b' (min c.remaining c.buffer) v' = out' at read ⊢
  cases read with
  | error e => exact .error e
  | @ok bytes _ _ _ same after =>
    cases same
    cases bytes with
    | nil => exact .ok rfl (beside.advance alike after.1 after.2)
    | cons x more => exact .ok rfl (beside.holding after.1 after.2 h h')

theorem Beside.finishBlock (alike : bs.Matches bs' ref ids world handle)
    (beside : Beside ref ids world handle (c, w) (c', w')) (block : b.Beside handle b')
    (worlds : world v v') (h : c.index < c.blocks.length) (h' : c'.index < c'.blocks.length)
    (plain : Bytes) :
    Alike Eq (Beside ref ids world handle) (finishBlock bs c b h plain v)
      (finishBlock bs' c' b' h' plain v') := by
  unfold Cursor.finishBlock
  rw [← block.left, ← block.decryptor]
  split
  · split
    · exact .error _
    · split
      · exact .error _
      · exact .ok rfl (beside.advance alike block worlds)
  · exact .ok rfl (beside.holding block worlds h h')

theorem Beside.turnEncrypted (alike : bs.Matches bs' ref ids world handle)
    (beside : Beside ref ids world handle (c, w) (c', w')) (block : b.Beside handle b')
    (worlds : world v v') (h : c.index < c.blocks.length) (h' : c'.index < c'.blocks.length) :
    Alike Eq (Beside ref ids world handle) (turnEncrypted bs c b h v)
      (turnEncrypted bs' c' b' h' v') := by
  have want : min b'.left c'.buffer = min b.left c.buffer := by
    have buffer : c.buffer = c'.buffer := beside.buffer
    rw [block.left, buffer]
  have read := readBlock_alike alike block worlds (min b.left c.buffer)
  unfold Cursor.turnEncrypted
  rw [want, ← block.left]
  split
  · exact Alike.map (beside.finishBlock alike block worlds h h' []) someBytes
  · generalize readBlock bs b (min b.left c.buffer) v = out at read ⊢
    generalize readBlock bs' b' (min b.left c.buffer) v' = out' at read ⊢
    cases read with
    | error e => exact .error e
    | @ok bytes _ s t same after =>
      cases same
      obtain ⟨b₁, v₁⟩ := s
      obtain ⟨b₂, v₂⟩ := t
      obtain ⟨blocks, after⟩ := after
      cases bytes with
      | nil =>
        have missing : c.remaining = c'.remaining := beside.remaining
        dsimp only
        rw [← missing]
        exact .error _
      | cons x more =>
        unfold decryptPiece
        dsimp only at blocks ⊢
        rw [← blocks.decryptor]
        cases b₁.decryptor with
        | none => exact .error _
        | some d =>
          have decrypted : OpenBlock.Beside handle
              { b₁ with decryptor := some (d.update (x :: more)).2 }
              { b₂ with decryptor := some (d.update (x :: more)).2 } :=
            ⟨blocks.handle, blocks.left, rfl⟩
          exact Alike.map (beside.finishBlock alike decrypted after h h' _) someBytes

theorem Beside.turnOpen (alike : bs.Matches bs' ref ids world handle)
    (beside : Beside ref ids world handle (c, w) (c', w')) (block : b.Beside handle b')
    (worlds : world v v') (h : c.index < c.blocks.length) (h' : c'.index < c'.blocks.length) :
    Alike Eq (Beside ref ids world handle) (turnOpen bs c b h v) (turnOpen bs' c' b' h' v') := by
  have key : c.key = c'.key := beside.key
  unfold Cursor.turnOpen
  rw [← key]
  split
  · exact beside.turnEncrypted alike block worlds h h'
  · exact beside.turnPlain alike block worlds h h'

/-- A turn of the one is a turn of the other. -/
theorem Beside.turn (alike : bs.Matches bs' ref ids world handle)
    (beside : Beside ref ids world handle (c, w) (c', w')) :
    Alike Eq (Beside ref ids world handle) (c.turn bs w) (c'.turn bs' w') := by
  have current : Option.Rel (OpenBlock.Beside handle) c.current c'.current := beside.current
  have bound : c'.index < c'.blocks.length ↔ c.index < c.blocks.length := by
    have blocks : c.blocks = c'.blocks := beside.blocks
    have index : c.index = c'.index := beside.index
    rw [blocks, index]
  cases open₁ : c.current with
  | some b =>
    cases open₂ : c'.current with
    | none =>
      rw [open₁, open₂] at current
      cases current
    | some b' =>
      have h := c.index_lt (by rw [open₁]; rfl)
      have h' := bound.2 h
      rw [open₁, open₂] at current
      cases current with
      | some block =>
        rw [turn_of_some open₁ h, turn_of_some open₂ h']
        exact beside.turnOpen alike block beside.world h h'
  | none =>
    cases open₂ : c'.current with
    | some b' =>
      rw [open₁, open₂] at current
      cases current
    | none =>
      rw [turn_of_none open₁, turn_of_none open₂]
      by_cases h : c.index < c.blocks.length
      · have h' := bound.2 h
        have opened := openAt_alike alike beside h h'
        rw [dif_pos h, dif_pos h']
        generalize c.openAt bs h w = out at opened ⊢
        generalize c'.openAt bs' h' w' = out' at opened ⊢
        cases opened with
        | error e => exact .error e
        | ok block after => exact beside.turnOpen alike block after h h'
      · have missing : c.remaining = c'.remaining := beside.remaining
        rw [dif_neg h, dif_neg (mt bound.1 h), ← missing]
        exact .error _

/-! ## Chunks -/

/-- The cursors with other counts. -/
theorem Beside.counting (beside : Beside ref ids world handle (c, w) (c', w')) (remaining : Nat) :
    Beside ref ids world handle ({ c with remaining }, w) ({ c' with remaining }, w') :=
  { beside with remaining := rfl }

/-- A chunk of the one is a chunk of the other. -/
theorem Beside.nextChunk (alike : bs.Matches bs' ref ids world handle) {c : Cursor Handle}
    {c' : Cursor Handle'} {w : World} {w' : World'}
    (beside : Beside ref ids world handle (c, w) (c', w')) :
    Alike Eq (Beside ref ids world handle) (c.nextChunk bs w) (c'.nextChunk bs' w') := by
  have start : c.remaining = c'.remaining := beside.remaining
  rw [nextChunk_eq bs, nextChunk_eq bs', ← start]
  by_cases spent : c.remaining = 0
  · rw [if_pos spent, if_pos spent]
    exact .ok rfl (beside.release alike)
  · have turned := beside.turn alike
    rw [if_neg spent, if_neg spent]
    generalize taken : c.turn bs w = out at turned ⊢
    generalize c'.turn bs' w' = out' at turned ⊢
    cases turned with
    | error e => exact .error e
    | @ok data _ s t same after =>
      cases same
      obtain ⟨c₁, w₁⟩ := s
      obtain ⟨c₂, w₂⟩ := t
      have remaining : c₁.remaining = c₂.remaining := after.remaining
      have total : c₁.total = c₂.total := after.total
      cases data with
      | none => exact after.nextChunk alike
      | some data =>
        dsimp only
        rw [← remaining]
        split
        · rw [total]
          exact .error _
        · split
          · exact .ok rfl ((after.counting _).release alike)
          · exact .ok rfl (after.counting _)
termination_by c.progress
decreasing_by exact progress_turn taken

/-! ## Positioning -/

theorem locate_alike (alike : bs.Matches bs' ref ids world handle) {blocks : List BlockId}
    (known : blocks ⊆ ids) (worlds : world w w') (offset i before : Nat) :
    Alike Eq world (locate bs ref blocks offset i before w)
      (locate bs' ref blocks offset i before w') := by
  induction i, before, w using locate.induct bs ref blocks offset generalizing w' with
  | case1 i before w h e w₁ looked =>
    have stat := alike.stat (known (List.getElem_mem h)) worlds
    rw [locate, locate, dif_pos h, dif_pos h]
    rw [looked] at stat ⊢
    generalize bs'.stat ref blocks[i] w' = out at stat ⊢
    cases stat with
    | error => exact .error e
  | case2 i before w h size w₁ looked found =>
    have stat := alike.stat (known (List.getElem_mem h)) worlds
    rw [locate, locate, dif_pos h, dif_pos h]
    rw [looked] at stat ⊢
    generalize bs'.stat ref blocks[i] w' = out at stat ⊢
    cases stat with
    | ok same after =>
      cases same
      dsimp only
      rw [if_pos found, if_pos found]
      exact .ok rfl after
  | case3 i before w h size w₁ looked beyond ih =>
    have stat := alike.stat (known (List.getElem_mem h)) worlds
    rw [locate, locate, dif_pos h, dif_pos h]
    rw [looked] at stat ⊢
    generalize bs'.stat ref blocks[i] w' = out at stat ⊢
    cases stat with
    | ok same after =>
      cases same
      dsimp only
      rw [if_neg beyond, if_neg beyond]
      exact ih after
  | case4 i before w h =>
    rw [locate, locate, dif_neg h, dif_neg h]
    exact .ok rfl worlds

theorem skipBytes_alike (alike : bs.Matches bs' ref ids world handle)
    (block : b.Beside handle b') (worlds : world w w') (buffer offset skip : Nat) :
    Alike Eq (fun s t => s.1.Beside handle t.1 ∧ world s.2 t.2)
      (skipBytes bs buffer offset b skip w) (skipBytes bs' buffer offset b' skip w') := by
  induction b, skip, w using skipBytes.induct bs buffer generalizing b' w' with
  | case1 b w =>
    rw [skipBytes, skipBytes, if_pos rfl, if_pos rfl]
    exact .ok rfl ⟨block, worlds⟩
  | case2 b skip w more e b₁ w₁ taken =>
    have read := readBlock_alike alike block worlds (min skip buffer)
    rw [skipBytes, skipBytes, if_neg more, if_neg more]
    rw [taken] at read ⊢
    generalize readBlock bs' b' (min skip buffer) w' = out at read ⊢
    cases read with
    | error => exact .error e
  | case3 b skip w more b₁ w₁ taken =>
    have read := readBlock_alike alike block worlds (min skip buffer)
    rw [skipBytes, skipBytes, if_neg more, if_neg more]
    rw [taken] at read ⊢
    generalize readBlock bs' b' (min skip buffer) w' = out at read ⊢
    cases read with
    | ok same after =>
      cases same
      exact .error _
  | case4 b skip w more x rest b₁ w₁ taken ih =>
    have read := readBlock_alike alike block worlds (min skip buffer)
    rw [skipBytes, skipBytes, if_neg more, if_neg more]
    rw [taken] at read ⊢
    generalize readBlock bs' b' (min skip buffer) w' = out at read ⊢
    cases read with
    | ok same after =>
      cases same
      exact ih after.1 after.2

/-- Skipping what comes before a range, in two blocks that were just opened. -/
theorem Beside.skipTo (alike : bs.Matches bs' ref ids world handle)
    (beside : Beside ref ids world handle (c, w) (c', w')) (block : b.Beside handle b')
    (worlds : world v v') (h : c.index < c.blocks.length) (h' : c'.index < c'.blocks.length)
    (offset skip : Nat) :
    let (r, b, w) := skipBytes bs c.buffer offset b skip (c.closeCurrent bs v)
    let (r', b', w') := skipBytes bs' c'.buffer offset b' skip (c'.closeCurrent bs' v')
    Alike Eq (Beside ref ids world handle) (r, c.holding b h, w) (r', c'.holding b' h', w') := by
  have buffer : c.buffer = c'.buffer := beside.buffer
  have closed := beside.closeCurrent alike worlds
  have skipped := skipBytes_alike alike block closed c.buffer offset skip
  rw [← buffer]
  generalize skipBytes bs c.buffer offset b skip (c.closeCurrent bs v) = out at skipped ⊢
  generalize skipBytes bs' c.buffer offset b' skip (c'.closeCurrent bs' v') = out' at skipped ⊢
  cases skipped with
  | error e => exact .error e
  | ok same after => exact .ok same (beside.holding after.1 after.2 h h')

theorem Beside.position (alike : bs.Matches bs' ref ids world handle)
    (beside : Beside ref ids world handle (c, w) (c', w')) (offset : Nat) :
    Alike Eq (Beside ref ids world handle) (c.position bs offset w)
      (c'.position bs' offset w') := by
  have located := locate_alike alike beside.known beside.world offset 0 0
  have store : c.store = ref ∧ c'.store = ref := beside.store
  have blocks : c.blocks = c'.blocks := beside.blocks
  unfold Cursor.position
  obtain ⟨store', blocks', index', current', total', remaining', seekTo', key', buffer', _, _⟩ := c'
  dsimp only at store blocks ⊢
  obtain ⟨rfl, same⟩ := store
  subst same
  subst blocks
  generalize locate bs c.store c.blocks offset 0 0 w = out at located ⊢
  generalize locate bs' c.store c.blocks offset 0 0 w' = out' at located ⊢
  cases located with
  | error e => exact .error (TransferError.block e)
  | @ok place _ w₁ w₁' same after =>
    cases same
    cases place with
    | none => exact .error _
    | some place =>
      obtain ⟨i, before⟩ := place
      have placed : Beside c.store ids world handle
          ({ c with index := i.val, index_lt := fun _ => i.isLt }, w₁)
          (⟨c.store, c.blocks, i.val, current', total', remaining', seekTo', key', buffer', ‹_›,
            fun _ => i.isLt⟩, w₁') := { beside with index := rfl, world := after }
      have opened := openAt_alike alike placed i.isLt i.isLt
      dsimp only at opened ⊢
      generalize openAt bs _ _ w₁ = out at opened ⊢
      generalize openAt bs' _ _ w₁' = out' at opened ⊢
      cases opened with
      | error e => exact .error e
      | ok block after =>
        exact placed.skipTo alike block after i.isLt i.isLt offset (offset - before)

/-- A start of the one is a start of the other. -/
theorem Beside.begin (alike : bs.Matches bs' ref ids world handle)
    (beside : Beside ref ids world handle (c, w) (c', w')) :
    Alike Eq (Beside ref ids world handle) (c.begin bs w) (c'.begin bs' w') := by
  have seekTo : c.seekTo = c'.seekTo := beside.seekTo
  unfold Cursor.begin
  rw [← seekTo]
  split
  · exact .ok rfl beside
  · refine Beside.position alike ?_ _
    exact { beside with seekTo := rfl }

end Cursor

/-! ## Sources -/

/-- Two sources do the same thing in related states. -/
structure Source.Matches {State State' : Type} (src : Source World State)
    (src' : Source World' State') (rel : State × World → State' × World' → Prop) : Prop where
  start : ∀ {s t}, rel s t → Alike Eq rel (src.start s.1 s.2) (src'.start t.1 t.2)
  nextChunk : ∀ {s t}, rel s t → Alike Eq rel (src.nextChunk s.1 s.2) (src'.nextChunk t.1 t.2)

/-! ## Sessions -/

namespace Session

variable {State State' : Type} {src : Source World State} {src' : Source World' State'}
  {rel : State × World → State' × World' → Prop} {s : Session State} {t : Session State'}
  {w : World} {w' : World'}

/-- Two sessions that have come as far as each other.  Of sources that were released
nothing is said. -/
structure Beside (rel : State × World → State' × World' → Prop) (a : Session State × World)
    (b : Session State' × World') : Prop where
  phase : a.1.phase = b.1.phase
  contentLength : a.1.contentLength = b.1.contentLength
  sent : a.1.sent = b.1.sent
  source : a.1.phase.isFinal = false → rel (a.1.source, a.2) (b.1.source, b.2)

/-- Two steps with the same result.  If that is bytes, there can be further steps. -/
def InStep (rel : State × World → State' × World' → Prop)
    (out : Option (Except TransferError Bytes) × Session State × World)
    (out' : Option (Except TransferError Bytes) × Session State' × World') : Prop :=
  out.1 = out'.1 ∧ ∀ data, out.1 = some (.ok data) → Beside rel out.2 out'.2

theorem inStep_fail (host : Host World) (host' : Host World') (e : TransferError) :
    InStep rel (s.fail src host e w) (t.fail src' host' e w') := by
  refine ⟨rfl, fun data failed => ?_⟩
  cases failed

theorem inStep_pull (alike : src.Matches src' rel) (host : Host World) (host' : Host World')
    (beside : Beside rel (s, w) (t, w')) (running : s.phase.isFinal = false) :
    InStep rel (s.pull src host w) (t.pull src' host' w') := by
  have contentLength : s.contentLength = t.contentLength := beside.contentLength
  have sent : s.sent = t.sent := beside.sent
  have chunks : Alike Eq rel (src.nextChunk s.source w) (src'.nextChunk t.source w') :=
    alike.nextChunk (beside.source running)
  unfold pull
  generalize src.nextChunk s.source w = out at chunks ⊢
  generalize src'.nextChunk t.source w' = out' at chunks ⊢
  cases chunks with
  | error e => exact inStep_fail host host' e
  | ok same after =>
    cases same
    dsimp only
    rw [← contentLength, ← sent]
    split
    · exact inStep_fail host host' _
    · split
      · split
        · exact inStep_fail host host' _
        · exact ⟨rfl, fun _ _ => ⟨rfl, rfl, rfl, fun more => by cases more⟩⟩
      · exact ⟨rfl, fun _ _ => ⟨beside.phase, rfl, rfl, fun _ => after⟩⟩

/-- A step of the one is a step of the other. -/
theorem Beside.step (alike : src.Matches src' rel) (host : Host World) (host' : Host World')
    (beside : Beside rel (s, w) (t, w')) :
    InStep rel (s.step src host w) (t.step src' host' w') := by
  have phase : s.phase = t.phase := beside.phase
  unfold Session.step
  rw [← phase]
  cases now : s.phase with
  | completed | aborted => exact ⟨rfl, fun data none => by cases none⟩
  | streaming => exact inStep_pull alike host host' beside (by rw [now]; rfl)
  | headerSent =>
    have started : Alike Eq rel (src.start s.source w) (src'.start t.source w') := by
      refine alike.start (beside.source ?_)
      show s.phase.isFinal = false
      rw [now]
      rfl
    dsimp only
    generalize src.start s.source w = out at started ⊢
    generalize src'.start t.source w' = out' at started ⊢
    cases started with
    | error e => exact inStep_fail host host' e
    | @ok _ _ a b _ after =>
      obtain ⟨source, v⟩ := a
      obtain ⟨source', v'⟩ := b
      have going : Beside rel ({ s with source, phase := .streaming }, v)
          ({ t with source := source', phase := .streaming }, v') :=
        ⟨rfl, beside.contentLength, beside.sent, fun _ => after⟩
      exact inStep_pull alike host host' going rfl

end Session

end StreamGate
