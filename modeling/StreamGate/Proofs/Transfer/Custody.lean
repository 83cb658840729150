import StreamGate.Proofs.Storage.Serving
import StreamGate.Proofs.Transfer.Accounting
import StreamGate.Proofs.Transfer.Countdown
import StreamGate.Proofs.Transfer.Feed

/-!
# The handles of a cursor

A cursor holds at most one handle, and closes every handle that it opened exactly
once, whatever the store answers and in whatever order the cursor is used.

Handles are numbered as they are opened, and a ledger lists the numbers that were
closed: `BlockStore.audited`.  The numbers that were given out are those that were
closed and those that are held, each once: `Ledger.Holds`.

* `Cursor.Kept`: what every operation of a cursor keeps.  Besides the ledger, this
  is the decryption of the open block, which an encrypted cursor has as long as
  nothing has failed.
* `TransferError.Stems`: where an error can come from before anything else has
  failed.  The want of a decryption is not among the causes.
* `Cursor.handles_balanced`: the balance after any calls.
-/

namespace StreamGate

variable {World Handle : Type}

/-! ## Handles on record -/

/-- A handle with the number that it was given when it was opened. -/
structure Numbered (Handle : Type) where
  number : Nat
  handle : Handle

/-- Which handles were opened and which were closed. -/
structure Ledger where
  /-- How many were opened; their numbers are those below. -/
  opened : Nat := 0
  /-- The numbers of those that were closed, in this order. -/
  closed : List Nat := []

/-- A world with a ledger beside it. -/
structure Audited (World : Type) where
  inner : World
  ledger : Ledger := {}

/-- Numbers the handles of a store and keeps a ledger of them. -/
def BlockStore.audited (bs : BlockStore World Handle) :
    BlockStore (Audited World) (Numbered Handle) where
  stat ref id w :=
    let (r, inner) := bs.stat ref id w.inner
    (r, { w with inner })
  openBlock ref id w :=
    match bs.openBlock ref id w.inner with
    | (.ok handle, inner) =>
      (.ok ⟨w.ledger.opened, handle⟩, ⟨inner, { w.ledger with opened := w.ledger.opened + 1 }⟩)
    | (.error e, inner) => (.error e, { w with inner })
  size h := bs.size h.handle
  read h want w :=
    let (r, handle, inner) := bs.read h.handle want w.inner
    (r, { h with handle }, { w with inner })
  close h w :=
    ⟨bs.close h.handle w.inner, { w.ledger with closed := w.ledger.closed ++ [h.number] }⟩

theorem BlockStore.audited_read (bs : BlockStore World Handle) (h : Numbered Handle) (want : Nat)
    (w : Audited World) :
    bs.audited.read h want w =
      ((bs.read h.handle want w.inner).1, { h with handle := (bs.read h.handle want w.inner).2.1 },
        { w with inner := (bs.read h.handle want w.inner).2.2 }) := rfl

namespace Ledger

/-- The numbers that were given out are those that are held and those that were
closed, each once. -/
def Holds (l : Ledger) (held : List Nat) : Prop :=
  (held ++ l.closed).Perm (List.range l.opened)

/-- Whatever was opened was closed once. -/
structure Settled (l : Ledger) : Prop where
  balance : l.opened = l.closed.length
  once : l.closed.Nodup

theorem holds_empty : ({} : Ledger).Holds [] := List.Perm.refl _

variable {l : Ledger} {held : List Nat}

theorem Holds.opens (holds : l.Holds held) :
    ({ l with opened := l.opened + 1 } : Ledger).Holds (l.opened :: held) := by
  show ((l.opened :: held) ++ l.closed).Perm (List.range (l.opened + 1))
  rw [List.range_succ, List.cons_append]
  exact (holds.cons l.opened).trans (List.perm_append_singleton l.opened _).symm

theorem Holds.closes (held : List Nat) {n : Nat} (holds : l.Holds (held ++ [n])) :
    ({ l with closed := l.closed ++ [n] } : Ledger).Holds held := by
  show (held ++ (l.closed ++ [n])).Perm (List.range l.opened)
  have same : (held ++ (l.closed ++ [n])).Perm (held ++ [n] ++ l.closed) := by
    rw [List.append_assoc held [n]]
    exact List.perm_append_comm.append_left held
  exact same.trans holds

/-- So many were opened as were closed and are held. -/
theorem Holds.opened_eq (holds : l.Holds held) : l.opened = l.closed.length + held.length := by
  have sizes := holds.length_eq
  rw [List.length_append, List.length_range] at sizes
  omega

theorem Holds.nodup (holds : l.Holds held) : (held ++ l.closed).Nodup :=
  holds.nodup_iff.2 List.nodup_range

/-- No handle is closed twice. -/
theorem Holds.nodup_closed (holds : l.Holds held) : l.closed.Nodup :=
  (List.nodup_append.1 holds.nodup).2.1

/-- Once nothing is held, whatever was opened was closed. -/
theorem Holds.settled (holds : l.Holds []) : l.Settled := ⟨holds.opened_eq, holds.nodup_closed⟩

/-- What is held was opened and not closed. -/
theorem Holds.of_mem (holds : l.Holds held) {n : Nat} (mem : n ∈ held) :
    n < l.opened ∧ n ∉ l.closed := by
  refine ⟨List.mem_range.1 (holds.subset (List.mem_append_left _ mem)), fun closed => ?_⟩
  exact (List.nodup_append.1 holds.nodup).2.2 n mem n closed rfl

end Ledger

/-! ## Where errors come from -/

/-- Some call of the store can answer with this failure. -/
inductive BlockStore.FailsWith (bs : BlockStore World Handle) (f : Failure) : Prop
  | stat {ref : StoreRef} {id : BlockId} {w w' : World}
      (answer : bs.stat ref id w = (.error f, w')) : FailsWith bs f
  | openBlock {ref : StoreRef} {id : BlockId} {w w' : World}
      (answer : bs.openBlock ref id w = (.error f, w')) : FailsWith bs f
  | read {h h' : Handle} {want : Nat} {w w' : World}
      (answer : bs.read h want w = (.error f, h', w')) : FailsWith bs f

/-- The causes of an error: a failed call of the store, ciphertext that does not
decrypt, or a count that does not come out. -/
inductive TransferError.Stems (bs : BlockStore World Handle) : TransferError → Prop
  | store {f : Failure} (fails : bs.FailsWith f) : Stems bs (.block f)
  | ciphertext (detail : String) : Stems bs (.block (.decryption detail))
  | truncated (missing : Nat) : Stems bs (.truncated missing)
  | overrun (expected : Nat) : Stems bs (.overrun expected)
  | rangeOutsideBlocks (offset : Nat) : Stems bs (.rangeOutsideBlocks offset)

theorem Decryptor.eq_decryption_of_finish {d : Decryptor} {e : Failure}
    (failed : d.finish = .error e) : ∃ detail, e = .decryption detail := by
  unfold finish at failed
  split at failed
  · dsimp only at failed
    split at failed <;> cases failed
    exact ⟨_, rfl⟩
  · cases failed
    exact ⟨_, rfl⟩

namespace Cursor

variable {bs : BlockStore World Handle} {α : Type}

/-! ## What an operation keeps -/

/-- The numbers of the handles that a cursor holds. -/
def held (c : Cursor (Numbered Handle)) : List Nat :=
  (c.current.map fun b => b.handle.number).toList

/-- The open block of an encrypted cursor has its decryption. -/
def Armed (c : Cursor Handle) : Prop :=
  c.key.isSome → ∀ b, c.current = some b → b.decryptor.isSome

/-- An operation that began with the cursor `c` keeps the ledger right, and as long
as the cursor is armed, it stays so or fails for a cause. -/
structure Kept (bs : BlockStore World Handle) (c : Cursor (Numbered Handle))
    (out : Except TransferError α × Cursor (Numbered Handle) × Audited World) : Prop where
  holds : out.2.2.ledger.Holds out.2.1.held
  blocks : out.2.1.blocks = c.blocks
  key : out.2.1.key = c.key
  armed : c.Armed → match out.1 with
    | .ok _ => out.2.1.Armed
    | .error e => e.Stems bs

/-- What was kept from a later cursor on was kept from an earlier one on. -/
theorem Kept.of {c c₀ : Cursor (Numbered Handle)}
    {out : Except TransferError α × Cursor (Numbered Handle) × Audited World} (kept : Kept bs c out)
    (blocks : c.blocks = c₀.blocks) (key : c.key = c₀.key) (armed : c₀.Armed → c.Armed) :
    Kept bs c₀ out :=
  ⟨kept.holds, kept.blocks.trans blocks, kept.key.trans key, fun h => kept.armed (armed h)⟩

/-- What comes of an operation does not matter as long as it goes well. -/
theorem Kept.map {β : Type} {c c' : Cursor (Numbered Handle)} {w : Audited World}
    {r : Except TransferError α} (kept : Kept bs c (r, c', w)) (f : α → β) :
    Kept bs c (r.map f, c', w) := by
  refine ⟨kept.holds, kept.blocks, kept.key, fun armed => ?_⟩
  have well := kept.armed armed
  cases r with
  | error e => exact well
  | ok a => exact well

theorem armed_holding {c : Cursor Handle} {b b' : OpenBlock Handle} {h : c.index < c.blocks.length}
    (armed : (c.holding b h).Armed) (decryptor : b.decryptor.isSome → b'.decryptor.isSome) :
    (c.holding b' h).Armed := by
  intro encrypted b'' current
  cases current
  exact decryptor (armed encrypted b rfl)

/-- An operation that keeps the block open. -/
theorem Kept.holding {c : Cursor (Numbered Handle)} {b b' : OpenBlock (Numbered Handle)}
    {h : c.index < c.blocks.length} {w : Audited World} {r : Except TransferError α}
    (holds : w.ledger.Holds [b'.handle.number])
    (armed : (c.holding b h).Armed → match r with
      | .ok _ => (c.holding b' h).Armed
      | .error e => e.Stems bs) :
    Kept bs (c.holding b h) (r, c.holding b' h, w) :=
  ⟨holds, rfl, rfl, armed⟩

/-! ## Opening, reading and closing -/

/-- What opening the next block comes to; a block that is open stays open. -/
theorem openAt_audited (bs : BlockStore World Handle) (c : Cursor (Numbered Handle))
    (h : c.index < c.blocks.length) {w : Audited World} {held : List Nat}
    (holds : w.ledger.Holds held) :
    match c.openAt bs.audited h w with
    | (.ok b, w') =>
      w'.ledger.Holds (b.handle.number :: held) ∧ (c.key.isSome → b.decryptor.isSome)
    | (.error e, w') => w'.ledger.Holds held ∧ e.Stems bs := by
  unfold openAt BlockStore.audited
  dsimp only
  generalize answer : bs.openBlock c.store c.blocks[c.index] w.inner = opened
  obtain ⟨f | handle, inner⟩ := opened
  · exact ⟨holds, .store (.openBlock answer)⟩
  · exact ⟨holds.opens, fun encrypted => by simpa using encrypted⟩

/-- A read changes neither the number of the handle nor the ledger. -/
theorem readBlock_audited (bs : BlockStore World Handle) (b : OpenBlock (Numbered Handle))
    (want : Nat) (w : Audited World) :
    match readBlock bs.audited b want w with
    | (r, b', w') =>
      b'.handle.number = b.handle.number ∧ b'.decryptor = b.decryptor ∧ w'.ledger = w.ledger ∧
        ∀ e, r = .error e → e.Stems bs := by
  unfold readBlock
  rw [BlockStore.audited_read]
  generalize answer : bs.read b.handle.handle want w.inner = given
  obtain ⟨f | bytes, handle, inner⟩ := given
  · refine ⟨rfl, rfl, rfl, fun e failed => ?_⟩
    cases failed
    exact .store (.read answer)
  · refine ⟨rfl, rfl, rfl, fun e failed => ?_⟩
    cases failed

theorem holds_closeCurrent {c : Cursor (Numbered Handle)} {w : Audited World} (held : List Nat)
    (holds : w.ledger.Holds (held ++ c.held)) :
    (c.closeCurrent bs.audited w).ledger.Holds held := by
  unfold closeCurrent
  unfold Cursor.held at holds
  cases current : c.current with
  | none =>
    rw [current] at holds
    simpa using holds
  | some b =>
    rw [current] at holds
    exact Ledger.Holds.closes held holds

theorem kept_advance (c : Cursor (Numbered Handle)) {b b' : OpenBlock (Numbered Handle)}
    (h : c.index < c.blocks.length) {w : Audited World}
    (holds : w.ledger.Holds [b'.handle.number]) (a : α) :
    Kept bs (c.holding b h)
      (.ok a, (c.advance bs.audited b' w).1, (c.advance bs.audited b' w).2) := by
  refine ⟨Ledger.Holds.closes [] holds, rfl, rfl, fun _ => ?_⟩
  intro _ b'' current
  cases current

/-! ## Turns -/

theorem kept_turnPlain (c : Cursor (Numbered Handle)) (b : OpenBlock (Numbered Handle))
    (h : c.index < c.blocks.length) {w : Audited World}
    (holds : w.ledger.Holds [b.handle.number]) :
    Kept bs (c.holding b h) (turnPlain bs.audited c b h w) := by
  have read := readBlock_audited bs b (min c.remaining c.buffer) w
  unfold turnPlain
  generalize readBlock bs.audited b (min c.remaining c.buffer) w = answer at read ⊢
  obtain ⟨r, b', w'⟩ := answer
  obtain ⟨number, decryptor, ledger, stems⟩ := read
  rw [← number, ← ledger] at holds
  match r with
  | .error e => exact Kept.holding holds fun _ => stems e rfl
  | .ok [] => exact kept_advance c h holds none
  | .ok (x :: more) =>
    exact Kept.holding holds fun armed => armed_holding armed fun some => decryptor ▸ some

theorem kept_finishBlock (c : Cursor (Numbered Handle)) (b : OpenBlock (Numbered Handle))
    (h : c.index < c.blocks.length) (plain : Bytes) {w : Audited World}
    (holds : w.ledger.Holds [b.handle.number]) (encrypted : c.key.isSome) :
    Kept bs (c.holding b h) (finishBlock bs.audited c b h plain w) := by
  unfold finishBlock
  split
  · split
    · rename_i missing
      refine Kept.holding holds fun armed => ?_
      have present := armed encrypted b rfl
      rw [missing] at present
      cases present
    · rename_i d _
      split
      · rename_i e failed
        refine Kept.holding holds fun _ => ?_
        obtain ⟨detail, rfl⟩ := d.eq_decryption_of_finish failed
        exact .ciphertext detail
      · exact kept_advance c h holds _
  · exact Kept.holding holds fun armed => armed

theorem kept_turnEncrypted (c : Cursor (Numbered Handle)) (b : OpenBlock (Numbered Handle))
    (h : c.index < c.blocks.length) {w : Audited World}
    (holds : w.ledger.Holds [b.handle.number]) (encrypted : c.key.isSome) :
    Kept bs (c.holding b h) (turnEncrypted bs.audited c b h w) := by
  unfold turnEncrypted
  split
  · exact (kept_finishBlock c b h [] holds encrypted).map someBytes
  · have read := readBlock_audited bs b (min b.left c.buffer) w
    generalize readBlock bs.audited b (min b.left c.buffer) w = answer at read ⊢
    obtain ⟨r, b', w'⟩ := answer
    obtain ⟨number, decryptor, ledger, stems⟩ := read
    rw [← number, ← ledger] at holds
    cases r with
    | error e => exact Kept.holding holds fun _ => stems e rfl
    | ok bytes =>
      cases bytes with
      | nil => exact Kept.holding holds fun _ => .truncated c.remaining
      | cons x more =>
        unfold decryptPiece
        dsimp only
        cases present : b'.decryptor with
        | none =>
          refine Kept.holding holds fun armed => ?_
          have some := armed encrypted b rfl
          rw [← decryptor, present] at some
          cases some
        | some d =>
          let b'' : OpenBlock (Numbered Handle) :=
            { b' with decryptor := (d.update (x :: more)).2 }
          refine ((kept_finishBlock c b'' h (d.update (x :: more)).1 holds encrypted).map
            someBytes).of rfl rfl fun armed => ?_
          exact armed_holding armed fun _ => rfl

theorem kept_turnOpen (c : Cursor (Numbered Handle)) (b : OpenBlock (Numbered Handle))
    (h : c.index < c.blocks.length) {w : Audited World}
    (holds : w.ledger.Holds [b.handle.number]) :
    Kept bs (c.holding b h) (turnOpen bs.audited c b h w) := by
  unfold turnOpen
  split
  · exact kept_turnEncrypted c b h holds ‹_›
  · exact kept_turnPlain c b h holds

theorem kept_turn (bs : BlockStore World Handle) (c : Cursor (Numbered Handle)) {w : Audited World}
    (holds : w.ledger.Holds c.held) : Kept bs c (c.turn bs.audited w) := by
  unfold turn
  split
  · rename_i b current
    have hlt := c.index_lt (by simp [current])
    have kept : Kept bs (c.holding b hlt) (turnOpen bs.audited c b hlt w) := by
      refine kept_turnOpen c b hlt ?_
      unfold held at holds
      rwa [current] at holds
    rwa [holding_eq current hlt] at kept
  · rename_i current
    have free : c.held = [] := by simp [held, current]
    split
    · rename_i h
      have opened := openAt_audited bs c h holds
      generalize c.openAt bs.audited h w = answer at opened ⊢
      obtain ⟨e | b, w'⟩ := answer
      · exact ⟨opened.1, rfl, rfl, fun _ => opened.2⟩
      · rw [free] at opened
        refine (kept_turnOpen c b h opened.1).of rfl rfl fun _ => ?_
        intro encrypted b' current'
        cases current'
        exact opened.2 encrypted
    · exact ⟨holds, rfl, rfl, fun _ => .truncated c.remaining⟩

/-! ## Chunks, starts and releases -/

/-- Releasing a cursor leaves it with no handle. -/
theorem kept_release (bs : BlockStore World Handle) (c : Cursor (Numbered Handle))
    {w : Audited World} (holds : w.ledger.Holds c.held) (a : α) :
    Kept bs c (.ok a, (c.release bs.audited w).1, (c.release bs.audited w).2) := by
  refine ⟨holds_closeCurrent [] holds, rfl, rfl, fun _ => ?_⟩
  intro _ b current
  cases current

theorem kept_nextChunk (c : Cursor (Numbered Handle)) {w : Audited World}
    (holds : w.ledger.Holds c.held) : Kept bs c (c.nextChunk bs.audited w) := by
  fun_induction nextChunk bs.audited c w with
  | case1 c w _ c' w' released =>
    have kept := kept_release bs c holds (Chunk.last [])
    rwa [released] at kept
  | case2 c w _ e c' w' taken =>
    have kept := kept_turn bs c holds
    rw [taken] at kept
    exact ⟨kept.holds, kept.blocks, kept.key, kept.armed⟩
  | case3 c w _ c' w' taken ih =>
    have kept := kept_turn bs c holds
    rw [taken] at kept
    exact (ih kept.holds).of kept.blocks kept.key kept.armed
  | case4 c w _ data c' w' taken =>
    have kept := kept_turn bs c holds
    rw [taken] at kept
    exact ⟨kept.holds, kept.blocks, kept.key, fun _ => .overrun _⟩
  | case5 c w _ data c' w' taken _ counted _ c'' w'' released =>
    have kept := kept_turn bs c holds
    rw [taken] at kept
    have kept' := kept_release bs counted kept.holds (Chunk.last data)
    rw [released] at kept'
    exact kept'.of kept.blocks kept.key kept.armed
  | case6 c w _ data c' w' taken =>
    have kept := kept_turn bs c holds
    rw [taken] at kept
    exact ⟨kept.holds, kept.blocks, kept.key, kept.armed⟩

/-- Looking for a byte opens nothing. -/
theorem locate_audited (bs : BlockStore World Handle) (ref : StoreRef) (blocks : List BlockId)
    (offset i before : Nat) (w : Audited World) :
    match locate bs.audited ref blocks offset i before w with
    | (r, w') => w'.ledger = w.ledger ∧ ∀ f, r = .error f → bs.FailsWith f := by
  fun_induction locate bs.audited ref blocks offset i before w with
  | case1 i before w h e w' looked =>
    simp only [BlockStore.audited, Prod.mk.injEq] at looked
    refine ⟨looked.2 ▸ rfl, fun f failed => ?_⟩
    cases failed
    exact .stat (Prod.ext looked.1 rfl)
  | case2 i before w h size w' looked found =>
    simp only [BlockStore.audited, Prod.mk.injEq] at looked
    exact ⟨looked.2 ▸ rfl, fun f failed => by cases failed⟩
  | case3 i before w h size w' looked beyond ih =>
    simp only [BlockStore.audited, Prod.mk.injEq] at looked
    obtain ⟨-, rfl⟩ := looked
    exact ih
  | case4 => exact ⟨rfl, fun f failed => by cases failed⟩

/-- Nor does skipping. -/
theorem skipBytes_audited (bs : BlockStore World Handle) (buffer offset : Nat)
    (b : OpenBlock (Numbered Handle)) (skip : Nat) (w : Audited World) :
    match skipBytes bs.audited buffer offset b skip w with
    | (r, b', w') =>
      b'.handle.number = b.handle.number ∧ b'.decryptor = b.decryptor ∧ w'.ledger = w.ledger ∧
        ∀ e, r = .error e → e.Stems bs := by
  fun_induction skipBytes bs.audited buffer offset b skip w with
  | case1 => exact ⟨rfl, rfl, rfl, fun e failed => by cases failed⟩
  | case2 b skip w _ e b' w' taken =>
    have read := readBlock_audited bs b (min skip buffer) w
    rw [taken] at read
    refine ⟨read.1, read.2.1, read.2.2.1, fun e' failed => ?_⟩
    cases failed
    exact read.2.2.2 e rfl
  | case3 b skip w _ b' w' taken =>
    have read := readBlock_audited bs b (min skip buffer) w
    rw [taken] at read
    refine ⟨read.1, read.2.1, read.2.2.1, fun e failed => ?_⟩
    cases failed
    exact .rangeOutsideBlocks offset
  | case4 b skip w _ x more b' w' taken ih =>
    have read := readBlock_audited bs b (min skip buffer) w
    rw [taken] at read
    obtain ⟨number, decryptor, ledger, stems⟩ := ih
    exact ⟨number.trans read.1, decryptor.trans read.2.1, ledger.trans read.2.2.1, stems⟩

/-- Skipping what comes before the range keeps a block that was just opened. -/
theorem kept_skipTo (c : Cursor (Numbered Handle)) (h : c.index < c.blocks.length)
    (offset skip : Nat) {b : OpenBlock (Numbered Handle)} {w : Audited World}
    (holds : w.ledger.Holds (b.handle.number :: c.held))
    (equipped : c.key.isSome → b.decryptor.isSome) :
    let (r, b', w') := skipBytes bs.audited c.buffer offset b skip (c.closeCurrent bs.audited w)
    Kept bs c (r, c.holding b' h, w') := by
  have closed : (c.closeCurrent bs.audited w).ledger.Holds [b.handle.number] :=
    holds_closeCurrent [b.handle.number] holds
  have skipped := skipBytes_audited bs c.buffer offset b skip (c.closeCurrent bs.audited w)
  generalize skipBytes bs.audited c.buffer offset b skip (c.closeCurrent bs.audited w) = answer
    at skipped ⊢
  obtain ⟨r, b', w'⟩ := answer
  obtain ⟨number, decryptor, ledger, stems⟩ := skipped
  rw [← number, ← ledger] at closed
  refine ⟨closed, rfl, rfl, fun _ => ?_⟩
  match r with
  | .error e => exact stems e rfl
  | .ok () =>
    intro encrypted b'' current
    cases current
    rw [decryptor]
    exact equipped encrypted

theorem kept_position (c : Cursor (Numbered Handle)) (offset : Nat) {w : Audited World}
    (holds : w.ledger.Holds c.held) : Kept bs c (c.position bs.audited offset w) := by
  have located := locate_audited bs c.store c.blocks offset 0 0 w
  unfold position
  generalize locate bs.audited c.store c.blocks offset 0 0 w = answer at located ⊢
  obtain ⟨r, w₁⟩ := answer
  obtain ⟨ledger, fails⟩ := located
  rw [← ledger] at holds
  match r with
  | .error f => exact ⟨holds, rfl, rfl, fun _ => .store (fails f rfl)⟩
  | .ok none => exact ⟨holds, rfl, rfl, fun _ => .rangeOutsideBlocks offset⟩
  | .ok (some (i, before)) =>
    have opened := openAt_audited bs { c with index := i.val, index_lt := fun _ => i.isLt } i.isLt
      holds
    dsimp only
    split
    · rename_i answer
      rw [answer] at opened
      exact ⟨opened.1, rfl, rfl, fun _ => opened.2⟩
    · rename_i b w₂ answer
      rw [answer] at opened
      exact (kept_skipTo { c with index := i.val, index_lt := fun _ => i.isLt } i.isLt offset
        (offset - before) opened.1 opened.2).of rfl rfl id

theorem kept_begin (c : Cursor (Numbered Handle)) {w : Audited World}
    (holds : w.ledger.Holds c.held) : Kept bs c (c.begin bs.audited w) := by
  unfold begin
  split
  · exact ⟨holds, rfl, rfl, id⟩
  · exact (kept_position { c with seekTo := none } _ holds).of rfl rfl id

end Cursor

/-! ## Calls in any order -/

/-- A call that a source can be asked for. -/
inductive Ask where
  | start
  | nextChunk
  | release
deriving DecidableEq, Repr

/-- Makes calls to a source, one after another. -/
def Source.perform {State : Type} (src : Source World State) :
    List Ask → State → World → State × World
  | [], s, w => (s, w)
  | .start :: asks, s, w =>
    let (_, s, w) := src.start s w
    src.perform asks s w
  | .nextChunk :: asks, s, w =>
    let (_, s, w) := src.nextChunk s w
    src.perform asks s w
  | .release :: asks, s, w =>
    let (s, w) := src.release s w
    src.perform asks s w

/-- The error that a call was answered with. -/
def Call.error? : Call → Option TransferError
  | start (.error e) => some e
  | nextChunk (.error e) => some e
  | _ => none

/-- The errors that were answered, in order. -/
def Session.failures (calls : List Call) : List TransferError := calls.filterMap Call.error?

@[simp] theorem Session.failures_append (calls more : List Call) :
    failures (calls ++ more) = failures calls ++ failures more :=
  List.filterMap_append

@[simp] theorem Session.failures_singleton (call : Call) :
    failures [call] = call.error?.toList := by
  cases h : call.error? <;> simp [failures, h]

namespace Cursor

variable {bs : BlockStore World Handle} {α : Type}

/-- A cursor that was just made, for one of the three kinds of transfer. -/
inductive Fresh : Cursor Handle → Prop
  | wholeFile (ref : StoreRef) (manifest : Manifest) (key : Option CipherKey) (buffer : Nat) :
      Fresh (.wholeFile ref manifest key buffer)
  | range (ref : StoreRef) (manifest : Manifest) (range : ByteRange) (buffer : Nat) :
      Fresh (.range ref manifest range buffer)
  | singleBlock (ref : StoreRef) (id : BlockId) (size buffer : Nat) :
      Fresh (.singleBlock ref id size buffer)

theorem Fresh.current {c : Cursor Handle} (fresh : c.Fresh) : c.current = none := by
  cases fresh <;> rfl

theorem Fresh.remaining {c : Cursor Handle} (fresh : c.Fresh) : c.remaining = c.total := by
  cases fresh <;> rfl

/-- What holds after any calls to a cursor that was `c₀` before them. -/
structure Running (bs : BlockStore World Handle) (c₀ : Cursor (Numbered Handle))
    (calls : List Call) (c : Cursor (Numbered Handle)) (w : Audited World) : Prop where
  holds : w.ledger.Holds c.held
  blocks : c.blocks = c₀.blocks
  key : c.key = c₀.key
  /-- As long as nothing has failed, what was delivered and what is still to be
  delivered make up the transfer. -/
  going : Session.failures calls = [] →
    c.Armed ∧ (Chunk.join (Session.pulled calls)).length + c.remaining = c₀.total
  /-- The first failure has a cause. -/
  first : ∀ e, (Session.failures calls).head? = some e → e.Stems bs

theorem Fresh.running (bs : BlockStore World Handle) {c : Cursor (Numbered Handle)}
    (fresh : c.Fresh) (w : World) : Running bs c [] c ⟨w, {}⟩ where
  holds := by
    rw [held, fresh.current]
    exact Ledger.holds_empty
  blocks := rfl
  key := rfl
  going _ := by
    refine ⟨fun _ b current => ?_, ?_⟩
    · rw [fresh.current] at current
      cases current
    · rw [fresh.remaining]
      exact Nat.zero_add _
  first e none := by cases none

/-- One more call. -/
theorem Running.call {c₀ c : Cursor (Numbered Handle)} {calls : List Call} {w : Audited World}
    {out : Except TransferError α × Cursor (Numbered Handle) × Audited World}
    (running : Running bs c₀ calls c w) (kept : Kept bs c out) (call : Call)
    (error : call.error? = match out.1 with
      | .ok _ => none
      | .error e => some e)
    (counted : ∀ a, out.1 = .ok a →
      (Chunk.join (Session.pulled [call])).length + out.2.1.remaining = c.remaining) :
    Running bs c₀ (calls ++ [call]) out.2.1 out.2.2 where
  holds := kept.holds
  blocks := kept.blocks.trans running.blocks
  key := kept.key.trans running.key
  going := by
    rw [Session.failures_append, Session.failures_singleton, error, List.append_eq_nil_iff]
    rintro ⟨sofar, now⟩
    obtain ⟨armed, sum⟩ := running.going sofar
    have well := kept.armed armed
    cases answer : out.1 with
    | error e =>
      rw [answer] at now
      cases now
    | ok a =>
      rw [answer] at well
      have piece := counted a answer
      have joined : Chunk.join (Session.pulled (calls ++ [call])) =
          Chunk.join (Session.pulled calls) ++ Chunk.join (Session.pulled [call]) := by
        rw [Session.pulled_append, Chunk.join, List.flatMap_append]
        rfl
      refine ⟨well, ?_⟩
      rw [joined, List.length_append]
      omega
  first e := by
    rw [Session.failures_append, Session.failures_singleton, error]
    cases sofar : Session.failures calls with
    | cons e' more =>
      intro head
      exact running.first e (by rwa [sofar])
    | nil =>
      have well := kept.armed (running.going sofar).1
      cases answer : out.1 with
      | ok a =>
        intro head
        cases head
      | error e' =>
        rw [answer] at well
        intro head
        cases head
        exact well

/-- Any calls. -/
theorem Running.perform {c₀ c : Cursor (Numbered Handle)} {calls : List Call} {w : Audited World}
    (running : Running bs c₀ calls c w) (asks : List Ask) :
    let (c', j) := (source bs.audited).journaled.perform asks c ⟨w, calls⟩
    Running bs c₀ j.calls c' j.world := by
  induction asks generalizing c calls w with
  | nil => exact running
  | cons ask asks ih =>
    cases ask with
    | start =>
      refine ih (running.call (kept_begin c running.holds) (.start (c.begin bs.audited w).1) ?_ ?_)
      · cases (c.begin bs.audited w).1 <;> rfl
      · intro a answer
        have counted : (c.begin bs.audited w).2.1.remaining = c.remaining := remaining_begin c w
        rw [counted, answer]
        exact Nat.zero_add _
    | nextChunk =>
      refine ih (running.call (kept_nextChunk c running.holds)
        (.nextChunk (c.nextChunk bs.audited w).1) ?_ ?_)
      · cases (c.nextChunk bs.audited w).1 <;> rfl
      · intro chunk answer
        have down : (source bs.audited).CountsDown remaining := countsDown
        have counted := down.chunk (s := c) (w := w) answer
        have pulled : Session.pulled [.nextChunk (c.nextChunk bs.audited w).1] = [chunk] := by
          rw [answer]
          rfl
        rw [pulled, Chunk.join, List.flatMap_singleton]
        exact counted.1
    | release =>
      refine ih (running.call (kept_release bs c running.holds ()) .release rfl fun _ _ => ?_)
      exact Nat.zero_add _

/-! ## The balance -/

/-- How the handles of a cursor stand that was `c₀` before the calls in the journal. -/
structure Balance (bs : BlockStore World Handle) (c₀ c : Cursor (Numbered Handle))
    (j : Journal (Audited World)) : Prop where
  /-- Whatever was opened was closed, but for the handle that the cursor holds. -/
  balance : j.world.ledger.opened =
    j.world.ledger.closed.length + if c.current.isSome then 1 else 0
  once : j.world.ledger.closed.Nodup
  /-- The handle that the cursor holds was opened and not closed. -/
  live : ∀ b, c.current = some b →
    b.handle.number < j.world.ledger.opened ∧ b.handle.number ∉ j.world.ledger.closed
  index : c.current.isSome → c.index < c₀.blocks.length
  /-- As long as nothing has failed, the count is right and an encrypted cursor has
  a decryption exactly when it holds a handle. -/
  going : Session.failures j.calls = [] →
    c.remaining = c₀.total - (Chunk.join (Session.pulled j.calls)).length ∧
      (Chunk.join (Session.pulled j.calls)).length ≤ c₀.total ∧
      (c₀.key.isSome → (c.current.bind OpenBlock.decryptor).isSome = c.current.isSome)
  /-- The first failure is one of the store, of the ciphertext or of a count. -/
  first : ∀ e, (Session.failures j.calls).head? = some e → e.Stems bs
  /-- The want of a decryption is only reported first if the store reports it. -/
  decryption : (Session.failures j.calls).head? =
    some (.block (.internal "no decrypt context for current block")) →
      bs.FailsWith (.internal "no decrypt context for current block")

theorem Running.balance {c₀ c : Cursor (Numbered Handle)} {calls : List Call}
    {w : Audited World} (running : Running bs c₀ calls c w) : Balance bs c₀ c ⟨w, calls⟩ where
  balance := by
    have sizes := running.holds.opened_eq
    rw [sizes, held]
    cases c.current <;> rfl
  once := running.holds.nodup_closed
  live b current := by
    refine running.holds.of_mem ?_
    simp [held, current]
  index isOpen := running.blocks ▸ c.index_lt isOpen
  going well := by
    obtain ⟨armed, sum⟩ := running.going well
    dsimp only
    refine ⟨by omega, by omega, fun encrypted => ?_⟩
    cases current : c.current with
    | none => rfl
    | some b => exact armed (running.key ▸ encrypted) b current
  first := running.first
  decryption head := by
    cases running.first _ head with
    | store fails => exact fails

/-- Closing what a cursor holds settles the ledger. -/
theorem Running.settled {c₀ c : Cursor (Numbered Handle)} {calls : List Call}
    {w : Audited World} (running : Running bs c₀ calls c w) :
    (c.closeCurrent bs.audited w).ledger.Settled :=
  (holds_closeCurrent [] running.holds).settled

/-- Whatever a store answers and in whatever order a cursor is used, it holds at most
one handle and closes each one that it opened exactly once: between the calls all
but the one that it holds, and all of them once it is released or dropped. -/
theorem handles_balanced (bs : BlockStore World Handle) {c₀ : Cursor (Numbered Handle)}
    (fresh : c₀.Fresh) (asks : List Ask) (w : World) :
    let (c, j) := (source bs.audited).journaled.perform asks c₀ ⟨⟨w, {}⟩, []⟩
    let (released, w') := c.release bs.audited j.world
    Balance bs c₀ c j ∧ (released.current = none ∧ w'.ledger.Settled) ∧
      (c.closeCurrent bs.audited j.world).ledger.Settled := by
  have running := (fresh.running bs w).perform asks
  exact ⟨running.balance, ⟨rfl, running.settled⟩, running.settled⟩

/-- Calls out of order to a cursor over two encrypted blocks that are read one byte at
a time. -/
theorem handles_balanced_of_slowPair :
    let k : CipherKey :=
      ⟨.aes128, List.replicate 16 0, List.replicate 16 0, rfl, rfl⟩
    let c₀ : Cursor (Numbered (FaultedHandle MemoryHandle)) :=
      wholeFile SlowPair.ref ⟨4, [SlowPair.one, SlowPair.two]⟩ (some k) 2
    let asks : List Ask := [.nextChunk, .start, .release, .nextChunk, .nextChunk]
    let (c, j) := (source SlowPair.store.audited).journaled.perform asks c₀
      ⟨⟨SlowPair.world (k.encrypt [1, 2, 3]) [4], {}⟩, []⟩
    let (released, w') := c.release SlowPair.store.audited j.world
    Balance SlowPair.store c₀ c j ∧ (released.current = none ∧ w'.ledger.Settled) ∧
      (c.closeCurrent SlowPair.store.audited j.world).ledger.Settled := by
  intro k c₀ asks
  exact handles_balanced SlowPair.store (.wholeFile _ _ _ _) asks _

end Cursor

end StreamGate
