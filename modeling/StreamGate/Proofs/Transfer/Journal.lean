import StreamGate.Transfer.Session

/-!
# Journals of sessions

What a session does, written down call by call: `Source.journaled` and
`Session.Host.journaled` do what the source and the host do and note it, with
the answers of the source.

`Session.Does` lists what one step can do: the calls it makes, what comes out and
what becomes of the session.  Every later fact about steps is read off this list.

* `Session.does_step`: a step does one of these things, and keeping a journal
  changes nothing about it.
* `Session.drop_journaled`: what dropping a session does.
* `Session.observe`: a run of steps, with anything happening to the world between
  them, and what is seen of it.
-/

namespace StreamGate

/-- Something that a session does, with the answer where the source gives one. -/
inductive Call where
  | start (answer : Except TransferError Unit)
  | nextChunk (answer : Except TransferError Chunk)
  | release
  | restore (id : SessionId)
  | completed (kind : TransferKind) (bytes : Nat)
  | aborted (kind : TransferKind) (reason : AbortReason)
  | emit (event : UsageEvent)

/-- A world with the calls made in it, oldest first. -/
structure Journal (World : Type) where
  world : World
  calls : List Call := []

/-- Writes a call down that led to a new world. -/
def Journal.note {World : Type} (j : Journal World) (call : Call) (w : World) : Journal World :=
  ⟨w, j.calls ++ [call]⟩

variable {World State : Type}

/-- The same source, with its calls written down. -/
def Source.journaled (src : Source World State) : Source (Journal World) State where
  start s j :=
    let (r, s, w) := src.start s j.world
    (r, s, j.note (.start r) w)
  nextChunk s j :=
    let (r, s, w) := src.nextChunk s j.world
    (r, s, j.note (.nextChunk r) w)
  release s j :=
    let (s, w) := src.release s j.world
    (s, j.note .release w)

/-- The same host, with its calls written down. -/
def Session.Host.journaled (host : Session.Host World) : Session.Host (Journal World) where
  restore id j := j.note (.restore id) (host.restore id j.world)
  completed kind bytes j := j.note (.completed kind bytes) (host.completed kind bytes j.world)
  aborted kind reason j := j.note (.aborted kind reason) (host.aborted kind reason j.world)
  emit e j := j.note (.emit e) (host.emit e j.world)

/-- A host that keeps no books. -/
def Session.Host.quiet : Session.Host World where
  restore _ w := w
  completed _ _ w := w
  aborted _ _ w := w
  emit _ w := w

namespace Source

/-- In some world, starting the source gives this answer. -/
def Starts (src : Source World State) (s : State) (answer : Except TransferError Unit)
    (s' : State) : Prop :=
  ∃ w w', src.start s w = (answer, s', w')

/-- In some world, asking the source for a chunk gives this answer. -/
def Hands (src : Source World State) (s : State) (answer : Except TransferError Chunk)
    (s' : State) : Prop :=
  ∃ w w', src.nextChunk s w = (answer, s', w')

end Source

namespace Session

variable {src : Source World State} {host : Host World}

/-! ## What a step does -/

/-- What a step comes to: bytes, an error, or nothing when the body is over. -/
abbrev Result := Option (Except TransferError Bytes)

/-- The bytes that a step hands out. -/
def Result.handed : Result → Bytes
  | some (.ok data) => data
  | _ => []

/-- The calls with which a session ends. -/
def farewell (s : Session State) (record : Call) : List Call :=
  .release :: (if s.ownsSlot then [.restore s.id] else []) ++ [record]

/-- The calls of a session that gives up. -/
def giveUp (s : Session State) (reason : AbortReason) : List Call :=
  s.farewell (.aborted s.kind reason)

/-- The calls of a session that has handed out `bytes` bytes and completes. -/
def finish (s : Session State) (bytes : Nat) : List Call :=
  s.farewell (.completed s.kind bytes) ++ s.usage.toList.map .emit

/-- A step gets to ask for a chunk after these calls, with the source in this state. -/
inductive Opens (src : Source World State) (s : Session State) : List Call → State → Prop
  | streaming (phase : s.phase = .streaming) : Opens src s [] s.source
  | headerSent {source : State} (phase : s.phase = .headerSent)
      (started : src.Starts s.source (.ok ()) source) : Opens src s [.start (.ok ())] source

/-- What a step can do: its calls, what comes out, and the session afterwards. -/
inductive Does (src : Source World State) (s : Session State) :
    List Call → Result → Session State → Prop
  /-- The session is over. -/
  | idle (final : s.phase.isFinal = true) : Does src s [] none s
  /-- The source cannot be started. -/
  | refused {e : TransferError} {source after : State} (phase : s.phase = .headerSent)
      (answer : src.Starts s.source (.error e) source) :
      Does src s (.start (.error e) :: s.giveUp .error) (some (.error e))
        { s with source := after, phase := .aborted, ownsSlot := false }
  /-- The source fails. -/
  | failed {e : TransferError} {opening : List Call} {source spent after : State}
      (opens : s.Opens src opening source) (answer : src.Hands source (.error e) spent) :
      Does src s (opening ++ .nextChunk (.error e) :: s.giveUp .error) (some (.error e))
        { s with source := after, phase := .aborted, ownsSlot := false }
  /-- The chunk is too much. -/
  | overran {chunk : Chunk} {opening : List Call} {source spent after : State}
      (opens : s.Opens src opening source) (answer : src.Hands source (.ok chunk) spent)
      (much : s.contentLength < counted s.sent chunk.data.length) :
      Does src s (opening ++ .nextChunk (.ok chunk) :: s.giveUp .error)
        (some (.error (.overrun s.contentLength)))
        { s with source := after, sent := counted s.sent chunk.data.length, phase := .aborted,
                 ownsSlot := false }
  /-- The last chunk is not enough. -/
  | fellShort {chunk : Chunk} {opening : List Call} {source spent after : State}
      (opens : s.Opens src opening source) (answer : src.Hands source (.ok chunk) spent)
      (done : chunk.done = true) (little : counted s.sent chunk.data.length < s.contentLength) :
      Does src s (opening ++ .nextChunk (.ok chunk) :: s.giveUp .error)
        (some (.error (.truncated (s.contentLength - counted s.sent chunk.data.length))))
        { s with source := after, sent := counted s.sent chunk.data.length, phase := .aborted,
                 ownsSlot := false }
  /-- The last chunk is what was missing. -/
  | completed {chunk : Chunk} {opening : List Call} {source spent after : State}
      (opens : s.Opens src opening source) (answer : src.Hands source (.ok chunk) spent)
      (done : chunk.done = true) (all : counted s.sent chunk.data.length = s.contentLength) :
      Does src s (opening ++ .nextChunk (.ok chunk) :: s.finish s.contentLength)
        (if chunk.data.isEmpty then none else some (.ok chunk.data))
        { s with source := after, sent := s.contentLength, phase := .completed,
                 ownsSlot := false, usage := none }
  /-- The chunk goes out, and more will follow. -/
  | handedOut {chunk : Chunk} {opening : List Call} {source spent : State}
      (opens : s.Opens src opening source) (answer : src.Hands source (.ok chunk) spent)
      (more : chunk.done = false) (fits : counted s.sent chunk.data.length ≤ s.contentLength) :
      Does src s (opening ++ [.nextChunk (.ok chunk)]) (some (.ok chunk.data))
        { s with source := spent, sent := counted s.sent chunk.data.length, phase := .streaming }

/-! ## Keeping a journal -/

theorem letGo_journaled (s : Session State) (j : Journal World) :
    s.letGo src.journaled host.journaled j =
      ((s.letGo src host j.world).1, ⟨(s.letGo src host j.world).2,
        j.calls ++ .release :: (if s.ownsSlot then [.restore s.id] else [])⟩) := by
  unfold letGo
  cases s.ownsSlot with
  | true => simp [Source.journaled, Host.journaled, Journal.note]
  | false => simp [Source.journaled, Journal.note]

theorem abort_journaled (reason : AbortReason) (s : Session State) (j : Journal World) :
    s.abort src.journaled host.journaled reason j =
      ((s.abort src host reason j.world).1,
        ⟨(s.abort src host reason j.world).2, j.calls ++ s.giveUp reason⟩) := by
  unfold abort
  rw [letGo_journaled]
  simp [letGo, Host.journaled, Journal.note, giveUp, farewell]

theorem complete_journaled (s : Session State) (j : Journal World) :
    s.complete src.journaled host.journaled j =
      ((s.complete src host j.world).1,
        ⟨(s.complete src host j.world).2, j.calls ++ s.finish s.sent⟩) := by
  unfold complete
  rw [letGo_journaled]
  cases h : s.usage with
  | none => simp [letGo, Host.journaled, Journal.note, finish, farewell, h]
  | some e => simp [letGo, Host.journaled, Journal.note, finish, farewell, h]

/-- A step from a world and its calls: with a journal as without one, and the
calls are those of one of the things a step can do. -/
def Observed (src : Source World State) (s : Session State) (before : List Call)
    (plain : Result × Session State × World) (noted : Result × Session State × Journal World) :
    Prop :=
  ∃ calls, noted = (plain.1, plain.2.1, ⟨plain.2.2, before ++ calls⟩) ∧
    s.Does src calls plain.1 plain.2.1

theorem observed_fail (host : Host World) {s s₁ : Session State} {calls before : List Call}
    {w : World} {e : TransferError}
    (does : s.Does src (calls ++ s₁.giveUp .error) (some (.error e))
      { s₁ with source := (src.release s₁.source w).1, phase := .aborted, ownsSlot := false }) :
    Observed src s before (s₁.fail src host e w)
      (s₁.fail src.journaled host.journaled e ⟨w, before ++ calls⟩) := by
  refine ⟨calls ++ s₁.giveUp .error, ?_, does⟩
  unfold fail
  rw [abort_journaled, List.append_assoc]

/-- From a source that is started, a step does what it does by pulling a chunk. -/
theorem observed_pull (host : Host World) {s : Session State} {opening : List Call}
    {source : State} (opens : s.Opens src opening source) (before : List Call) (w : World) :
    Observed src s before ({ s with source, phase := .streaming }.pull src host w)
      ({ s with source, phase := .streaming }.pull src.journaled host.journaled
        ⟨w, before ++ opening⟩) := by
  have noted : src.journaled.nextChunk source ⟨w, before ++ opening⟩ =
      ((src.nextChunk source w).1, (src.nextChunk source w).2.1, ⟨(src.nextChunk source w).2.2,
        before ++ opening ++ [.nextChunk (src.nextChunk source w).1]⟩) := rfl
  have hands : src.Hands source (src.nextChunk source w).1 (src.nextChunk source w).2.1 :=
    ⟨w, _, rfl⟩
  unfold pull
  simp only [noted]
  generalize src.nextChunk source w = answer at hands ⊢
  obtain ⟨e | chunk, spent, w'⟩ := answer
  · rw [List.append_assoc]
    refine observed_fail host ?_
    rw [List.append_assoc]
    exact .failed opens hands
  · simp only [List.append_assoc]
    split
    · rename_i much
      refine observed_fail host ?_
      rw [List.append_assoc]
      exact .overran opens hands much
    · rename_i fits
      split
      · rename_i done
        split
        · rename_i little
          refine observed_fail host ?_
          rw [List.append_assoc]
          exact .fellShort opens hands done little
        · rename_i enough
          have all : counted s.sent chunk.data.length = s.contentLength := by omega
          simp only [complete_journaled]
          refine ⟨opening ++ .nextChunk (.ok chunk) :: s.finish s.contentLength, ?_, ?_⟩
          · simp [finish, farewell, all]
          · simp only [complete, letGo, all]
            exact .completed opens hands done all
      · rename_i more
        refine ⟨opening ++ [.nextChunk (.ok chunk)], rfl, ?_⟩
        exact .handedOut opens hands (Bool.eq_false_iff.2 more) (by omega)

/-- A step does one of the things that a step can do, and keeping a journal changes
nothing about it. -/
theorem does_step (src : Source World State) (host : Host World) (s : Session State) (w : World)
    (before : List Call) :
    Observed src s before (s.step src host w)
      (s.step src.journaled host.journaled ⟨w, before⟩) := by
  unfold step
  cases phase : s.phase with
  | completed => exact ⟨[], by simp, .idle (by rw [phase]; rfl)⟩
  | aborted => exact ⟨[], by simp, .idle (by rw [phase]; rfl)⟩
  | streaming =>
    have streaming : { s with phase := .streaming } = s := by rw [← phase]
    have opens : s.Opens src [] s.source := .streaming phase
    have observed := observed_pull host opens before w
    rw [List.append_nil, streaming] at observed
    exact observed
  | headerSent =>
    have noted : src.journaled.start s.source ⟨w, before⟩ =
        ((src.start s.source w).1, (src.start s.source w).2.1,
          ⟨(src.start s.source w).2.2, before ++ [.start (src.start s.source w).1]⟩) := rfl
    have starts : src.Starts s.source (src.start s.source w).1 (src.start s.source w).2.1 :=
      ⟨w, _, rfl⟩
    simp only [noted]
    generalize src.start s.source w = answer at starts ⊢
    obtain ⟨e | _, source, w'⟩ := answer
    · exact observed_fail host (.refused phase starts)
    · exact observed_pull host (.headerSent phase starts) before w'

/-- What dropping a session does, and keeping a journal changes nothing about it. -/
theorem drop_journaled (src : Source World State) (host : Host World) (s : Session State)
    (w : World) (before : List Call) :
    s.drop src.journaled host.journaled ⟨w, before⟩ =
      ⟨s.drop src host w, before ++ if s.phase.isFinal then [] else s.giveUp .disconnect⟩ := by
  unfold drop
  cases s.phase.isFinal with
  | true => simp
  | false => simp [abort_journaled]

/-! ## Runs -/

/-- What is seen of a run of steps. -/
structure Seen where
  /-- The calls of all steps, in order. -/
  calls : List Call
  /-- What came out of each step. -/
  results : List Result

/-- All bytes that were handed out. -/
def Seen.handed (t : Seen) : Bytes := t.results.flatMap Result.handed

/-- Takes one step for each of `meanwhile`, which is what happens to the world
before it. -/
def observe (src : Source World State) (host : Host World) :
    (meanwhile : List (World → World)) → Session State → World → Seen × Session State × World
  | [], s, w => (⟨[], []⟩, s, w)
  | change :: meanwhile, s, w =>
    let (r, s, j) := s.step src.journaled host.journaled ⟨change w, []⟩
    let (seen, s, w) := observe src host meanwhile s j.world
    (⟨j.calls ++ seen.calls, r :: seen.results⟩, s, w)

/-- What holds before a run and is kept by everything a step can do holds after the
run. -/
theorem observe_keeps (holds : List Call → List Result → Session State → Prop)
    (step : ∀ {calls results s made r s'}, holds calls results s → s.Does src made r s' →
      holds (calls ++ made) (results ++ [r]) s')
    (host : Host World) (meanwhile : List (World → World)) {calls : List Call}
    {results : List Result} {s : Session State} (before : holds calls results s) (w : World) :
    let (seen, s', _) := s.observe src host meanwhile w
    holds (calls ++ seen.calls) (results ++ seen.results) s' := by
  induction meanwhile generalizing calls results s w with
  | nil => simpa [observe] using before
  | cons change meanwhile ih =>
    obtain ⟨made, noted, does⟩ := does_step src host s (change w) []
    have after := ih (step before does) (s.step src host (change w)).2.2
    simpa [observe, noted] using after

end Session

end StreamGate
