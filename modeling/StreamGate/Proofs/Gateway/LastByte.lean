import StreamGate.Proofs.Gateway.Answers
import StreamGate.Proofs.Transfer.Countdown
import StreamGate.Proofs.Transfer.History

/-!
# The last byte

Whoever reads a body with an announced length stops at its last byte.  The step that
hands it out has to do all that is to be done: `Gateway.last_byte`.

* `Session.world_of_completes`: what a completing step does to its surroundings.
* `Gateway.Settled`: the gateway after a completed transfer.
* `Services.Installs.countsDown`: the sources of the gateway count down from the
  length that is announced for them.
-/

namespace StreamGate

variable {World State : Type}

/-! ## What completing does -/

/-- A source that leaves a part of the world alone. -/
structure Source.Leaves {Part : Type} (src : Source World State) (part : World → Part) : Prop where
  start : ∀ s w, part (src.start s w).2.2 = part w
  nextChunk : ∀ s w, part (src.nextChunk s w).2.2 = part w
  release : ∀ s w, part (src.release s w).2 = part w

namespace Session

variable {Part : Type} {src : Source World State} {part : World → Part}

/-- What a completed session does to its surroundings. -/
def settle (host : Host World) (s : Session State) (bytes : Nat) (w : World) : World :=
  s.usage.elim (host.completed s.kind bytes (host.restore s.id w)) fun e =>
    host.emit e (host.completed s.kind bytes (host.restore s.id w))

/-- What a pull does to the world if it completes the session. -/
theorem world_of_pull (leaves : src.Leaves part) (host : Host World) (s : Session State) (w : World)
    (streaming : s.phase = .streaming) (owns : s.ownsSlot = true)
    (ended : (s.pull src host w).2.1.phase = .completed) :
    ∃ w₁ bytes, part w₁ = part w ∧ (s.pull src host w).2.2 = s.settle host bytes w₁ := by
  have asked := leaves.nextChunk s.source w
  unfold pull at ended ⊢
  generalize src.nextChunk s.source w = answer at asked ended ⊢
  obtain ⟨e | chunk, spent, w'⟩ := answer
  · cases ended
  · dsimp only at asked ended ⊢
    split at ended
    · cases ended
    · split at ended
      · split at ended
        · cases ended
        · rename_i fits done enough
          rw [if_neg fits, if_pos done, if_neg enough]
          refine ⟨(src.release spent w').2, counted s.sent chunk.data.length, ?_, ?_⟩
          · rw [leaves.release, asked]
          · simp [complete, letGo, settle, owns]
      · rw [streaming] at ended
        cases ended

/-- What a step does to the world if it completes the session. -/
theorem world_of_completes (leaves : src.Leaves part) (host : Host World) (s : Session State)
    (w : World) (running : s.phase.isFinal = false) (owns : s.ownsSlot = true)
    (ended : (s.step src host w).2.1.phase = .completed) :
    ∃ w₁ bytes, part w₁ = part w ∧ (s.step src host w).2.2 = s.settle host bytes w₁ := by
  unfold step at ended ⊢
  cases phase : s.phase with
  | completed | aborted =>
    rw [phase] at running
    cases running
  | streaming =>
    rw [phase] at ended
    exact world_of_pull leaves host s w phase owns ended
  | headerSent =>
    rw [phase] at ended
    have asked := leaves.start s.source w
    dsimp only at ended ⊢
    generalize src.start s.source w = answer at asked ended ⊢
    obtain ⟨e | _, source, w'⟩ := answer
    · cases ended
    · obtain ⟨w₁, bytes, same, settled⟩ :=
        world_of_pull leaves host { s with source, phase := .streaming } w' rfl owns ended
      exact ⟨w₁, bytes, same.trans asked, settled⟩

end Session

/-! ## The gateway -/

variable {Handle File : Type} {svc : Services World Handle File}

namespace Gateway

/-- The gateway without its world. -/
def aside (g : Gateway World) : Gateway Unit where
  world := ()
  slots := g.slots
  metrics := g.metrics
  events := g.events
  nextSession := g.nextSession

/-- The gateway after a completed transfer on a connection: the connection is given
back, the event is there, and nothing else happened to connections and events. -/
structure Settled (conn : Option ConnectionId) (usage : Option UsageEvent)
    (before after : Gateway World) : Prop where
  slot : ∀ c, after.slot c = if conn = some c then (before.slot c).restore else before.slot c
  free : ∀ c, conn = some c → (after.slot c).isDispatching = true
  events : after.events = before.events ++ usage.toList

theorem slot_setSlot (g : Gateway World) (c d : ConnectionId) (slot : Slot) :
    (g.setSlot c slot).slot d = if c = d then slot else g.slot d := by
  unfold Gateway.slot setSlot
  rw [Table.get?_insert]
  split <;> rfl

theorem slot_restored (conn : Option ConnectionId) (countsUsage : Bool) (id : SessionId)
    (g : Gateway World) (c : ConnectionId) :
    ((host countsUsage conn).restore id g).slot c =
      if conn = some c then (g.slot c).restore else g.slot c := by
  cases conn with
  | none => simp [host]
  | some d =>
    show (g.setSlot d (g.slot d).restore).slot c = _
    rw [slot_setSlot]
    by_cases same : d = c <;> simp [same]

/-- What a completed session does to the gateway. -/
theorem settled_settle {State : Type} (countsUsage : Bool) (conn : Option ConnectionId)
    (s : Session State) (bytes : Nat) {before g : Gateway World} (same : g.aside = before.aside) :
    Settled conn s.usage before (s.settle (host countsUsage conn) bytes g) := by
  have slots : ∀ c, g.slot c = before.slot c := fun c =>
    congrArg (fun g' : Gateway Unit => g'.slot c) same
  have events : g.events = before.events := congrArg (fun g' : Gateway Unit => g'.events) same
  have restored (c : ConnectionId) : (s.settle (host countsUsage conn) bytes g).slot c =
      if conn = some c then (before.slot c).restore else before.slot c := by
    rw [← slots c, ← slot_restored conn countsUsage s.id g c]
    cases usage : s.usage <;> simp [Session.settle, usage] <;> rfl
  refine ⟨restored, fun c owned => ?_, ?_⟩
  · rw [restored, if_pos owned]
    rfl
  · have kept : ((host countsUsage conn).restore s.id g).events = g.events := by
      cases conn <;> rfl
    cases usage : s.usage with
    | none => simpa [Session.settle, usage, host, events] using kept
    | some e => simpa [Session.settle, usage, host, events] using kept

end Gateway

namespace Services

/-- Sources change nothing but the world. -/
theorem leaves_source (svc : Services World Handle File) : svc.source.Leaves Gateway.aside where
  start _ _ := rfl
  nextChunk _ _ := rfl
  release _ _ := rfl

/-- How many bytes a source of the gateway has left. -/
def left : Delivering Handle File → Nat := Sum.elim Cursor.remaining Relay.remaining

theorem countsDown_source : svc.source.CountsDown left :=
  (Cursor.countsDown.either Relay.countsDown).inside Gateway.world Gateway.withWorld

theorem Installs.left_eq {source : Delivering Handle File} {length : Nat}
    (installed : svc.Installs source length) : left source = length := by
  cases installed with
  | wholeFile | range | singleBlock => rfl
  | archive opened =>
    obtain ⟨_, -, -, left, -⟩ := Relay.openFile_spec opened
    exact left

/-- The lengths that the gateway announces can be counted. -/
theorem Installs.countable {source : Delivering Handle File} {length : Nat}
    (installed : svc.Installs source length) : length < UInt64.size := by
  cases installed with
  | wholeFile | range => exact UInt64.toNat_lt_size _
  | singleBlock store id countable => exact countable
  | archive opened => exact Relay.size_lt_of_openFile opened

/-- A session that was just installed is in balance. -/
theorem Installs.tallies {source : Delivering Handle File} {length : Nat}
    (installed : svc.Installs source length) (id : SessionId) (kind : TransferKind)
    (usage : Option UsageEvent) :
    ({ id, kind, source, contentLength := length, usage } : Session _).Tallies left where
  countable := installed.countable
  balance _ := by
    show 0 + left source = length
    rw [Nat.zero_add, installed.left_eq]

/-- A source without bytes can always be started. -/
theorem Installs.starts {source : Delivering Handle File}
    (installed : svc.Installs source 0) {answer : Except TransferError Unit}
    {source' : Delivering Handle File} (started : svc.source.Starts source answer source') :
    answer = .ok () := by
  obtain ⟨g, g', started⟩ := started
  generalize length : 0 = n at installed
  cases installed with
  | range store manifest parsed =>
    have inside := ByteRange.within_of_parse parsed
    rw [ByteRange.toNat_length _ inside.ordered inside.length_lt] at length
    omega
  | wholeFile | singleBlock | archive =>
    cases started
    rfl

end Services

/-- Until it is over, a session keeps its connection and its event. -/
theorem Session.History.unsettled {State : Type} {s₀ s : Session State} {calls : List Call}
    {results : List Session.Result} (history : s₀.History calls results s)
    (running : s.phase.isFinal = false) : s.ownsSlot = s₀.ownsSlot ∧ s.usage = s₀.usage := by
  cases history with
  | headerSent | streaming => exact ⟨rfl, rfl⟩
  | completed | aborted => cases running

namespace Gateway

open Services Session

/-- A session that announces nothing is over before its body goes out. -/
theorem settled_empty {source : Delivering Handle File} (installed : svc.Installs source 0)
    (conn : Option ConnectionId) (id : SessionId) (kind : TransferKind)
    (usage : Option UsageEvent) (g : Gateway World) (fuel : Nat) :
    let s₀ : Session (Delivering Handle File) := { id, kind, source, contentLength := 0, usage }
    let (s, after) := s₀.runOut svc.source (host svc.countsUsage conn) (fuel + 1) g
    s.phase = .completed ∧ Settled conn usage g after ∧
      s₀.intoBody svc.source (host svc.countsUsage conn) (fuel + 1) g = (none, after) := by
  intro s₀
  let host : Host (Gateway World) := Gateway.host svc.countsUsage conn
  have fresh : s₀.Tallies left := installed.tallies id kind usage
  obtain ⟨_, -, does⟩ := does_step svc.source host s₀ g []
  obtain ⟨nothing, ended⟩ :=
    does.completes_empty countsDown_source fresh rfl rfl fun started => installed.starts started
  obtain ⟨g₁, bytes, same, settled⟩ :=
    world_of_completes (leaves_source svc) host s₀ g rfl rfl ended
  have ran : s₀.runOut svc.source host (fuel + 1) g = (s₀.step svc.source host g).2 := by
    unfold runOut
    generalize s₀.step svc.source host g = answer at nothing
    obtain ⟨r, s, after⟩ := answer
    cases nothing
    rfl
  rw [ran]
  refine ⟨ended, ?_, ?_⟩
  · rw [settled]
    exact settled_settle svc.countsUsage conn s₀ bytes same
  · unfold intoBody
    rw [if_pos rfl, ran]
    simp [drop, ended, Phase.isFinal]

/-- A session that began as `s₀` and stands at `s` after the run `seen` does all that is
to be done no later than with its last byte. -/
structure Punctual (svc : Services World Handle File) (conn : Option ConnectionId)
    (s₀ : Session (Delivering Handle File)) (seen : Seen) (s : Session (Delivering Handle File))
    (g : Gateway World) : Prop where
  /-- The step that hands out the last announced byte completes the transfer, and then
  nothing is left to be done when the session is dropped. -/
  last : let (r, s', after) := s.step svc.source (host svc.countsUsage conn) g
    seen.handed.length < s₀.contentLength →
    s₀.contentLength ≤ seen.handed.length + (Result.handed r).length →
    s'.phase = .completed ∧ Settled conn s₀.usage g after ∧
      ∀ later, s'.drop svc.source (host svc.countsUsage conn) later = later
  /-- Every error of the step is an answer of the source. -/
  errors : let (r, _, j) :=
      s.step svc.source.journaled (host svc.countsUsage conn).journaled ⟨g, []⟩
    ∀ e, r = some (.error e) → .start (.error e) ∈ j.calls ∨ .nextChunk (.error e) ∈ j.calls
  /-- A session that announces nothing is over before its body goes out. -/
  empty : s₀.contentLength = 0 → ∀ fuel,
    let (s', after) := s₀.runOut svc.source (host svc.countsUsage conn) (fuel + 1) g
    s'.phase = .completed ∧ Settled conn s₀.usage g after ∧
      s₀.intoBody svc.source (host svc.countsUsage conn) (fuel + 1) g = (none, after)

/-- The step with the last byte completes the transfer. -/
theorem settled_last (conn : Option ConnectionId) {s₀ s : Session (Delivering Handle File)}
    {seen : Seen} (owns : s₀.ownsSlot = true) (history : s₀.History seen.calls seen.results s)
    (tallies : s.Tallies left)
    (counts : s.phase.isFinal = false → s.sent = seen.handed.length) (g : Gateway World) :
    let (r, s', after) := s.step svc.source (host svc.countsUsage conn) g
    seen.handed.length < s₀.contentLength →
    s₀.contentLength ≤ seen.handed.length + (Result.handed r).length →
    s'.phase = .completed ∧ Settled conn s₀.usage g after ∧
      ∀ later, s'.drop svc.source (host svc.countsUsage conn) later = later := by
  obtain ⟨made, -, does⟩ := does_step svc.source (host svc.countsUsage conn) s g []
  have settles := world_of_completes (leaves_source svc) (host svc.countsUsage conn) s g
  generalize s.step svc.source (host svc.countsUsage conn) g = stepped at does settles ⊢
  obtain ⟨r, s', after⟩ := stepped
  intro before enough
  have running : s.phase.isFinal = false := by
    refine Bool.eq_false_iff.2 fun final => ?_
    obtain ⟨-, silent, -⟩ := History.does_of_isFinal final does
    rw [show r = none from silent] at enough
    exact absurd before (Nat.not_lt.2 enough)
  have sent : s.sent = seen.handed.length := counts running
  have announced : s.contentLength = s₀.contentLength := history.contentLength
  obtain ⟨kept, usage⟩ := history.unsettled running
  have ended : s'.phase = .completed :=
    does.completes countsDown_source tallies (by rw [sent, announced]; exact before)
      (by rw [sent, announced]; exact enough)
  obtain ⟨g₁, bytes, same, settled⟩ := settles running (kept.trans owns) ended
  refine ⟨ended, ?_, fun later => ?_⟩
  · rw [show after = _ from settled, ← usage]
    exact settled_settle svc.countsUsage conn s bytes same
  · simp [drop, ended, Phase.isFinal]

/-- A session that began as `s₀` is in balance and counts what it hands out. -/
structure Balanced (s₀ : Session (Delivering Handle File)) (calls : List Call)
    (results : List Result) (s : Session (Delivering Handle File)) : Prop where
  history : s₀.History calls results s
  tallies : s.Tallies left
  counts : s.phase.isFinal = false → s.sent = (results.flatMap Result.handed).length

theorem Balanced.step {s₀ s s' : Session (Delivering Handle File)} {calls made : List Call}
    {results : List Result} {r : Result} (fresh : s₀.phase = .headerSent)
    (nothing : s₀.sent = 0) (balanced : Balanced s₀ calls results s)
    (does : s.Does svc.source made r s') : Balanced s₀ (calls ++ made) (results ++ [r]) s' where
  history := balanced.history.step fresh nothing does
  tallies := does.tallies countsDown_source balanced.tallies
  counts going := by
    obtain ⟨running, sent⟩ := does.sent_of_going countsDown_source balanced.tallies going
    rw [sent, balanced.counts running, List.flatMap_append, List.length_append]
    simp

/-- Whatever the store and the archive answer, and whatever else happens to the gateway
between the steps, a session on one of its sources is punctual. -/
theorem last_byte (svc : Services World Handle File) {source : Delivering Handle File}
    {length : Nat} (installed : svc.Installs source length) (conn : Option ConnectionId)
    (id : SessionId) (kind : TransferKind) (usage : Option UsageEvent)
    (meanwhile : List (Gateway World → Gateway World)) (g g' : Gateway World) :
    let s₀ : Session (Delivering Handle File) :=
      { id, kind, source, contentLength := length, usage }
    let (seen, s, _) := s₀.observe svc.source (host svc.countsUsage conn) meanwhile g
    Punctual svc conn s₀ seen s g' := by
  intro s₀
  have fresh : s₀.Tallies left := installed.tallies id kind usage
  have history :
      let (seen, s, _) := s₀.observe svc.source (host svc.countsUsage conn) meanwhile g
      Balanced s₀ seen.calls seen.results s :=
    observe_keeps (Balanced s₀) (.step rfl rfl) (host svc.countsUsage conn) meanwhile
      ⟨.headerSent, fresh, fun _ => rfl⟩ g
  generalize s₀.observe svc.source (host svc.countsUsage conn) meanwhile g = answer at history ⊢
  obtain ⟨seen, s, _⟩ := answer
  obtain ⟨history, tallies, counts⟩ := history
  refine ⟨settled_last conn rfl history tallies counts g', ?_, fun empty fuel => ?_⟩
  · obtain ⟨made, noted, does⟩ := does_step svc.source (host svc.countsUsage conn) s g' []
    simp only [noted, List.nil_append]
    exact fun e failed => does.of_source countsDown_source tallies failed
  · have nothing : length = 0 := empty
    subst nothing
    exact settled_empty installed conn id kind usage g' fuel

/-- Three bytes of an archive in memory go out in one step, which is all that the
transfer needs. -/
theorem last_byte_of_archive :
    let files := (FileSystem.writeFile {} "/z" [7, 8, 9]).toOption.getD {}
    let g : Gateway MemoryWorld := { world := MemoryWorld.empty {} files }
    let svc := MemoryWorld.services {} true ⟨⟨2024, 1, 1⟩, 0, 0, 0⟩
    let usage := UsageEvent.forTransfer .download "repo" "user" 3
    ∃ relay, Relay.openFile svc.archives.in64Bits "/z" "t" svc.buffer g.world = .ok relay ∧
      let s₀ : Session (Delivering (FaultedHandle MemoryHandle) FileHandle) :=
        { id := 1, kind := .archive, source := .inr relay, contentLength := 3, usage }
      let (r, s, after) := s₀.step svc.source (host svc.countsUsage (some "c")) g
      r = some (.ok [7, 8, 9]) ∧ s.phase = .completed ∧ Settled (some "c") usage g after := by
  intro files g svc usage
  refine ⟨_, rfl, ?_⟩
  intro s₀
  have opened : Relay.openFile svc.archives.in64Bits "/z" "t" svc.buffer g.world = .ok _ := rfl
  have installed : svc.Installs s₀.source 3 := .archive opened
  have handed :
      (s₀.step svc.source (host svc.countsUsage (some "c")) g).1 = some (.ok [7, 8, 9]) := rfl
  have enough : 3 ≤ 0 + (Session.Result.handed
      (s₀.step svc.source (host svc.countsUsage (some "c")) g).1).length := by
    rw [handed]
    decide
  have punctual := last_byte svc installed (some "c") 1 .archive usage [] g g
  obtain ⟨ended, settled, -⟩ := punctual.last (by decide) enough
  exact ⟨handed, ended, settled⟩

end Gateway

end StreamGate
