import Mathlib.Algebra.GroupWithZero.Nat
import StreamGate.Gateway.Run
import StreamGate.Proofs.Gateway.Effects
import StreamGate.Proofs.Tables

/-!
# Bookkeeping

The counters and the usage events of a gateway agree with what became of its sessions.

* `Session.Outcome`: what a step of a session does to its surroundings.
* `Booking`: a session was started, completed or broken off; a log is a list of them.
* `Booked`: the gateway agrees with a log and with the sessions that are alive.
* `Body.Passes`, `Body.Drops`: what is noted when a body is read on or dropped.
-/

namespace StreamGate

variable {World State : Type}

namespace Session

variable {Part : Type} {src : Source World State} {part : World → Part}

/-! ## What a step does -/

/-- What a step of a session that is not over does to the session and, but for what its
source changes, to the world. -/
inductive Outcome (host : Host World) (part : World → Part) (s : Session State) (w : World) :
    Session State → World → Prop
  | goesOn {s' : Session State} {w' : World} (running : s'.phase.isFinal = false)
      (owns : s'.ownsSlot = s.ownsSlot) (id : s'.id = s.id) (kind : s'.kind = s.kind)
      (contentLength : s'.contentLength = s.contentLength) (usage : s'.usage = s.usage)
      (kept : part w' = part w) : Outcome host part s w s' w'
  | fails {s' : Session State} {w₁ : World} (phase : s'.phase = .aborted)
      (kept : part w₁ = part w) :
      Outcome host part s w s' (host.aborted s.kind .error (host.restore s.id w₁))
  | completes {s' : Session State} {w₁ : World} (phase : s'.phase = .completed)
      (kept : part w₁ = part w) :
      Outcome host part s w s' (s.settle host s.contentLength w₁)

theorem outcome_fail (leaves : src.Leaves part) (host : Host World) {s : Session State}
    (owns : s.ownsSlot = true) (e : TransferError) (source : State) (sent : Nat) (phase : Phase)
    {w w₁ : World} (kept : part w₁ = part w) :
    let (_, s', w') := { s with source, sent, phase }.fail src host e w₁
    Outcome host part s w s' w' := by
  have released := leaves.release source w₁
  simp only [fail, abort, letGo, owns, ↓reduceIte]
  exact .fails rfl (released.trans kept)

theorem outcome_pull (leaves : src.Leaves part) (host : Host World) {s : Session State}
    (owns : s.ownsSlot = true) (source : State) {w w₁ : World} (kept : part w₁ = part w) :
    let (_, s', w') := { s with source, phase := .streaming }.pull src host w₁
    Outcome host part s w s' w' := by
  have asked := leaves.nextChunk source w₁
  unfold pull
  generalize src.nextChunk source w₁ = answer at asked ⊢
  obtain ⟨e | chunk, spent, w₂⟩ := answer
  · exact outcome_fail leaves host owns e spent _ _ (asked.trans kept)
  · have kept : part w₂ = part w := asked.trans kept
    dsimp only
    split
    · exact outcome_fail leaves host owns (.overrun s.contentLength) spent
        (counted s.sent chunk.data.length) .streaming kept
    · split
      · split
        · exact outcome_fail leaves host owns
            (.truncated (s.contentLength - counted s.sent chunk.data.length)) spent
            (counted s.sent chunk.data.length) .streaming kept
        · rename_i fits done enough
          have all : counted s.sent chunk.data.length = s.contentLength := by omega
          have released := leaves.release spent w₂
          simp only [complete, letGo, owns, ↓reduceIte, all]
          exact .completes rfl (released.trans kept)
      · exact .goesOn rfl rfl rfl rfl rfl rfl kept

/-- What a step comes to. -/
theorem outcome_step (leaves : src.Leaves part) (host : Host World) {s : Session State}
    (running : s.phase.isFinal = false) (owns : s.ownsSlot = true) (w : World) :
    let (_, s', w') := s.step src host w
    Outcome host part s w s' w' := by
  unfold step
  cases phase : s.phase with
  | completed | aborted =>
    rw [phase] at running
    cases running
  | streaming =>
    have same : { s with source := s.source, phase := .streaming } = s := by rw [← phase]
    have kept : part w = part w := rfl
    have pulled := outcome_pull leaves host owns s.source kept
    rw [same] at pulled
    exact pulled
  | headerSent =>
    have asked := leaves.start s.source w
    dsimp only
    generalize src.start s.source w = answer at asked ⊢
    obtain ⟨e | _, source, w₁⟩ := answer
    · exact outcome_fail leaves host owns e source _ _ asked
    · exact outcome_pull leaves host owns source asked

end Session

/-! ## Bookings -/

/-- What became of a session. -/
inductive Note where
  | started
  | completed
  | aborted (reason : AbortReason)
deriving DecidableEq

/-- An entry of a log: what became of a session, with the deal that it was started for. -/
structure Booking where
  session : SessionId
  deal : Deal
  note : Note
deriving DecidableEq

namespace Booking

def isStart (b : Booking) : Bool := b.note = .started

theorem isStart_started (id : SessionId) (deal : Deal) : isStart ⟨id, deal, .started⟩ = true :=
  decide_eq_true rfl

theorem isStart_of_ne {note : Note} (ends : note ≠ .started) (id : SessionId) (deal : Deal) :
    isStart ⟨id, deal, note⟩ = false := decide_eq_false ends

/-- A booking notes this of a session of this kind. -/
def notes (note : Note) (kind : TransferKind) (b : Booking) : Bool :=
  b.note = note ∧ b.deal.kind = kind

/-- What a booking adds to the counters of transfers. -/
def adds (b : Booking) : Counter → Nat
  | .transfersStarted kind => if b.notes .started kind then 1 else 0
  | .transfersCompleted kind => if b.notes .completed kind then 1 else 0
  | .bytesStreamed kind => if b.notes .completed kind then b.deal.length else 0
  | .transfersAborted kind reason => if b.notes (.aborted reason) kind then 1 else 0
  | _ => 0

/-- The event that a booking emits, if it does. -/
def usage (b : Booking) : Option UsageEvent := if b.note = .completed then b.deal.usage else none

/-- A session and its kind. -/
def key (b : Booking) : SessionId × TransferKind := (b.session, b.deal.kind)

end Booking

/-- A counter of transfers or of their bytes. -/
def Counter.isTransfer : Counter → Bool
  | transfersStarted _ | transfersCompleted _ | bytesStreamed _ | transfersAborted .. => true
  | _ => false

theorem Counter.isUsage_of_isTransfer {c : Counter} (transfer : c.isTransfer = true) :
    c.isUsage = false := by
  cases c <;> first | rfl | cases transfer

/-- A session delivers what a deal says. -/
structure Session.Honours (s : Session State) (deal : Deal) : Prop where
  kind : s.kind = deal.kind
  contentLength : s.contentLength = deal.length
  usage : s.usage = deal.usage

/-- A session is under way, and its start is in the log. -/
structure Session.Alive (log : List Booking) (s : Session State) : Prop where
  running : s.phase.isFinal = false
  owns : s.ownsSlot = true
  agreed : ∃ deal, ⟨s.id, deal, .started⟩ ∈ log ∧ s.Honours deal

/-- A log accounts for the sessions that are alive: every other session that was started
is over, and was over once. -/
structure Accounts (log : List Booking) (live : List (Session State)) (next : SessionId) :
    Prop where
  alive : ∀ s ∈ live, s.Alive log
  /-- What is noted of a session is noted for the deal that it was started for. -/
  paired : ∀ b ∈ log, ⟨b.session, b.deal, .started⟩ ∈ log
  sessions : ((log.filter Booking.isStart).map Booking.key).Perm
    ((log.filter fun b => !b.isStart).map Booking.key ++ live.map fun s => (s.id, s.kind))
  once : ((log.filter Booking.isStart).map Booking.session).Nodup
  used : ∀ b ∈ log, b.session < next

namespace Accounts

variable {log : List Booking} {live live' : List (Session State)} {next : SessionId}
  {s s' : Session State} {deal : Deal}

theorem perm (accounts : Accounts log live next) (same : live'.Perm live) :
    Accounts log live' next where
  alive s mem := accounts.alive s (same.mem_iff.1 mem)
  paired := accounts.paired
  sessions := accounts.sessions.trans ((same.map _).append_left _).symm
  once := accounts.once
  used := accounts.used

/-- A session is started. -/
theorem start (accounts : Accounts log live next) (id : s.id = next)
    (running : s.phase.isFinal = false) (owns : s.ownsSlot = true) (honours : s.Honours deal) :
    Accounts (log ++ [⟨next, deal, .started⟩]) (s :: live) (next + 1) where
  alive s' mem := by
    rcases List.mem_cons.1 mem with rfl | mem
    · exact ⟨running, owns, deal, by simp [id], honours⟩
    · obtain ⟨running, owns, deal', booked, honours⟩ := accounts.alive s' mem
      exact ⟨running, owns, deal', List.mem_append_left _ booked, honours⟩
  paired := List.forall_mem_append.2
    ⟨fun b mem => List.mem_append_left _ (accounts.paired b mem),
      List.forall_mem_singleton.2 (List.mem_append_right _ (.head _))⟩
  sessions := by
    have added := accounts.sessions.append_right [(next, deal.kind)]
    rw [List.append_assoc] at added
    simpa [List.filter_append, Booking.isStart_started, Booking.key, id, honours.kind] using
      added.trans (List.perm_append_comm.append_left _)
  once := by
    have fresh : next ∉ (log.filter Booking.isStart).map Booking.session := by
      intro mem
      obtain ⟨b, booked, same⟩ := List.mem_map.1 mem
      have before := accounts.used b (List.mem_of_mem_filter booked)
      rw [same] at before
      exact Nat.lt_irrefl next before
    simpa [List.filter_append, Booking.isStart_started] using
      List.perm_append_comm.nodup_iff.1 (List.nodup_cons.2 ⟨fresh, accounts.once⟩)
  used := List.forall_mem_append.2
    ⟨fun b mem => Nat.lt_succ_of_lt (accounts.used b mem),
      List.forall_mem_singleton.2 (Nat.lt_succ_self next)⟩

/-- A session is over. -/
theorem close (accounts : Accounts log (s :: live) next) (booked : ⟨s.id, deal, .started⟩ ∈ log)
    (honours : s.Honours deal) {note : Note} (ends : note ≠ .started) :
    Accounts (log ++ [⟨s.id, deal, note⟩]) live next where
  alive s' mem := by
    obtain ⟨running, owns, deal', booked, honours⟩ := accounts.alive s' (.tail _ mem)
    exact ⟨running, owns, deal', List.mem_append_left _ booked, honours⟩
  paired := List.forall_mem_append.2
    ⟨fun b mem => List.mem_append_left _ (accounts.paired b mem),
      List.forall_mem_singleton.2 (List.mem_append_left _ booked)⟩
  sessions := by
    have sessions := accounts.sessions
    rw [List.map_cons, honours.kind] at sessions
    simpa [List.filter_append, Booking.isStart_of_ne ends, Booking.key] using sessions
  once := by
    simpa [List.filter_append, Booking.isStart_of_ne ends] using accounts.once
  used := List.forall_mem_append.2
    ⟨accounts.used, List.forall_mem_singleton.2 (accounts.used ⟨s.id, deal, .started⟩ booked)⟩

/-- A session goes on. -/
theorem goOn (accounts : Accounts log (s :: live) next) (running : s'.phase.isFinal = false)
    (owns : s'.ownsSlot = true) (id : s'.id = s.id)
    (honours : ∀ deal, s.Honours deal → s'.Honours deal) (kind : s'.kind = s.kind) :
    Accounts log (s' :: live) next where
  alive t mem := by
    rcases List.mem_cons.1 mem with rfl | mem
    · obtain ⟨deal, booked, agreed⟩ := (accounts.alive s (.head _)).agreed
      exact ⟨running, owns, deal, id ▸ booked, honours deal agreed⟩
    · exact accounts.alive t (.tail _ mem)
  paired := accounts.paired
  sessions := by
    have sessions := accounts.sessions
    rw [List.map_cons, ← id, ← kind] at sessions
    exact sessions
  once := accounts.once
  used := accounts.used

end Accounts

/-! ## Agreement with the gateway -/

namespace Gateway

variable {g g' : Gateway World} {log : List Booking} {deal : Deal}

/-- The counters of transfers and the usage events are those of a log. -/
structure Agrees (g : Gateway World) (log : List Booking) : Prop where
  counts : ∀ c, c.isTransfer = true → g.metrics.count c = (log.map fun b => b.adds c).sum
  events : g.events = log.filterMap Booking.usage

theorem Agrees.add (agrees : g.Agrees log) {b : Booking}
    (counts : ∀ c, c.isTransfer = true → g'.metrics.count c = g.metrics.count c + b.adds c)
    (events : g'.events = g.events ++ b.usage.toList) : g'.Agrees (log ++ [b]) where
  counts c transfer := by simp [counts c transfer, agrees.counts c transfer]
  events := by
    rw [events, agrees.events, List.filterMap_append]
    cases usage : b.usage <;> simp [usage]

theorem Agrees.opened (agrees : g.Agrees log) (conn : Option ConnectionId)
    {t : Access.Transfer State} (kind : t.kind = deal.kind) :
    (g.opened conn t).Agrees (log ++ [⟨g.nextSession, deal, .started⟩]) := by
  refine agrees.add (fun c transfer => ?_) ?_
  · rw [metrics_opened, Metrics.count_started, kind]
    cases c <;> simp_all [Booking.adds, Booking.notes, Counter.isTransfer]
  · simp [Booking.usage]

theorem Agrees.settle (agrees : g.Agrees log) (countsUsage : Bool) (conn : Option ConnectionId)
    {s : Session State} (honours : s.Honours deal) :
    (s.settle (host countsUsage conn) s.contentLength g).Agrees
      (log ++ [⟨s.id, deal, .completed⟩]) := by
  refine agrees.add (fun c transfer => ?_) ?_
  · rw [count_settle _ _ _ _ _ (Counter.isUsage_of_isTransfer transfer),
      Metrics.count_completed, honours.kind, honours.contentLength]
    cases c <;> simp_all [Booking.adds, Booking.notes, Counter.isTransfer]
  · rw [(settled_settle countsUsage conn s s.contentLength rfl).events, honours.usage]
    simp [Booking.usage]

theorem Agrees.aborted (agrees : g.Agrees log) (countsUsage : Bool) (conn : Option ConnectionId)
    (id : SessionId) (reason : AbortReason) :
    ((host countsUsage conn).aborted deal.kind reason
      ((host countsUsage conn).restore id g)).Agrees (log ++ [⟨id, deal, .aborted reason⟩]) := by
  refine agrees.add (fun c transfer => ?_) ?_
  · show (Metrics.aborted _ _ _).count c = _
    rw [Metrics.count_aborted, metrics_restore]
    cases c <;> simp_all [Booking.adds, Booking.notes, Counter.isTransfer, and_comm]
  · cases conn <;> simp [Booking.usage, host, setSlot]

end Gateway

/-- A log accounts for the sessions that are alive, and the gateway agrees with it. -/
structure Booked (log : List Booking) (live : List (Session State)) (g : Gateway World) :
    Prop where
  accounts : Accounts log live g.nextSession
  agrees : g.Agrees log

namespace Booked

open Gateway

variable {log : List Booking} {live live' : List (Session State)} {g g' : Gateway World}
  {s s' : Session State} {deal : Deal}

theorem perm (booked : Booked log live g) (same : live'.Perm live) : Booked log live' g :=
  ⟨booked.accounts.perm same, booked.agrees⟩

/-- What the log does not speak of may change. -/
theorem keep (booked : Booked log live g) (nextSession : g'.nextSession = g.nextSession)
    (counts : ∀ c, c.isTransfer = true → g'.metrics.count c = g.metrics.count c)
    (events : g'.events = g.events) : Booked log live g' := by
  refine ⟨nextSession ▸ booked.accounts, fun c transfer => ?_, ?_⟩
  · rw [counts c transfer, booked.agrees.counts c transfer]
  · rw [events, booked.agrees.events]

theorem aside (booked : Booked log live g) (same : g'.aside = g.aside) : Booked log live g' := by
  have metrics : g'.metrics = g.metrics := congrArg (fun g : Gateway Unit => g.metrics) same
  exact booked.keep (congrArg (fun g : Gateway Unit => g.nextSession) same)
    (fun c _ => by rw [metrics]) (congrArg (fun g : Gateway Unit => g.events) same)

/-- A session is installed. -/
theorem opened (booked : Booked log live g) (conn : Option ConnectionId)
    {t : Access.Transfer State} (honours : (t.session g.nextSession).Honours deal) :
    Booked (log ++ [⟨g.nextSession, deal, .started⟩]) (t.session g.nextSession :: live)
      (g.opened conn t) where
  accounts := by
    rw [nextSession_opened]
    exact booked.accounts.start rfl rfl rfl honours
  agrees := booked.agrees.opened conn honours.kind

/-- A session is completed. -/
theorem completed (booked : Booked log (s :: live) g) (countsUsage : Bool)
    (conn : Option ConnectionId) (started : ⟨s.id, deal, .started⟩ ∈ log)
    (honours : s.Honours deal) :
    Booked (log ++ [⟨s.id, deal, .completed⟩]) live
      (s.settle (host countsUsage conn) s.contentLength g) where
  accounts := by
    rw [nextSession_settle]
    exact booked.accounts.close started honours (by simp)
  agrees := booked.agrees.settle countsUsage conn honours

/-- A session is broken off. -/
theorem aborted (booked : Booked log (s :: live) g) (countsUsage : Bool)
    (conn : Option ConnectionId) (reason : AbortReason) (started : ⟨s.id, deal, .started⟩ ∈ log)
    (honours : s.Honours deal) :
    Booked (log ++ [⟨s.id, deal, .aborted reason⟩]) live
      ((host countsUsage conn).aborted s.kind reason ((host countsUsage conn).restore s.id g)) where
  accounts := by
    rw [nextSession_aborted]
    exact booked.accounts.close started honours (by simp)
  agrees := by
    rw [honours.kind]
    exact booked.agrees.aborted countsUsage conn s.id reason

end Booked

/-! ## What becomes of a body -/

/-- What is noted of a session that was `s` and is `s'` after a client has read on. -/
inductive Session.Passes (log : List Booking) (s s' : Session State) : List Booking → Prop
  | ended (final : s.phase.isFinal = true) (same : s' = s) : Passes log s s' []
  | goesOn (running : s.phase.isFinal = false) (still : s'.phase.isFinal = false)
      (id : s'.id = s.id) : Passes log s s' []
  | completes {deal : Deal} (running : s.phase.isFinal = false) (phase : s'.phase = .completed)
      (started : ⟨s.id, deal, .started⟩ ∈ log) : Passes log s s' [⟨s.id, deal, .completed⟩]
  | fails {deal : Deal} (running : s.phase.isFinal = false) (phase : s'.phase = .aborted)
      (started : ⟨s.id, deal, .started⟩ ∈ log) : Passes log s s' [⟨s.id, deal, .aborted .error⟩]

/-- The same of a body. -/
inductive Body.Passes (log : List Booking) : Body State → Body State → List Booking → Prop
  | known (bytes bytes' : Bytes) : Passes log (.known bytes) (.known bytes') []
  | streamed (conn : Option ConnectionId) {s s' : Session State} {entries : List Booking}
      (passes : s.Passes log s' entries) :
      Passes log (.streamed conn s) (.streamed conn s') entries

/-- What is noted when a body is dropped. -/
inductive Body.Drops (log : List Booking) : Body State → List Booking → Prop
  | known (bytes : Bytes) : Drops log (.known bytes) []
  | ended (conn : Option ConnectionId) {s : Session State} (final : s.phase.isFinal = true) :
      Drops log (.streamed conn s) []
  | running (conn : Option ConnectionId) {s : Session State} {deal : Deal}
      (running : s.phase.isFinal = false) (started : ⟨s.id, deal, .started⟩ ∈ log) :
      Drops log (.streamed conn s) [⟨s.id, deal, .aborted .disconnect⟩]

/-- The session of a body, if it is under way. -/
def Body.live : Body State → List (Session State)
  | known _ => []
  | streamed _ s => if s.phase.isFinal then [] else [s]

namespace Session.Passes

variable {log entries more : List Booking} {s s' s'' : Session State}

/-- First one part is read, then another. -/
theorem trans (first : s.Passes log s' entries) (rest : s'.Passes (log ++ entries) s'' more) :
    s.Passes log s'' (entries ++ more) := by
  have idle (final : s'.phase.isFinal = true) : more = [] ∧ s'' = s' := by
    cases rest with
    | ended _ same => exact ⟨rfl, same⟩
    | goesOn running | completes running | fails running =>
      rw [final] at running
      cases running
  cases first with
  | ended final same =>
    subst same
    obtain ⟨rfl, rfl⟩ := idle final
    exact .ended final rfl
  | completes running phase started =>
    obtain ⟨rfl, rfl⟩ := idle (by rw [phase]; rfl)
    exact .completes running phase started
  | fails running phase started =>
    obtain ⟨rfl, rfl⟩ := idle (by rw [phase]; rfl)
    exact .fails running phase started
  | goesOn running still id =>
    rw [List.append_nil] at rest
    cases rest with
    | ended final =>
      rw [final] at still
      cases still
    | goesOn _ still' id' => exact .goesOn running still' (id'.trans id)
    | completes _ phase started =>
      rw [id] at started ⊢
      exact .completes running phase started
    | fails _ phase started =>
      rw [id] at started ⊢
      exact .fails running phase started

end Session.Passes

theorem Body.Passes.trans {log entries more : List Booking} {b b' b'' : Body State}
    (first : b.Passes log b' entries) (rest : b'.Passes (log ++ entries) b'' more) :
    b.Passes log b'' (entries ++ more) := by
  cases first with
  | known bytes => cases rest with | known _ bytes' => exact .known bytes bytes'
  | streamed conn passes => cases rest with | streamed _ passes' =>
    exact .streamed conn (passes.trans passes')

namespace Body

theorem live_known {b : Body State} (known : ∃ bytes, b = .known bytes) : b.live = [] := by
  obtain ⟨bytes, rfl⟩ := known
  rfl

theorem live_running {conn : Option ConnectionId} {s : Session State}
    (running : s.phase.isFinal = false) : (streamed conn s).live = [s] := by
  simp [live, running]

theorem live_final {conn : Option ConnectionId} {s : Session State}
    (final : s.phase.isFinal = true) : (streamed conn s).live = [] := by
  simp [live, final]

end Body

namespace Booked

open Gateway Body

variable {Handle File : Type} {log : List Booking} {rest : List (Session (Delivering Handle File))}
  {g : Gateway World}

/-- A session takes a step. -/
theorem step (svc : Services World Handle File) {s : Session (Delivering Handle File)}
    (running : s.phase.isFinal = false) (booked : Booked log (s :: rest) g)
    (conn : Option ConnectionId) :
    let (_, s', g') := s.step svc.source (host svc.countsUsage conn) g
    ∃ entries, s.Passes log s' entries ∧
      Booked (log ++ entries) ((Body.streamed conn s').live ++ rest) g' := by
  obtain ⟨-, owns, deal, started, honours⟩ := booked.accounts.alive s (.head _)
  have outcome := Session.outcome_step svc.leaves_source (host svc.countsUsage conn) running owns g
  generalize s.step svc.source (host svc.countsUsage conn) g = stepped at outcome ⊢
  obtain ⟨r, s', g'⟩ := stepped
  cases outcome with
  | goesOn still kept id kind contentLength usage same =>
    refine ⟨[], .goesOn running still id, ?_⟩
    rw [List.append_nil, live_running still]
    have accounts := booked.accounts.goOn still (kept.trans owns) id
      (fun deal h => ⟨kind.trans h.kind, contentLength.trans h.contentLength, usage.trans h.usage⟩)
      kind
    exact Booked.aside ⟨accounts, booked.agrees⟩ same
  | fails phase same =>
    refine ⟨_, .fails running phase started, ?_⟩
    rw [live_final (by rw [phase]; rfl)]
    exact (booked.aside same).aborted svc.countsUsage conn .error started honours
  | completes phase same =>
    refine ⟨_, .completes running phase started, ?_⟩
    rw [live_final (by rw [phase]; rfl)]
    exact (booked.aside same).completed svc.countsUsage conn started honours

variable {b : Body (Delivering Handle File)}

/-- A client takes a frame. -/
theorem next (svc : Services World Handle File) (booked : Booked log (b.live ++ rest) g) :
    let (_, b', g') := b.next svc g
    ∃ entries, b.Passes log b' entries ∧ Booked (log ++ entries) (b'.live ++ rest) g' := by
  cases b with
  | known bytes =>
    cases bytes with
    | nil => exact ⟨[], .known [] [], by simpa using booked⟩
    | cons x more => exact ⟨[], .known (x :: more) [], by simpa [Body.live] using booked⟩
  | streamed conn s =>
    cases final : s.phase.isFinal with
    | true =>
      have idle : s.step svc.source (host svc.countsUsage conn) g = (none, s, g) := by
        unfold Session.step
        cases phase : s.phase <;> first | rfl | (rw [phase] at final; cases final)
      unfold Body.next
      simp only [idle]
      exact ⟨[], .streamed conn (.ended final rfl), by simpa using booked⟩
    | false =>
      rw [live_running final] at booked
      have stepped := booked.step svc final conn
      unfold Body.next
      dsimp only
      generalize s.step svc.source (host svc.countsUsage conn) g = answer at stepped ⊢
      obtain ⟨r, s', g'⟩ := answer
      obtain ⟨entries, passes, booked⟩ := stepped
      exact ⟨entries, .streamed conn passes, booked⟩

/-- A client reads some of a body. -/
theorem readUpTo (svc : Services World Handle File) (limit : Nat)
    (booked : Booked log (b.live ++ rest) g) :
    let (_, b', g') := b.readUpTo svc limit g
    ∃ entries, b.Passes log b' entries ∧ Booked (log ++ entries) (b'.live ++ rest) g' := by
  induction limit generalizing log b g with
  | zero =>
    refine ⟨[], ?_, by simpa using booked⟩
    cases b with
    | known bytes => exact .known bytes bytes
    | streamed conn s =>
      refine .streamed conn ?_
      cases final : s.phase.isFinal with
      | true => exact .ended final rfl
      | false => exact .goesOn final final rfl
  | succ limit ih =>
    have taken := booked.next svc
    unfold Body.readUpTo
    generalize b.next svc g = answer at taken ⊢
    obtain ⟨frame, b', g'⟩ := answer
    cases frame with
    | done | failed => exact taken
    | data bytes =>
      obtain ⟨entries, passes, booked⟩ := taken
      obtain ⟨more, passes', booked'⟩ := ih booked
      exact ⟨entries ++ more, passes.trans passes', by rwa [← List.append_assoc]⟩

/-- A client drops a body. -/
theorem drop (svc : Services World Handle File) (booked : Booked log (b.live ++ rest) g) :
    ∃ entries, b.Drops log entries ∧ Booked (log ++ entries) rest (b.drop svc g) := by
  cases b with
  | known bytes => exact ⟨[], .known bytes, by rwa [List.append_nil]⟩
  | streamed conn s =>
    cases final : s.phase.isFinal with
    | true =>
      rw [live_final final] at booked
      have dropped : (Body.streamed conn s).drop svc g = g := by
        simp [Body.drop, Session.drop, final]
      exact ⟨[], .ended conn final, by rwa [List.append_nil, dropped]⟩
    | false =>
      rw [live_running final] at booked
      obtain ⟨-, owns, deal, started, honours⟩ := booked.accounts.alive s (.head _)
      have released : (svc.source.release s.source g).2.aside = g.aside :=
        svc.leaves_source.release s.source g
      have dropped : (Body.streamed conn s).drop svc g =
          (host svc.countsUsage conn).aborted s.kind .disconnect
            ((host svc.countsUsage conn).restore s.id (svc.source.release s.source g).2) := by
        simp [Body.drop, Session.drop, final, Session.abort, Session.letGo, owns]
      refine ⟨_, .running conn final started, ?_⟩
      rw [dropped]
      exact (booked.aside released).aborted svc.countsUsage conn .disconnect started honours

end Booked

end StreamGate
