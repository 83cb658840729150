import StreamGate.Proofs.Gateway.BodyLength
import StreamGate.Proofs.Gateway.Errands
import StreamGate.Proofs.Gateway.LastByte
import StreamGate.Proofs.Gateway.Reading

/-!
# What an answer does to the gateway

Everything that answering a request for a delivery changes.

* `Services.returned`: the world once a source that was never started is released.
* `Gateway.opened`: the gateway once a session is installed.
* `Exit.Leaves`: the response and the gateway that an end of a delivery leaves.
* `Gateway.Answered`: how requests are answered, and `Gateway.answered_of_poll`: there
  is no other way.
-/

namespace StreamGate

variable {World Handle File : Type} {svc : Services World Handle File}

/-! ## Sources that were never started -/

namespace Services

/-- What is still asked of the services when a source that was never started is
released: an archive's token is discarded. -/
def closing : Delivering Handle File → List Errand
  | .inl _ => []
  | .inr relay => [.discard relay.token]

/-- The world afterwards. -/
def returned (svc : Services World Handle File) : Delivering Handle File → World → World
  | .inl _, w => w
  | .inr relay, w => svc.archives.discard relay.token w

theorem runs_returned (svc : Services World Handle File) (source : Delivering Handle File)
    (w : World) : svc.Runs w (closing source) (svc.returned source w) := by
  cases source with
  | inl c => exact .nil w
  | inr relay => exact .one (.discard relay.token)

namespace Installs

variable {source : Delivering Handle File} {length : Nat}

theorem release (installed : svc.Installs source length) (g : Gateway World) :
    (svc.source.release source g).2 = g.withWorld (svc.returned source g.world) := by
  cases installed with
  | wholeFile | range | singleBlock => rfl
  | archive opened =>
    obtain ⟨_, -, -, -, -, fresh⟩ := Relay.openFile_spec opened
    show g.withWorld (if _ then _ else _) = _
    rw [fresh]
    rfl

/-- A source without bytes is started without any effect. -/
theorem start_empty (installed : svc.Installs source 0) (g : Gateway World) :
    svc.source.start source g = (.ok (), source, g) := by
  generalize length : 0 = n at installed
  cases installed with
  | range store manifest parsed =>
    have inside := ByteRange.within_of_parse parsed
    rw [ByteRange.toNat_length _ inside.ordered inside.length_lt] at length
    omega
  | wholeFile | singleBlock | archive => rfl

/-- A source without bytes hands out the end and is released. -/
theorem nextChunk_empty (installed : svc.Installs source 0) (g : Gateway World) :
    svc.source.nextChunk source g = (.ok (.last []), svc.source.release source g) := by
  have empty := installed.left_eq
  cases source with
  | inl c =>
    have ended : c.nextChunk svc.store g.world = (.ok (.last []), c.release svc.store g.world) := by
      rw [Cursor.nextChunk_eq, if_pos (show c.remaining = 0 from empty)]
    simp only [Services.source, Source.inside, Source.either, Cursor.source, ended]
  | inr relay =>
    have ended : relay.nextChunk svc.archives g.world =
        (.ok (.last []), relay.release svc.archives g.world) := by
      unfold Relay.nextChunk
      rw [if_pos (show relay.remaining = 0 from empty)]
    simp only [Services.source, Source.inside, Source.either, Relay.source, ended]

end Installs

/-- Releasing a source once more has no effect. -/
theorem release_release (svc : Services World Handle File) (source : Delivering Handle File)
    (g g' : Gateway World) : (svc.source.release (svc.source.release source g).1 g').2 = g' := by
  cases source <;> rfl

end Services

/-! ## Sessions that are over at once -/

/-- The session that delivers a transfer. -/
def Access.Transfer.session {State : Type} (t : Access.Transfer State) (id : SessionId) :
    Session State :=
  { id, kind := t.kind, source := t.source, contentLength := t.contentLength, usage := t.usage }

namespace Session

open Gateway

variable {t : Access.Transfer (Delivering Handle File)}

/-- A session that announces nothing is completed by its first step. -/
theorem runOut_empty (installed : svc.Installs t.source t.contentLength)
    (empty : t.contentLength = 0) (conn : Option ConnectionId) (id : SessionId)
    (g : Gateway World) :
    ∃ s, (t.session id).runOut svc.source (host svc.countsUsage conn) 2 g =
      (s, (t.session id).settle (host svc.countsUsage conn) 0
        (g.withWorld (svc.returned t.source g.world))) ∧ s.phase = .completed := by
  rw [empty] at installed
  have started := installed.start_empty g
  have asked := installed.nextChunk_empty g
  have released := installed.release g
  have again := svc.release_release t.source g
  generalize svc.source.release t.source g = gone at asked released again
  obtain ⟨spent, after⟩ := gone
  have nothing : counted 0 0 = 0 := rfl
  refine ⟨{ t.session id with
    phase := .completed, source := (svc.source.release spent after).1, ownsSlot := false,
    usage := none }, ?_, rfl⟩
  simp only [runOut, step, pull, Access.Transfer.session, empty, started, asked, complete,
    letGo, again, Chunk.last, settle, ↓reduceIte, Nat.lt_irrefl, List.length_nil, nothing,
    List.isEmpty_nil]
  rw [show after = _ from released]

/-- So its body is known at once. -/
theorem intoBody_empty (installed : svc.Installs t.source t.contentLength)
    (empty : t.contentLength = 0) (conn : Option ConnectionId) (id : SessionId)
    (g : Gateway World) :
    (t.session id).intoBody svc.source (host svc.countsUsage conn) 2 g =
      (none, (t.session id).settle (host svc.countsUsage conn) 0
        (g.withWorld (svc.returned t.source g.world))) := by
  obtain ⟨s, ran, completed⟩ := runOut_empty installed empty conn id g
  unfold intoBody
  rw [if_pos (show (t.session id).contentLength = 0 from empty), ran]
  simp only [drop, completed, Phase.isFinal, ↓reduceIte]

/-- Dropping a session that was never asked for anything. -/
theorem drop_fresh (installed : svc.Installs t.source t.contentLength)
    (conn : Option ConnectionId) (id : SessionId) (g : Gateway World) :
    (t.session id).drop svc.source (host svc.countsUsage conn) g =
      (host svc.countsUsage conn).aborted t.kind .disconnect
        ((host svc.countsUsage conn).restore id
          (g.withWorld (svc.returned t.source g.world))) := by
  have released := installed.release g
  simp [drop, abort, letGo, Access.Transfer.session, Phase.isFinal, released]

end Session

/-! ## Installed sessions -/

/-- The slot once it is taken over. -/
def Slot.taken (slot : Slot) (id : SessionId) : Slot :=
  { slot with owner := some id, takeovers := slot.takeovers + 1 }

/-- A counter of usage events. -/
def Counter.isUsage : Counter → Bool
  | usageEvents _ | usageBytes _ => true
  | _ => false

/-- Only a slot that dispatches is waited for no longer. -/
theorem Waiter.dispatching_of_poll {waiter : Waiter} {slot : Slot} (pending : waiter ≠ .done)
    (done : waiter.poll slot = .done) : slot.isDispatching = true := by
  cases waiter with
  | done => exact absurd rfl pending
  | idle | registered seen | parked seen => grind [poll, wake, register, look]

namespace Gateway

variable {State : Type}

@[simp] theorem events_takeOver (g : Gateway World) (conn : Option ConnectionId) (id : SessionId) :
    (g.takeOver conn id).events = g.events := by
  cases conn with
  | none => rfl
  | some c =>
    simp only [takeOver]
    split <;> rfl

@[simp] theorem metrics_takeOver (g : Gateway World) (conn : Option ConnectionId)
    (id : SessionId) : (g.takeOver conn id).metrics = g.metrics := by
  cases conn with
  | none => rfl
  | some c =>
    simp only [takeOver]
    split <;> rfl

/-- The gateway once the session of a transfer is installed on a connection. -/
def opened (g : Gateway World) (conn : Option ConnectionId) (t : Access.Transfer State) :
    Gateway World :=
  { g with nextSession := g.nextSession + 1 }.install conn (t.session g.nextSession)

variable {conn : Option ConnectionId} {t : Access.Transfer State} {g : Gateway World}

@[simp] theorem world_opened : (g.opened conn t).world = g.world := by
  simp [opened, install]

@[simp] theorem nextSession_opened : (g.opened conn t).nextSession = g.nextSession + 1 := by
  simp [opened, install]

@[simp] theorem events_opened : (g.opened conn t).events = g.events := by
  simp [opened, install]

@[simp] theorem metrics_opened : (g.opened conn t).metrics = g.metrics.started t.kind := by
  simp [opened, install, Access.Transfer.session]

/-- A connection that waits for nobody is taken over. -/
theorem slot_opened (free : ∀ c, conn = some c → (g.slot c).isDispatching = true)
    (c : ConnectionId) : (g.opened conn t).slot c =
      if conn = some c then (g.slot c).taken g.nextSession else g.slot c := by
  cases conn with
  | none => rfl
  | some d =>
    have taken : (g.slot d).tryTakeOver g.nextSession =
        some (⟨g.nextSession, false⟩, (g.slot d).taken g.nextSession) := by
      unfold Slot.tryTakeOver
      rw [if_pos (free d rfl)]
      rfl
    have same : ({ g with nextSession := g.nextSession + 1 } : Gateway World).slot d = g.slot d :=
      rfl
    have installed : (g.opened (some d) t).slot c =
        (g.setSlot d ((g.slot d).taken g.nextSession)).slot c := by
      simp only [opened, install, takeOver, Access.Transfer.session, same, taken]
      rfl
    rw [installed, slot_setSlot]
    by_cases here : d = c <;> simp [here]

/-! ## What the end of a session does -/

theorem count_emit (countsUsage : Bool) (conn : Option ConnectionId) (e : UsageEvent)
    (g : Gateway World) {c : Counter} (other : c.isUsage = false) :
    ((host countsUsage conn).emit e g).metrics.count c = g.metrics.count c := by
  show (if countsUsage then g.metrics.usage e else g.metrics).count c = _
  split
  · rw [Metrics.count_usage]
    cases c <;> simp_all [Counter.isUsage]
  · rfl

theorem metrics_restore (countsUsage : Bool) (conn : Option ConnectionId) (id : SessionId)
    (g : Gateway World) : ((host countsUsage conn).restore id g).metrics = g.metrics := by
  cases conn <;> rfl

/-- What completing a session does to the counters. -/
theorem count_settle (countsUsage : Bool) (conn : Option ConnectionId) (s : Session State)
    (bytes : Nat) (g : Gateway World) {c : Counter} (other : c.isUsage = false) :
    (s.settle (host countsUsage conn) bytes g).metrics.count c =
      (g.metrics.completed s.kind bytes).count c := by
  have completed : ((host countsUsage conn).completed s.kind bytes
      ((host countsUsage conn).restore s.id g)).metrics = g.metrics.completed s.kind bytes := by
    rw [← metrics_restore countsUsage conn s.id g]
    rfl
  unfold Session.settle
  cases s.usage with
  | none => exact congrArg (Metrics.count · c) completed
  | some e =>
    rw [← completed]
    exact count_emit countsUsage conn e _ other

theorem nextSession_settle (countsUsage : Bool) (conn : Option ConnectionId) (s : Session State)
    (bytes : Nat) (g : Gateway World) :
    (s.settle (host countsUsage conn) bytes g).nextSession = g.nextSession := by
  unfold Session.settle
  cases s.usage <;> cases conn <;> rfl

theorem nextSession_aborted (countsUsage : Bool) (conn : Option ConnectionId)
    (kind : TransferKind) (reason : AbortReason) (id : SessionId) (g : Gateway World) :
    ((host countsUsage conn).aborted kind reason
      ((host countsUsage conn).restore id g)).nextSession = g.nextSession := by
  cases conn <;> rfl

theorem world_settle (countsUsage : Bool) (conn : Option ConnectionId) (s : Session State)
    (bytes : Nat) (g : Gateway World) :
    (s.settle (host countsUsage conn) bytes g).world = g.world := by
  unfold Session.settle
  cases s.usage <;> cases conn <;> rfl

end Gateway

/-! ## Ends and answers -/

/-- What an end of a delivery comes to: the response and the gateway. -/
inductive Exit.Leaves (svc : Services World Handle File) (request : Request)
    (g : Gateway World) : Exit Handle File → Response (Delivering Handle File) →
      Gateway World → Prop
  | refused {e : AccessError} {r : Response (Delivering Handle File)} (status : r.status = e.status)
      (known : ∃ bytes, r.body = .known bytes) : Leaves svc request g (.refused e) r g
  | notModified {kind : TransferKind} {r : Response (Delivering Handle File)}
      (status : r.status = 304) (known : ∃ bytes, r.body = .known bytes) :
      Leaves svc request g (.notModified kind) r { g with metrics := g.metrics.notModified kind }
  | bare {status : Nat} {headers : List Header} {r : Response (Delivering Handle File)}
      (same : r.status = status) (known : ∃ bytes, r.body = .known bytes) :
      Leaves svc request g (.bare status headers) r g
  /-- The session is the body. -/
  | streaming {status : Nat} {headers : List Header}
      {t : Access.Transfer (Delivering Handle File)} {r : Response (Delivering Handle File)}
      (method : request.method ≠ .head) (announces : t.contentLength ≠ 0)
      (same : r.status = status)
      (body : r.body = .streamed request.connection (t.session g.nextSession)) :
      Leaves svc request g (.session status headers t) r (g.opened request.connection t)
  /-- The session has nothing to send and is over at once. -/
  | atOnce {status : Nat} {headers : List Header} {t : Access.Transfer (Delivering Handle File)}
      {r : Response (Delivering Handle File)} (empty : t.contentLength = 0)
      (same : r.status = status) (known : ∃ bytes, r.body = .known bytes) :
      Leaves svc request g (.session status headers t) r
        ((t.session g.nextSession).settle (Gateway.host svc.countsUsage request.connection) 0
          ((g.opened request.connection t).withWorld (svc.returned t.source g.world)))
  /-- The session is dropped with the body, which was not asked for. -/
  | dropped {status : Nat} {headers : List Header}
      {t : Access.Transfer (Delivering Handle File)} {r : Response (Delivering Handle File)}
      (method : request.method = .head) (announces : t.contentLength ≠ 0)
      (same : r.status = status) (known : ∃ bytes, r.body = .known bytes) :
      Leaves svc request g (.session status headers t) r
        ((Gateway.host svc.countsUsage request.connection).aborted t.kind .disconnect
          ((Gateway.host svc.countsUsage request.connection).restore g.nextSession
            ((g.opened request.connection t).withWorld (svc.returned t.source g.world))))

theorem Response.status_withLength {State : Type} (r : Response State) :
    r.withLength.status = r.status := by
  unfold withLength
  split
  · split <;> rfl
  · rfl

theorem Response.body_withLength {State : Type} (r : Response State) :
    r.withLength.body = r.body := by
  unfold withLength
  split
  · split <;> rfl
  · rfl

namespace Gateway

variable {request : Request} {route : Route} {g : Gateway World}

/-- What is left to do with a response to a request for a delivery. -/
def finish (svc : Services World Handle File) (request : Request)
    (fetched : Response (Delivering Handle File) × Gateway World) :
    Response (Delivering Handle File) × Gateway World :=
  if request.method = .head then withoutBody svc fetched.1.withLength fetched.2
  else (fetched.1.withLength, fetched.2)

theorem isOpen_of_isDelivery (delivery : isDelivery route.resource = true) :
    isOpen route.resource = false := by
  cases resource : route.resource <;> rw [resource] at delivery <;> first | rfl | cases delivery

theorem respond_eq (delivery : isDelivery route.resource = true) (g : Gateway World)
    (asked : request.method = .get ∨ request.method = .head) :
    respond svc route request g = finish svc request (fetch svc route request g) := by
  unfold respond finish
  rcases asked with method | method <;> simp [method, isOpen_of_isDelivery delivery]

/-- A delivery can only be got. -/
theorem respond_declined (svc : Services World Handle File) (g : Gateway World)
    (delivery : isDelivery route.resource = true)
    (asked : ¬(request.method = .get ∨ request.method = .head)) :
    ∃ r : Response (Delivering Handle File), respond svc route request g = (r, g) ∧
      400 ≤ r.status ∧ ∃ bytes, r.body = .known bytes := by
  refine ⟨(Response.bare 405 [allowed]).withLength, ?_, ?_, [], Response.body_withLength _⟩
  · unfold respond
    rw [isOpen_of_isDelivery delivery]
    cases method : request.method with
    | get => exact absurd (.inl method) asked
    | head => exact absurd (.inr method) asked
    | options | other name => rfl
  · rw [Response.status_withLength]
    exact (by decide : 400 ≤ 405)

/-- Nothing is left to do with a known body. -/
theorem finish_known (svc : Services World Handle File) (request : Request)
    {r : Response (Delivering Handle File)} {bytes : Bytes}
    (known : r.body = .known bytes) (g : Gateway World) :
    ∃ r', finish svc request (r, g) = (r', g) ∧ r'.status = r.status ∧
      ∃ bytes, r'.body = .known bytes := by
  have body : r.withLength.body = .known bytes := r.body_withLength.trans known
  unfold finish
  split
  · refine ⟨{ r.withLength with body := .known [] }, ?_, r.status_withLength, [], rfl⟩
    simp [withoutBody, body, Body.drop]
  · exact ⟨_, rfl, r.status_withLength, bytes, body⟩

/-- What starting a session comes to. -/
theorem run_startSession_eq (svc : Services World Handle File) (conn : Option ConnectionId)
    (status : Nat) (headers : List Header) (t : Access.Transfer (Delivering Handle File))
    (g : Gateway World) :
    (Access.startSession svc conn status headers t).run g =
      (let (left, g') := (t.session g.nextSession).intoBody svc.source
        (host svc.countsUsage conn) 2 (g.opened conn t)
      (.ok ⟨status, headers, left.elim (.known []) (.streamed conn)⟩, g')) := rfl

/-- How an end leaves the gateway, with what is left to do. -/
theorem leaves_exit (request : Request) (exit : Exit Handle File)
    (installed : ∀ status headers t, exit = .session status headers t →
      svc.Installs t.source t.contentLength) (g : Gateway World) :
    let (r, g') := finish svc request (settle (exit.access svc request.connection) g)
    exit.Leaves svc request g r g' := by
  have simple {r : Response (Delivering Handle File)} {g' : Gateway World} {bytes : Bytes}
      (settled : settle (exit.access svc request.connection) g = (r, g'))
      (known : r.body = .known bytes)
      (leaves : ∀ r' : Response (Delivering Handle File), r'.status = r.status →
        (∃ bytes, r'.body = .known bytes) → exit.Leaves svc request g r' g') :
      let (r, g') := finish svc request (settle (exit.access svc request.connection) g)
      exit.Leaves svc request g r g' := by
    obtain ⟨r', finished, status, body⟩ := finish_known svc request known g'
    rw [settled, finished]
    exact leaves r' status body
  cases exit with
  | refused e => exact simple rfl rfl fun r' status known => .refused status known
  | notModified kind => exact simple rfl rfl fun r' status known => .notModified status known
  | bare status headers => exact simple rfl rfl fun r' same known => .bare same known
  | session status headers t =>
    have installed := installed status headers t rfl
    have ran := run_startSession_eq svc request.connection status headers t g
    by_cases empty : t.contentLength = 0
    · rw [Session.intoBody_empty installed empty, world_opened] at ran
      refine simple (r := ⟨status, headers, .known []⟩) ?_ rfl
        fun r' same known => .atOnce empty same known
      simp only [settle, Exit.access, ran]
      rfl
    · have kept : (t.session g.nextSession).intoBody svc.source
          (host svc.countsUsage request.connection) 2 (g.opened request.connection t) =
            (some (t.session g.nextSession), g.opened request.connection t) := by
        unfold Session.intoBody
        rw [if_neg (show ¬(t.session g.nextSession).contentLength = 0 from empty)]
      rw [kept] at ran
      simp only [settle, Exit.access, ran, finish]
      split
      · rename_i method
        have dropped := Session.drop_fresh installed request.connection g.nextSession
          (g.opened request.connection t)
        rw [world_opened] at dropped
        simp only [withoutBody, Response.body_withLength, Option.elim, Body.drop, dropped]
        exact .dropped method empty (Response.status_withLength _) ⟨[], rfl⟩
      · rename_i method
        exact .streaming method empty (Response.status_withLength _)
          (Response.body_withLength _)

/-- How a request for a delivery is answered. -/
inductive Answered (svc : Services World Handle File) (route : Route) (request : Request)
    (g : Gateway World) : Response (Delivering Handle File) → Gateway World → Prop
  /-- The method is not allowed, or a parameter is no text. -/
  | declined {r : Response (Delivering Handle File)} (status : 400 ≤ r.status)
      (known : ∃ bytes, r.body = .known bytes) : Answered svc route request g r g
  | ended {token : String} {rest : List String} {errands : List Errand} {w : World}
      {exit : Exit Handle File} {r : Response (Delivering Handle File)} {g' : Gateway World}
      (decoded : Route.decodeParams route.params = .ok (token :: rest))
      (runs : svc.Runs g.world errands w)
      (ends : svc.Ends route.resource request token w errands exit)
      (leaves : exit.Leaves svc request (g.withWorld w) r g') :
      Answered svc route request g r g'

theorem Answered.of_endsIn {token : String} {rest : List String}
    {act : Access World (Response (Delivering Handle File))}
    (decoded : Route.decodeParams route.params = .ok (token :: rest))
    (endsIn : Access.EndsIn svc request.connection act g fun errands w =>
      svc.Ends route.resource request token w errands) :
    let (r, g') := finish svc request (settle act g)
    Answered svc route request g r g' := by
  obtain ⟨errands, w, exit, runs, ran, ends⟩ := endsIn
  have installed : ∀ status headers t, exit = .session status headers t →
      svc.Installs t.source t.contentLength := by
    intro status headers t same
    subst same
    cases ends with
    | session _ _ deals => exact deals.installs
  have leaves := leaves_exit request exit installed (g.withWorld w)
  have settled : settle act g = settle (exit.access svc request.connection) (g.withWorld w) := by
    unfold settle
    rw [ran]
  rw [settled]
  exact .ended decoded runs ends leaves

/-- The parameters that a resource has in a path. -/
def arity : Resource → Nat
  | .file | .block => 2
  | .archive => 1
  | _ => 0

theorem length_params {target : String} (routed : Route.ofTarget? target = some route) :
    route.params.length = arity route.resource := by
  unfold Route.ofTarget? at routed
  split at routed <;> (try split at routed) <;> cases routed <;> rfl

theorem length_decodeParams {params : List (String × String)} {texts : List String}
    (decoded : Route.decodeParams params = .ok texts) : texts.length = params.length := by
  induction params generalizing texts with
  | nil =>
    cases decoded
    rfl
  | cons p params ih =>
    unfold Route.decodeParams at decoded
    split at decoded
    · cases decoded
    · cases rest : Route.decodeParams params with
      | error name => rw [rest] at decoded; cases decoded
      | ok more =>
        rw [rest] at decoded
        cases decoded
        simp [ih rest]

/-- A request for a delivery is answered in one of these ways. -/
theorem answered_respond (svc : Services World Handle File)
    (routed : Route.ofTarget? request.target = some route)
    (delivery : isDelivery route.resource = true) (g : Gateway World) :
    let (r, g') := respond svc route request g
    Answered svc route request g r g' := by
  by_cases asked : request.method = .get ∨ request.method = .head
  · rw [respond_eq delivery g asked]
    unfold fetch
    cases decoded : Route.decodeParams route.params with
    | error name =>
      obtain ⟨r, finished, status, known⟩ := finish_known svc request
        (r := badParameter name) rfl g
      simp only [finished]
      exact .declined (status ▸ Nat.le_refl 400) known
    | ok texts =>
      have count := (length_decodeParams decoded).trans (length_params routed)
      cases resource : route.resource with
      | file =>
        rw [resource] at count
        obtain ⟨token, name, rfl⟩ := List.length_eq_two.1 count
        refine .of_endsIn decoded ?_
        rw [resource]
        exact Access.ends_file request token name g
      | block =>
        rw [resource] at count
        obtain ⟨token, id, rfl⟩ := List.length_eq_two.1 count
        refine .of_endsIn decoded ?_
        rw [resource]
        exact Access.ends_block request token id g
      | archive =>
        rw [resource] at count
        obtain ⟨token, rfl⟩ := List.length_eq_one_iff.1 count
        refine .of_endsIn decoded ?_
        rw [resource]
        exact Access.ends_archive request token g
      | health | version | metrics =>
        rw [resource] at delivery
        cases delivery
  · obtain ⟨r, responded, status, known⟩ := respond_declined svc g delivery asked
    rw [responded]
    exact .declined status known

/-- A request for a delivery waits for its connection. -/
theorem awaited_delivery (delivery : isDelivery route.resource = true) :
    awaited route request = request.connection := by
  unfold awaited
  rw [if_neg fun metrics => by rw [metrics] at delivery; cases delivery]

/-- A request for a delivery is answered once its waiting is done. -/
theorem answered_of_poll (routed : Route.ofTarget? request.target = some route)
    (delivery : isDelivery route.resource = true) {waiter : Waiter} {g' : Gateway World}
    {r : Response (Delivering Handle File)}
    (answered : poll svc ⟨request, waiter⟩ g = (.ready r, g')) :
    Answered svc route request g r g' ∧
      ∀ c, request.connection = some c → waiter.poll (g.slot c) = .done := by
  have responds := answered_respond svc routed delivery g
  unfold poll at answered
  simp only [routed, awaited_delivery delivery] at answered
  cases connection : request.connection with
  | none =>
    rw [connection] at answered
    cases answered
    exact ⟨responds, fun c owned => by cases owned⟩
  | some conn =>
    simp only [connection] at answered
    cases done : waiter.poll (g.slot conn) with
    | done =>
      rw [done] at answered
      cases answered
      refine ⟨responds, fun c owned => ?_⟩
      cases owned
      exact done
    | idle | registered seen | parked seen =>
      rw [done] at answered
      cases answered

end Gateway

end StreamGate
