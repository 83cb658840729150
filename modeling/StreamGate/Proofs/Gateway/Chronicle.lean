import StreamGate.Proofs.Gateway.Bookkeeping

/-!
# Whole runs

What becomes of the sessions over a run of the gateway, whatever its clients do and
whatever happens to the world meanwhile.

* `Request.Opens`: the sessions that taking up a request starts.
* `Run.Writes`: what an action of a client notes.
* `Run.Chronicle`: what a run notes.
* `Run.Balanced`: counters, events and living sessions agree with what was noted.
* `Run.books_balance`: they do, after every run.
-/

namespace StreamGate

variable {World Handle File : Type}

/-! ## Requests -/

/-- The transfer that a deal is delivered by. -/
def Deal.transfer {State : Type} (deal : Deal) (source : State) : Access.Transfer State where
  kind := deal.kind
  source := source
  contentLength := deal.length
  usage := deal.usage

/-- The session of an answer, if it is under way. -/
def Answer.live {State : Type} : Answer State → List (Session State)
  | waiting _ => []
  | ready r => r.body.live

namespace Request

/-- A request gets a session for a deal. -/
inductive Starts (svc : Services World Handle File) (request : Request) (w : World) (deal : Deal)
    (source : Delivering Handle File) : Prop
  | of {route : Route} {token : String} {rest : List String} {errands : List Errand} {w' : World}
      (routed : Route.ofTarget? request.target = some route)
      (decoded : Route.decodeParams route.params = .ok (token :: rest))
      (delivers : deal.kind.resource = route.resource) (runs : svc.Runs w errands w')
      (deals : svc.Deals request token w' errands deal source) : Starts svc request w deal source

/-- What taking up a request notes when the next session gets the number `id`: the answer, the
next number afterwards and the entries. -/
inductive Opens (svc : Services World Handle File) (request : Request) (w : World)
    (id : SessionId) : Answer (Delivering Handle File) → SessionId → List Booking → Prop
  | nothing {a : Answer (Delivering Handle File)} (none : a.live = []) :
      Opens svc request w id a id []
  | streams {deal : Deal} {source : Delivering Handle File} {a : Answer (Delivering Handle File)}
      (starts : request.Starts svc w deal source) (method : request.method ≠ .head)
      (announces : deal.length ≠ 0) (live : a.live = [(deal.transfer source).session id]) :
      Opens svc request w id a (id + 1) [⟨id, deal, .started⟩]
  /-- The session has nothing to send and is run to its end. -/
  | atOnce {deal : Deal} {source : Delivering Handle File} {a : Answer (Delivering Handle File)}
      (starts : request.Starts svc w deal source) (empty : deal.length = 0)
      (ends : ∀ g, (((deal.transfer source).session id).runOut svc.source
        (Gateway.host svc.countsUsage request.connection) 2 g).1.phase = .completed)
      (none : a.live = []) :
      Opens svc request w id a (id + 1) [⟨id, deal, .started⟩, ⟨id, deal, .completed⟩]
  /-- Nobody reads the body, so it is dropped. -/
  | dropped {deal : Deal} {source : Delivering Handle File} {a : Answer (Delivering Handle File)}
      (starts : request.Starts svc w deal source) (method : request.method = .head)
      (announces : deal.length ≠ 0) (none : a.live = []) :
      Opens svc request w id a (id + 1) [⟨id, deal, .started⟩, ⟨id, deal, .aborted .disconnect⟩]

end Request

namespace Gateway

variable {svc : Services World Handle File} {request : Request} {route : Route}

/-- A request for anything but a delivery changes nothing. -/
theorem respond_other (svc : Services World Handle File) (request : Request)
    (other : isDelivery route.resource = false) (g : Gateway World) :
    ∃ r, respond svc route request g = (r, g) ∧ ∃ bytes, r.body = .known bytes := by
  have fetched : ∃ r, fetch svc route request g = (r, g) ∧ ∃ bytes, r.body = .known bytes := by
    unfold fetch
    cases Route.decodeParams route.params with
    | error name => exact ⟨_, rfl, _, rfl⟩
    | ok texts =>
      cases resource : route.resource <;> rw [resource] at other <;>
        first | exact ⟨_, rfl, _, rfl⟩ | cases other
  obtain ⟨r, fetched, bytes, known⟩ := fetched
  unfold respond
  cases request.method with
  | get =>
    rw [fetched]
    exact ⟨_, rfl, bytes, (Response.body_withLength _).trans known⟩
  | head =>
    simp only [fetched, withoutBody, Response.body_withLength, known, Body.drop]
    exact ⟨_, rfl, _, rfl⟩
  | options =>
    dsimp only
    split <;> exact ⟨_, rfl, _, Response.body_withLength _⟩
  | other name => exact ⟨_, rfl, _, Response.body_withLength _⟩

/-- A request that is looked for is answered or left alone. -/
theorem responds_of_poll (svc : Services World Handle File) (w : Waiting) (g : Gateway World) :
    (∃ route, Route.ofTarget? w.request.target = some route ∧
      poll svc w g = (.ready (respond svc route w.request g).1,
        (respond svc route w.request g).2)) ∨
    ∃ a, poll svc w g = (a, g) ∧ a.live = [] := by
  unfold poll
  cases routed : Route.ofTarget? w.request.target with
  | none => exact .inr ⟨_, rfl, Body.live_known ⟨[], Response.body_withLength (.bare 404 [])⟩⟩
  | some route =>
    cases waits : awaited route w.request with
    | none => exact .inl ⟨route, rfl, by simp only [waits]⟩
    | some conn =>
      simp only [waits]
      cases w.waiter.poll (g.slot conn) with
      | done => exact .inl ⟨route, rfl, rfl⟩
      | idle | registered | parked => exact .inr ⟨_, rfl, rfl⟩

end Gateway

namespace Booked

open Gateway

variable {svc : Services World Handle File} {request : Request} {route : Route}
  {log : List Booking} {live : List (Session (Delivering Handle File))} {g g' : Gateway World}
  {r : Response (Delivering Handle File)}

/-- The answer comes with no session. -/
theorem quiet {a : Answer (Delivering Handle File)} (booked : Booked log live g')
    (none : a.live = []) (w : World) :
    ∃ entries, request.Opens svc w g'.nextSession a g'.nextSession entries ∧
      Booked (log ++ entries) (a.live ++ live) g' :=
  ⟨[], .nothing none, by rwa [none, List.append_nil]⟩

/-- The answer comes with a session, which is under way or over at once. -/
theorem withSession {deal : Deal} {source : Delivering Handle File} {status : Nat}
    {headers : List Header} (booked : Booked log live g) {w : World}
    (starts : request.Starts svc w deal source) (installed : svc.Installs source deal.length)
    (leaves : (Exit.session status headers (deal.transfer source)).Leaves svc request g r g') :
    ∃ entries, request.Opens svc w g.nextSession (.ready r) g'.nextSession entries ∧
      Booked (log ++ entries) (r.body.live ++ live) g' := by
  have opened : Booked (log ++ [⟨g.nextSession, deal, .started⟩])
      ((deal.transfer source).session g.nextSession :: live)
      (g.opened request.connection (deal.transfer source)) :=
    booked.opened request.connection ⟨rfl, rfl, rfl⟩
  have started : (⟨g.nextSession, deal, .started⟩ : Booking) ∈
      log ++ [⟨g.nextSession, deal, .started⟩] := by simp
  have released : Booked (log ++ [⟨g.nextSession, deal, .started⟩])
      ((deal.transfer source).session g.nextSession :: live)
      ((g.opened request.connection (deal.transfer source)).withWorld
        (svc.returned source g.world)) := opened.aside rfl
  have next : ((g.opened request.connection (deal.transfer source)).withWorld
      (svc.returned source g.world)).nextSession = g.nextSession + 1 := nextSession_opened
  cases leaves with
  | streaming method announces same body =>
    have streams : r.body.live = [(deal.transfer source).session g.nextSession] := by
      rw [body]
      rfl
    refine ⟨[⟨g.nextSession, deal, .started⟩], ?_, streams ▸ opened⟩
    rw [nextSession_opened]
    exact .streams starts method announces streams
  | atOnce empty same known =>
    have none := Body.live_known known
    have noted := released.completed svc.countsUsage request.connection started ⟨rfl, rfl, rfl⟩
    rw [List.append_assoc, show ((deal.transfer source).session g.nextSession).contentLength = 0
      from empty] at noted
    refine ⟨[⟨g.nextSession, deal, .started⟩, ⟨g.nextSession, deal, .completed⟩], ?_, none ▸ noted⟩
    rw [nextSession_settle]
    refine next ▸ .atOnce starts empty (fun g₁ => ?_) none
    obtain ⟨s, ran, phase⟩ := Session.runOut_empty (t := deal.transfer source) installed empty
      request.connection g.nextSession g₁
    rw [ran]
    exact phase
  | dropped method announces same known =>
    have none := Body.live_known known
    have noted := released.aborted svc.countsUsage request.connection .disconnect started
      ⟨rfl, rfl, rfl⟩
    rw [List.append_assoc] at noted
    refine ⟨[⟨g.nextSession, deal, .started⟩, ⟨g.nextSession, deal, .aborted .disconnect⟩], ?_,
      none ▸ noted⟩
    rw [nextSession_aborted]
    exact next ▸ .dropped starts method announces none

/-- A request for a delivery is answered. -/
theorem answered (booked : Booked log live g)
    (routed : Route.ofTarget? request.target = some route)
    (answered : Answered svc route request g r g') :
    ∃ entries, request.Opens svc g.world g.nextSession (.ready r) g'.nextSession entries ∧
      Booked (log ++ entries) (r.body.live ++ live) g' := by
  have none (known : ∃ bytes, r.body = .known bytes) : (Answer.ready r).live = [] :=
    Body.live_known known
  cases answered with
  | declined status known => exact booked.quiet (none known) g.world
  | @ended token rest errands w exit _ _ decoded runs ends leaves =>
    have aside : Booked log live (g.withWorld w) := booked.aside rfl
    cases exit with
    | refused | bare =>
      cases leaves with | _ _ known => exact aside.quiet (none known) g.world
    | notModified kind =>
      cases leaves with | notModified status known =>
      have counted : Booked log live
          { g.withWorld w with metrics := (g.withWorld w).metrics.notModified kind } := by
        refine aside.keep rfl (fun c transfer => ?_) rfl
        rw [Metrics.count_notModified, if_neg (by rintro rfl; cases transfer)]
        rfl
      exact counted.quiet (none known) g.world
    | session =>
      cases ends with | session headers delivers deals =>
      exact aside.withSession ⟨routed, decoded, delivers, runs, deals⟩ deals.installs leaves

variable (svc)

/-- A request is answered. -/
theorem responded (booked : Booked log live g)
    (routed : Route.ofTarget? request.target = some route) :
    let (r, g') := respond svc route request g
    ∃ entries, request.Opens svc g.world g.nextSession (.ready r) g'.nextSession entries ∧
      Booked (log ++ entries) (r.body.live ++ live) g' := by
  cases delivery : isDelivery route.resource with
  | true => exact booked.answered routed (answered_respond svc routed delivery g)
  | false =>
    obtain ⟨r, responded, known⟩ := respond_other svc request delivery g
    rw [responded]
    exact booked.quiet (a := .ready r) (Body.live_known known) g.world

/-- A client looks for the answer to a request. -/
theorem poll (booked : Booked log live g) (w : Waiting) :
    let (a, g') := Gateway.poll svc w g
    ∃ entries, w.request.Opens svc g.world g.nextSession a g'.nextSession entries ∧
      Booked (log ++ entries) (a.live ++ live) g' := by
  obtain ⟨route, routed, same⟩ | ⟨a, same, none⟩ := responds_of_poll svc w g
  · rw [same]
    exact booked.responded svc routed
  · rw [same]
    exact booked.quiet none g.world

/-- A client sends a request. -/
theorem send (booked : Booked log live g) (request : Request) :
    let (a, g') := Gateway.send svc request g
    ∃ entries, request.Opens svc g.world g.nextSession a g'.nextSession entries ∧
      Booked (log ++ entries) (a.live ++ live) g' := by
  have touched : ∃ g', request.connection.elim g g.touch = g' ∧ g'.world = g.world ∧
      g'.nextSession = g.nextSession ∧ Booked log live g' := by
    cases request.connection with
    | none => exact ⟨g, rfl, rfl, rfl, booked⟩
    | some conn => exact ⟨_, rfl, rfl, rfl, booked.keep rfl (fun _ _ => rfl) rfl⟩
  obtain ⟨g', touched, world, nextSession, booked⟩ := touched
  have polled := booked.poll svc { request }
  rw [world, nextSession] at polled
  unfold Gateway.send
  rwa [touched]

end Booked

/-! ## Actions -/

/-- What is noted when what was held under a name is dropped. -/
inductive Answer.Drops {State : Type} (log : List Booking) :
    Option (Answer State) → List Booking → Prop
  | nothing : Drops log none []
  | waiting (w : Waiting) : Drops log (some (.waiting w)) []
  | ready {r : Response State} {entries : List Booking} (drops : r.body.Drops log entries) :
      Drops log (some (.ready r)) entries

namespace Run

variable {svc : Services World Handle File} {log : List Booking} {r : Run World Handle File}

/-- The sessions under way. -/
def live (r : Run World Handle File) : List (Session (Delivering Handle File)) :=
  r.held.collect Answer.live

/-- What an action notes. -/
inductive Writes (svc : Services World Handle File) (log : List Booking)
    (r : Run World Handle File) : Action → List Booking → Prop
  | send {name : String} {request : Request} {opened dropped : List Booking}
      (opens : request.Opens svc r.gateway.world r.gateway.nextSession
        (Gateway.send svc request r.gateway).1 (Gateway.send svc request r.gateway).2.nextSession
        opened)
      (drops : Answer.Drops (log ++ opened) (r.held.get? name) dropped) :
      Writes svc log r (.send name request) (opened ++ dropped)
  | poll {name : String} {w : Waiting} {opened : List Booking}
      (held : r.held.get? name = some (.waiting w))
      (opens : w.request.Opens svc r.gateway.world r.gateway.nextSession
        (Gateway.poll svc w r.gateway).1 (Gateway.poll svc w r.gateway).2.nextSession opened) :
      Writes svc log r (.poll name) opened
  | take {name : String} {response : Response (Delivering Handle File)} {entries : List Booking}
      (held : r.held.get? name = some (.ready response))
      (passes : response.body.Passes log (response.body.next svc r.gateway).2.1 entries) :
      Writes svc log r (.take name) entries
  | read {name : String} {response : Response (Delivering Handle File)} {entries : List Booking}
      (held : r.held.get? name = some (.ready response))
      (passes : response.body.Passes log (response.body.readAll svc r.gateway).2.1 entries) :
      Writes svc log r (.read name) entries
  | drop {name : String} {entries : List Booking}
      (drops : Answer.Drops log (r.held.get? name) entries) :
      Writes svc log r (.drop name) entries
  /-- There is no request to look for. -/
  | noRequest {name : String} (nothing : ∀ w, r.held.get? name ≠ some (.waiting w)) :
      Writes svc log r (.poll name) []
  /-- There is no body to read. -/
  | noBody {name : String} {action : Action} (reads : action = .take name ∨ action = .read name)
      (nothing : ∀ response, r.held.get? name ≠ some (.ready response)) :
      Writes svc log r action []

/-- A log accounts for everything that the clients hold. -/
structure Recorded (log : List Booking) (r : Run World Handle File) : Prop where
  booked : Booked log r.live r.gateway
  distinct : r.held.Distinct

/-- What was held under a name is dropped, whatever else is alive. -/
theorem drop_booked (svc : Services World Handle File) (name : String)
    (more : List (Session (Delivering Handle File))) (distinct : r.held.Distinct)
    (booked : Booked log (more ++ r.live) r.gateway) :
    ∃ entries, Answer.Drops log (r.held.get? name) entries ∧
      Booked (log ++ entries) (more ++ (r.drop svc name).live) (r.drop svc name).gateway := by
  unfold drop
  cases held : r.held.get? name with
  | none =>
    refine ⟨[], .nothing, ?_⟩
    rw [List.append_nil, live, Table.erase_of_get?_none held]
    exact booked
  | some a =>
    have split := Table.perm_erase Answer.live distinct held
    cases a with
    | waiting w =>
      refine ⟨[], .waiting w, ?_⟩
      rw [List.append_nil]
      exact booked.perm (split.symm.append_left more)
    | ready response =>
      have out : (response.body.live ++ (more ++ (r.held.erase name).collect Answer.live)).Perm
          (more ++ r.live) :=
        (List.perm_append_comm_assoc ..).trans (split.symm.append_left more)
      obtain ⟨entries, drops, booked⟩ := (booked.perm out).drop svc
      exact ⟨entries, .ready drops, booked⟩

/-- What is held under a known name may change for what the log accounts for. -/
theorem Recorded.change (recorded : r.Recorded log) {name : String}
    {a : Answer (Delivering Handle File)} (held : r.held.get? name = some a) :
    ∃ rest, Booked log (a.live ++ rest) r.gateway ∧
      ∀ {log' : List Booking} {a' : Answer (Delivering Handle File)} {g' : Gateway World},
        Booked log' (a'.live ++ rest) g' →
          Recorded log' { gateway := g', held := r.held.insert name a' } := by
  obtain ⟨rest, before, after⟩ := Table.exists_rest Answer.live held
  exact ⟨rest, recorded.booked.perm before.symm,
    fun booked => ⟨booked.perm (after _), recorded.distinct.insert name _⟩⟩

/-- What is held under a name gives way to an answer. -/
theorem Recorded.hold (svc : Services World Handle File) (name : String)
    {a : Answer (Delivering Handle File)} (distinct : r.held.Distinct)
    (booked : Booked log (a.live ++ r.live) r.gateway) :
    ∃ entries, Answer.Drops log (r.held.get? name) entries ∧
      Recorded (log ++ entries) (r.hold svc name a) := by
  obtain ⟨entries, drops, booked⟩ := drop_booked svc name a.live distinct booked
  have new : (r.held.erase name).get? name = none := by simp [Table.get?_erase]
  exact ⟨entries, drops, booked.perm (Table.perm_insert Answer.live new a),
    (distinct.erase name).insert name a⟩

theorem onBody_of_nothing {name : String}
    (nothing : ∀ response, r.held.get? name ≠ some (.ready response))
    (f : Body (Delivering Handle File) → Gateway World →
      Reply (Delivering Handle File) × Body (Delivering Handle File) × Gateway World) :
    (r.onBody name f).2 = r := by
  unfold onBody
  split
  · rename_i response held
    exact absurd held (nothing response)
  · rfl

/-- A body is read on. -/
theorem Recorded.onBody (recorded : r.Recorded log) {name : String}
    {response : Response (Delivering Handle File)}
    (held : r.held.get? name = some (.ready response))
    (f : Body (Delivering Handle File) → Gateway World →
      Reply (Delivering Handle File) × Body (Delivering Handle File) × Gateway World)
    (reads : ∀ rest, Booked log (response.body.live ++ rest) r.gateway →
      ∃ entries, response.body.Passes log (f response.body r.gateway).2.1 entries ∧
        Booked (log ++ entries) ((f response.body r.gateway).2.1.live ++ rest)
          (f response.body r.gateway).2.2) :
    ∃ entries, response.body.Passes log (f response.body r.gateway).2.1 entries ∧
      Recorded (log ++ entries) (r.onBody name f).2 := by
  obtain ⟨rest, booked, changes⟩ := recorded.change held
  obtain ⟨entries, passes, booked⟩ := reads rest booked
  refine ⟨entries, passes, ?_⟩
  unfold Run.onBody
  simp only [held]
  exact changes booked

/-- An action is noted. -/
theorem Recorded.act (svc : Services World Handle File) (recorded : r.Recorded log)
    (action : Action) :
    ∃ entries, r.Writes svc log action entries ∧
      Recorded (log ++ entries) (r.act svc action).2 := by
  have quiet {r' : Run World Handle File} (same : r' = r) : Recorded (log ++ []) r' := by
    rwa [List.append_nil, same]
  cases action with
  | send name request =>
    obtain ⟨opened, opens, booked⟩ := recorded.booked.send svc request
    obtain ⟨dropped, drops, recorded⟩ := Recorded.hold svc name
      (r := { r with gateway := (Gateway.send svc request r.gateway).2 }) recorded.distinct booked
    exact ⟨opened ++ dropped, .send opens drops, by rwa [← List.append_assoc]⟩
  | poll name =>
    cases held : r.held.get? name with
    | none => exact ⟨[], .noRequest (by simp [held]), quiet (by simp [Run.act, held])⟩
    | some a =>
      cases a with
      | ready response =>
        exact ⟨[], .noRequest (by simp [held]), quiet (by simp [Run.act, held])⟩
      | waiting w =>
        obtain ⟨rest, booked, changes⟩ := recorded.change held
        obtain ⟨opened, opens, booked⟩ := booked.poll svc w
        refine ⟨opened, .poll held opens, ?_⟩
        simp only [Run.act, held]
        exact changes booked
  | take name =>
    by_cases found : ∃ response, r.held.get? name = some (.ready response)
    · obtain ⟨response, held⟩ := found
      obtain ⟨entries, passes, recorded⟩ :=
        recorded.onBody held (fun b g => (.frame (b.next svc g).1, (b.next svc g).2))
          fun rest booked => booked.next svc
      exact ⟨entries, .take held passes, recorded⟩
    · have nothing := not_exists.1 found
      exact ⟨[], .noBody (.inl rfl) nothing, quiet (onBody_of_nothing nothing _)⟩
  | read name =>
    by_cases found : ∃ response, r.held.get? name = some (.ready response)
    · obtain ⟨response, held⟩ := found
      obtain ⟨entries, passes, recorded⟩ :=
        recorded.onBody held (fun b g => (.rest (b.readAll svc g).1, (b.readAll svc g).2))
          fun rest booked => booked.readUpTo svc _
      exact ⟨entries, .read held passes, recorded⟩
    · have nothing := not_exists.1 found
      exact ⟨[], .noBody (.inr rfl) nothing, quiet (onBody_of_nothing nothing _)⟩
  | drop name =>
    obtain ⟨entries, drops, booked⟩ := drop_booked svc name [] recorded.distinct recorded.booked
    exact ⟨entries, .drop drops, booked, recorded.distinct.erase name⟩

/-! ## Runs -/

/-- What happens to a gateway: a client acts, or something else changes the world. -/
inductive Move (World : Type) where
  | acts (action : Action)
  | changes (w : World)

/-- A gateway that was just started. -/
def fresh (w : World) : Run World Handle File := { gateway := { world := w } }

/-- What a move makes of a run. -/
def step (svc : Services World Handle File) (r : Run World Handle File) :
    Move World → Run World Handle File
  | .acts action => (r.act svc action).2
  | .changes w => { r with gateway := r.gateway.withWorld w }

/-- What moves make of a run, one after another. -/
def after (svc : Services World Handle File) (moves : List (Move World))
    (r : Run World Handle File) : Run World Handle File :=
  moves.foldl (step svc) r

/-- What a run notes: the log grows from move to move. -/
inductive Chronicle (svc : Services World Handle File) :
    List Booking → Run World Handle File → List (Move World) → List Booking → Prop
  | nil (log : List Booking) (r : Run World Handle File) : Chronicle svc log r [] log
  | acts {log log' entries : List Booking} {r : Run World Handle File} {action : Action}
      {moves : List (Move World)} (writes : r.Writes svc log action entries)
      (rest : Chronicle svc (log ++ entries) (r.step svc (.acts action)) moves log') :
      Chronicle svc log r (.acts action :: moves) log'
  | changes {log log' : List Booking} {r : Run World Handle File} {w : World}
      {moves : List (Move World)}
      (rest : Chronicle svc log (r.step svc (.changes w)) moves log') :
      Chronicle svc log r (.changes w :: moves) log'

theorem recorded_fresh (w : World) : Recorded [] (fresh w : Run World Handle File) where
  booked := by
    refine ⟨⟨by simp [live, fresh, Table.collect], by simp, ?_, by simp, by simp⟩, ?_, rfl⟩
    · simp [live, fresh, Table.collect]
    · intro c _
      rfl
  distinct := List.nodup_nil

/-- A run is noted. -/
theorem Recorded.after (svc : Services World Handle File) (recorded : r.Recorded log)
    (moves : List (Move World)) :
    ∃ log', Chronicle svc log r moves log' ∧ (r.after svc moves).Recorded log' := by
  induction moves generalizing log r with
  | nil => exact ⟨log, .nil log r, recorded⟩
  | cons move moves ih =>
    cases move with
    | acts action =>
      obtain ⟨entries, writes, recorded⟩ := recorded.act svc action
      obtain ⟨log', rest, recorded⟩ := ih recorded
      exact ⟨log', .acts writes rest, recorded⟩
    | changes w =>
      have recorded : (r.step svc (.changes w)).Recorded log :=
        ⟨recorded.booked.aside rfl, recorded.distinct⟩
      obtain ⟨log', rest, recorded⟩ := ih recorded
      exact ⟨log', .changes rest, recorded⟩

/-! ## Balance -/

/-- Counters, events and the sessions under way agree with a log. -/
structure Balanced (log : List Booking) (r : Run World Handle File) : Prop where
  /-- A session under way delivers what it was started for. -/
  alive : ∀ s ∈ r.live, s.Alive log
  /-- What is noted of a session is noted for the deal that it was started for. -/
  paired : ∀ b ∈ log, ⟨b.session, b.deal, .started⟩ ∈ log
  /-- A session that was started is over or under way. -/
  sessions : ((log.filter Booking.isStart).map Booking.session).Perm
    ((log.filter fun b => !b.isStart).map Booking.session ++ r.live.map Session.id)
  once : ((log.filter Booking.isStart).map Booking.session).Nodup
  started : ∀ kind, r.gateway.metrics.count (.transfersStarted kind) =
    log.countP (Booking.notes .started kind)
  completed : ∀ kind, r.gateway.metrics.count (.transfersCompleted kind) =
    log.countP (Booking.notes .completed kind)
  aborted : ∀ kind reason, r.gateway.metrics.count (.transfersAborted kind reason) =
    log.countP (Booking.notes (.aborted reason) kind)
  conserved : ∀ kind, r.gateway.metrics.count (.transfersStarted kind) =
    r.gateway.metrics.count (.transfersCompleted kind) +
      (r.gateway.metrics.count (.transfersAborted kind .error) +
        r.gateway.metrics.count (.transfersAborted kind .disconnect)) +
      r.live.countP fun s => s.kind = kind
  streamed : ∀ kind, r.gateway.metrics.count (.bytesStreamed kind) =
    ((log.filter (Booking.notes .completed kind)).map fun b => b.deal.length).sum
  events : r.gateway.events =
    (log.filter fun b => b.note = .completed ∧ b.deal.grant.operation ≠ .view).map fun b =>
      { subject := b.deal.subject
        username := b.deal.grant.username
        kind := if b.deal.grant.operation.isLink then .linkDownload else .webDownload
        bytes := b.deal.size }

theorem sum_map_ite (p : Booking → Bool) (f : Booking → Nat) (log : List Booking) :
    (log.map fun b => if p b then f b else 0).sum = ((log.filter p).map f).sum := by
  induction log with
  | nil => rfl
  | cons b log ih => cases holds : p b <;> simp [holds, ih]

theorem sum_map_ite_one (p : Booking → Bool) (log : List Booking) :
    (log.map fun b => if p b then 1 else 0).sum = log.countP p := by
  rw [sum_map_ite, List.countP_eq_length_filter]
  simp

/-- A session that is over was completed or broken off. -/
theorem countP_over (kind : TransferKind) (log : List Booking) :
    log.countP (fun b => b.deal.kind = kind && !b.isStart) =
      log.countP (Booking.notes .completed kind) +
        (log.countP (Booking.notes (.aborted .error) kind) +
          log.countP (Booking.notes (.aborted .disconnect) kind)) := by
  induction log with
  | nil => rfl
  | cons b log ih =>
    have one : (if b.deal.kind = kind && !b.isStart then 1 else 0) =
        (if b.notes .completed kind then 1 else 0) +
          ((if b.notes (.aborted .error) kind then 1 else 0) +
            (if b.notes (.aborted .disconnect) kind then 1 else 0)) := by
      obtain ⟨session, deal, note⟩ := b
      unfold Booking.isStart Booking.notes
      cases note with
      | started | completed => simp
      | aborted reason => cases reason <;> simp
    simp only [List.countP_cons, ih, one]
    omega

theorem Recorded.balanced (recorded : r.Recorded log) : r.Balanced log := by
  have accounts := recorded.booked.accounts
  have agrees := recorded.booked.agrees
  have started (kind : TransferKind) : r.gateway.metrics.count (.transfersStarted kind) =
      log.countP (Booking.notes .started kind) := by
    rw [agrees.counts _ rfl, ← sum_map_ite_one]
    rfl
  have completed (kind : TransferKind) : r.gateway.metrics.count (.transfersCompleted kind) =
      log.countP (Booking.notes .completed kind) := by
    rw [agrees.counts _ rfl, ← sum_map_ite_one]
    rfl
  have aborted (kind : TransferKind) (reason : AbortReason) :
      r.gateway.metrics.count (.transfersAborted kind reason) =
        log.countP (Booking.notes (.aborted reason) kind) := by
    rw [agrees.counts _ rfl, ← sum_map_ite_one]
    rfl
  refine ⟨accounts.alive, accounts.paired, ?_, accounts.once, started, completed, aborted,
    fun kind => ?_, fun kind => ?_, ?_⟩
  · have sessions := accounts.sessions.map Prod.fst
    simpa [Function.comp_def, Booking.key] using sessions
  · have sessions := accounts.sessions.countP_eq fun key => key.2 = kind
    rw [List.countP_append, List.countP_map, List.countP_map, List.countP_map,
      List.countP_filter, List.countP_filter] at sessions
    have notes : Booking.notes .started kind = fun b => b.deal.kind = kind && b.isStart := by
      funext b
      simp [Booking.notes, Booking.isStart, Bool.and_comm]
    rw [started, completed, aborted, aborted, ← countP_over, notes]
    exact sessions
  · rw [agrees.counts _ rfl, ← sum_map_ite]
    rfl
  · rw [agrees.events, ← List.filterMap_eq_filter, List.map_filterMap]
    refine List.filterMap_congr fun b _ => ?_
    by_cases completed : b.note = .completed <;>
      by_cases viewed : b.deal.grant.operation = .view <;>
        simp [Booking.usage, Deal.usage, UsageEvent.forTransfer, UsageKind.ofOperation, completed,
          viewed]

/-- After every run of a gateway its counters, its events and the sessions under way agree with
what was noted: every session that was started is completed, broken off or under way, the
bytes streamed are those that completed sessions announced, and every completed session that is
accounted has its event, in the order of completion. -/
theorem books_balance (svc : Services World Handle File) (w : World) (moves : List (Move World)) :
    ∃ log, Chronicle svc [] (fresh w) moves log ∧ ((fresh w).after svc moves).Balanced log := by
  obtain ⟨log, chronicle, recorded⟩ := (recorded_fresh w).after svc moves
  exact ⟨log, chronicle, recorded.balanced⟩

end Run

end StreamGate
