import StreamGate.Proofs.Gateway.Chronicle
import StreamGate.Proofs.Gateway.HeadRequests

/-!
# What a grant is good for

Sessions are started and archives discarded under grants only, and the resource says
which: a file and a block go by the operation of the grant.  An archive goes by the shape
of its object id, whatever the operation is.

* `Resource.Accepts`: the grants that a resource goes out under.
* `Gateway.Spends`: a request starts a session or discards an archive.
* `Gateway.Scoped`: all that a request may do in this way.
* `Gateway.session_scope`: no request does more, and an archive is spent exactly when it
  is there.
-/

namespace StreamGate

variable {World Handle File : Type} {svc : Services World Handle File}

/-! ## Grants -/

/-- The grants that a resource goes out under. -/
def Resource.Accepts (grant : Grant) : Resource → Prop
  | .file => grant.operation.isFileAccess = true
  | .block => grant.operation = .downloadBlocks
  | .archive => ∃ target, ArchiveTarget.parse grant.objectId = .ok target
  | .health | .version | .metrics => False

/-- A request asks for a resource by a token. -/
def Request.Names (request : Request) (resource : Resource) (token : String) : Prop :=
  ∃ route rest, Route.ofTarget? request.target = some route ∧ route.resource = resource ∧
    Route.decodeParams route.params = .ok (token :: rest)

namespace Services

/-- A token stands for a grant that the resource goes out under. -/
def Entitles (svc : Services World Handle File) (resource : Resource) (token : String)
    (w : World) (grant : Grant) : Prop :=
  (svc.catalog.grant? token w).1 = .ok (some grant) ∧ resource.Accepts grant

/-- The archive of a token is there: a client that has no copy can be given one. -/
def Hands (svc : Services World Handle File) (request : Request) (token : String) (w : World) :
    Prop :=
  ∃ path, svc.archives.path? token w = some path ∧ (hasCachedCopy request.headers = true ∨
    ∃ relay, Relay.openFile svc.archives.in64Bits path token svc.buffer w = .ok relay)

/-- What is looked up first is the grant. -/
theorem Runs.granted {w w' : World} {token : String} {grant : Grant} {more : List Errand}
    (runs : svc.Runs w (.grant token (.ok (some grant)) :: more) w') :
    (svc.catalog.grant? token w).1 = .ok (some grant) := by
  cases runs with
  | cons makes =>
    cases makes with
    | grant asked => rw [asked]

/-- Whoever is dealt a session is entitled to it. -/
theorem Deals.entitles {request : Request} {token : String} {w w' : World}
    {errands : List Errand} {deal : Deal} {source : Delivering Handle File}
    (deals : svc.Deals request token w' errands deal source) (runs : svc.Runs w errands w') :
    svc.Entitles deal.kind.resource token w deal.grant := by
  cases deals with
  | file own _ allowed => exact ⟨own ▸ runs.granted, allowed⟩
  | range own _ allowed => exact ⟨own ▸ runs.granted, allowed⟩
  | block own _ allowed => exact ⟨own ▸ runs.granted, allowed⟩
  | archive described => exact ⟨runs.granted, _, described⟩

/-- No deal is made by discarding. -/
theorem Deals.keeps {request : Request} {token : String} {w : World} {errands : List Errand}
    {deal : Deal} {source : Delivering Handle File}
    (deals : svc.Deals request token w errands deal source) (other : String) :
    .discard other ∉ errands := by
  intro mem
  cases deals with
  | file _ unlocks | range _ unlocks => cases unlocks.isLookUp _ mem
  | @block l _ _ _ _ nothing =>
    rcases List.mem_append.1 mem with looked | last
    · cases l.isLookUp_of_nothing nothing _ looked
    · cases List.mem_singleton.1 last
  | archive => cases List.mem_singleton.1 mem

/-- The token that an unstarted source discards when it is released is that of the
archive. -/
theorem Deals.closing {request : Request} {token : String} {w : World} {errands : List Errand}
    {deal : Deal} {source : Delivering Handle File}
    (deals : svc.Deals request token w errands deal source) {other : String}
    (mem : .discard other ∈ Services.closing source) :
    deal.kind.resource = .archive ∧ other = token := by
  cases deals with
  | file | range | block => cases mem
  | archive _ _ opened =>
    cases List.mem_singleton.1 mem
    obtain ⟨_, -, -, -, own, -⟩ := Relay.openFile_spec opened
    exact ⟨rfl, own⟩

end Services

theorem Deal.usage_eq_none (d : Deal) : d.usage = none ↔ d.grant.operation = .view := by
  unfold usage UsageEvent.forTransfer
  cases d.grant.operation <;> simp [UsageKind.ofOperation]

namespace Gateway

variable {route : Route} {request : Request} {g g' : Gateway World}

/-! ## What a request spends -/

/-- A session is started, or a token is discarded. -/
def Spends (g g' : Gateway World) (errands : List Errand) : Prop :=
  g'.nextSession ≠ g.nextSession ∨ ∃ token, .discard token ∈ errands

/-- Whatever a request spends, it spends under a grant that its resource goes out under. -/
structure Scoped (svc : Services World Handle File) (request : Request) (g g' : Gateway World)
    (live : List (Session (Delivering Handle File))) (errands : List Errand) : Prop where
  runs : svc.Runs g.world errands g'.world
  entitled : Spends g g' errands → ∃ resource token grant,
    request.Names resource token ∧ svc.Entitles resource token g.world grant
  discards : ∀ token, .discard token ∈ errands → request.Names .archive token
  /-- A session under way has an event to emit unless the grant is for viewing. -/
  accounted : ∀ s ∈ live, ∃ token grant, request.Names s.kind.resource token ∧
    svc.Entitles s.kind.resource token g.world grant ∧
      (s.usage = none ↔ grant.operation = .view)
  /-- So has one that is completed at once. -/
  completed : ∀ kind, g'.metrics.count (.transfersCompleted kind) ≠
      g.metrics.count (.transfersCompleted kind) →
    ∃ token grant, request.Names kind.resource token ∧
      svc.Entitles kind.resource token g.world grant ∧
        (g'.events = g.events ↔ grant.operation = .view)

/-- A request that starts no session is within its scope if it discards nothing. -/
theorem scoped_of_quiet {errands : List Errand} (untouched : Untouched g g')
    (runs : svc.Runs g.world errands g'.world) (keeps : ∀ token, .discard token ∉ errands) :
    Scoped svc request g g' [] errands where
  runs := runs
  entitled spends := by
    rcases spends with started | ⟨token, mem⟩
    · exact absurd untouched.nextSession started
    · exact absurd mem (keeps token)
  discards token mem := absurd mem (keeps token)
  accounted s mem := by cases mem
  completed kind counted :=
    absurd (untouched.counters _ fun _ same => by cases same) counted

/-! ## What a session leaves -/

section Leaves

variable {status : Nat} {headers : List Header} {t : Access.Transfer (Delivering Handle File)}
  {r : Response (Delivering Handle File)}

theorem nextSession_of_leaves
    (leaves : Exit.Leaves svc request g (.session status headers t) r g') :
    g'.nextSession = g.nextSession + 1 := by
  cases leaves with
  | streaming => exact nextSession_opened
  | atOnce => exact (nextSession_settle ..).trans nextSession_opened
  | dropped => exact (nextSession_aborted ..).trans nextSession_opened

theorem status_of_leaves (leaves : Exit.Leaves svc request g (.session status headers t) r g') :
    r.status = status := by
  cases leaves with
  | streaming _ _ same | atOnce _ same | dropped _ _ same => exact same

theorem world_aborted (countsUsage : Bool) (conn : Option ConnectionId) (kind : TransferKind)
    (reason : AbortReason) (id : SessionId) (g : Gateway World) :
    ((host countsUsage conn).aborted kind reason ((host countsUsage conn).restore id g)).world =
      g.world := by
  cases conn <;> rfl

/-- All that is asked of the services once a session is started is to release its source. -/
theorem runs_of_leaves (leaves : Exit.Leaves svc request g (.session status headers t) r g') :
    ∃ closing, (∀ errand ∈ closing, errand ∈ Services.closing t.source) ∧
      svc.Runs g.world closing g'.world := by
  cases leaves with
  | streaming =>
    refine ⟨[], by simp, ?_⟩
    rw [world_opened]
    exact .nil _
  | atOnce =>
    refine ⟨_, fun _ mem => mem, ?_⟩
    rw [world_settle]
    exact svc.runs_returned t.source g.world
  | dropped =>
    refine ⟨_, fun _ mem => mem, ?_⟩
    rw [world_aborted]
    exact svc.runs_returned t.source g.world

theorem live_of_leaves (leaves : Exit.Leaves svc request g (.session status headers t) r g')
    {s : Session (Delivering Handle File)} (mem : s ∈ r.body.live) :
    s.kind = t.kind ∧ s.usage = t.usage := by
  cases leaves with
  | streaming _ _ _ body =>
    rw [body] at mem
    obtain rfl := List.mem_singleton.1 mem
    exact ⟨rfl, rfl⟩
  | atOnce _ _ known | dropped _ _ _ known =>
    rw [Body.live_known known] at mem
    cases mem

theorem events_settle {State : Type} (countsUsage : Bool) (conn : Option ConnectionId)
    (s : Session State) (bytes : Nat) (g : Gateway World) :
    (s.settle (host countsUsage conn) bytes g).events = g.events ++ s.usage.toList := by
  unfold Session.settle
  cases s.usage <;> cases conn <;> simp [host, setSlot]

/-- A session that is completed before the answer goes out emits its event. -/
theorem completed_of_leaves
    (leaves : Exit.Leaves svc request g (.session status headers t) r g') {kind : TransferKind}
    (counted : g'.metrics.count (.transfersCompleted kind) ≠
      g.metrics.count (.transfersCompleted kind)) :
    t.kind = kind ∧ g'.events = g.events ++ t.usage.toList := by
  have opened : (g.opened request.connection t).metrics.count (.transfersCompleted kind) =
      g.metrics.count (.transfersCompleted kind) := by
    rw [metrics_opened, Metrics.count_started]
    simp
  cases leaves with
  | streaming => exact absurd opened counted
  | atOnce =>
    refine ⟨by_contra fun other => counted ?_, ?_⟩
    · rw [count_settle _ _ _ _ _ rfl, Metrics.count_completed, ← opened]
      simp [withWorld, Access.Transfer.session, other]
    · rw [events_settle]
      exact congrArg (· ++ t.usage.toList) events_opened
  | dropped =>
    refine absurd ?_ counted
    show (Metrics.aborted _ _ _).count _ = _
    rw [Metrics.count_aborted, metrics_restore, ← opened]
    simp [withWorld]

end Leaves

/-- A session that a request is dealt is within its scope. -/
theorem scoped_of_session {token : String} {rest : List String} {errands : List Errand}
    {w : World} {deal : Deal} {source : Delivering Handle File} {headers : List Header}
    {r : Response (Delivering Handle File)}
    (routed : Route.ofTarget? request.target = some route)
    (decoded : Route.decodeParams route.params = .ok (token :: rest))
    (runs : svc.Runs g.world errands w) (delivers : deal.kind.resource = route.resource)
    (deals : svc.Deals request token w errands deal source)
    (leaves : Exit.Leaves svc request (g.withWorld w)
      (.session deal.kind.status headers (deal.transfer source)) r g') :
    ∃ closing, Scoped svc request g g' r.body.live (errands ++ closing) := by
  have names : request.Names deal.kind.resource token :=
    ⟨route, rest, routed, delivers.symm, decoded⟩
  have entitles := deals.entitles runs
  obtain ⟨closing, only, closes⟩ := runs_of_leaves leaves
  refine ⟨closing, runs.append closes, fun _ => ⟨_, _, _, names, entitles⟩, fun other mem => ?_,
    fun s mem => ?_, fun kind counted => ?_⟩
  · rcases List.mem_append.1 mem with before | after
    · exact absurd before (deals.keeps other)
    · obtain ⟨isArchive, rfl⟩ := deals.closing (only _ after)
      exact isArchive ▸ names
  · obtain ⟨kind, usage⟩ := live_of_leaves leaves mem
    rw [kind, usage]
    exact ⟨token, deal.grant, names, entitles, deal.usage_eq_none⟩
  · obtain ⟨rfl, emitted⟩ := completed_of_leaves leaves counted
    refine ⟨token, deal.grant, names, entitles, ?_⟩
    rw [emitted, ← deal.usage_eq_none]
    simp [withWorld, Deal.transfer]

/-! ## Archives -/

section Archives

variable {α : Type} {act : Access World α} {f : α → Access World (Response (Delivering Handle File))}

theorem settle_of_gives {a : α} (gives : act.Gives g a g') :
    settle (act >>= f) g = settle (f a) g' := by
  unfold settle
  rw [Access.run_bind_of_gives gives]

theorem settle_of_refused {e : AccessError} (ran : act.run g = (.error e, g')) :
    settle (act >>= f) g = (.ofError e, g') := by
  unfold settle
  rw [Access.run_bind, ran]

theorem resolveGrant_refused {token : String}
    (none : ∀ grant, (svc.catalog.grant? token g.world).1 ≠ .ok (some grant)) :
    ∃ e g', (Access.resolveGrant svc token).run g = (.error e, g') := by
  unfold Access.resolveGrant Access.lookUp
  rw [Access.run_bind, Access.run_bind_of_gives (Access.gives_get g)]
  generalize svc.catalog.grant? token g.world = found at none
  obtain ⟨e | grant | grant, w⟩ := found
  · exact ⟨_, _, rfl⟩
  · exact ⟨_, _, rfl⟩
  · exact absurd rfl (none grant)

theorem require_refused {e : AccessError} :
    (Access.require e (none : Option α)).run g = (.error e, g) := rfl

/-- The path of an archive is looked for in the world as it is. -/
theorem archivePath_run (token : String) :
    (Access.archivePath svc token).run g =
      (Access.require .internalError (svc.archives.path? token g.world)).run g := by
  unfold Access.archivePath
  rw [Access.run_bind_of_gives (Access.gives_get g)]

/-- Whether an archive is given away is decided by the grant's object id and by the archive;
the operation of the grant has no part in it. -/
theorem status_archive (svc : Services World Handle File) (request : Request) (token : String)
    (g : Gateway World) :
    (settle (Access.archive svc request token) g).1.status < 400 ↔
      ∃ grant, svc.Entitles .archive token g.world grant ∧
        svc.Hands request token (svc.catalog.grant? token g.world).2 := by
  have refused (e : AccessError) : ¬(Response.ofError e :
      Response (Delivering Handle File)).status < 400 := Nat.not_lt.2 e.status_ge
  unfold Access.archive
  by_cases granted : ∃ grant, (svc.catalog.grant? token g.world).1 = .ok (some grant)
  swap
  · obtain ⟨e, g', ran⟩ := resolveGrant_refused (not_exists.1 granted)
    rw [settle_of_refused ran]
    exact iff_of_false (refused e) fun ⟨grant, entitles, _⟩ => granted ⟨grant, entitles.1⟩
  obtain ⟨grant, granted⟩ := granted
  have asked : svc.catalog.grant? token g.world =
      (.ok (some grant), (svc.catalog.grant? token g.world).2) := Prod.ext granted rfl
  generalize (svc.catalog.grant? token g.world).2 = w at asked
  rw [settle_of_gives (Access.gives_resolveGrant asked)]
  cases described : ArchiveTarget.parse grant.objectId with
  | error fault =>
    rw [Except.toOption, settle_of_refused require_refused]
    refine iff_of_false (refused _) ?_
    rintro ⟨grant', ⟨granted', target, accepts⟩, -⟩
    cases granted.symm.trans granted'
    cases described.symm.trans accepts
  | ok target =>
    rw [Except.toOption, settle_of_gives Access.gives_require]
    have entitles : svc.Entitles .archive token g.world grant := ⟨granted, target, described⟩
    have ran : (Access.archivePath svc token).run (g.withWorld w) =
        (Access.require .internalError (svc.archives.path? token w)).run (g.withWorld w) :=
      archivePath_run token
    cases found : svc.archives.path? token w with
    | none =>
      rw [found] at ran
      rw [settle_of_refused (ran.trans require_refused)]
      refine iff_of_false (refused _) ?_
      rintro ⟨-, -, path, found', -⟩
      cases found.symm.trans found'
    | some path =>
      rw [found] at ran
      rw [settle_of_gives (ran.trans Access.gives_require)]
      split
      · rename_i copy
        exact iff_of_true (show 304 < 400 by decide) ⟨grant, entitles, path, found, .inl copy⟩
      · rename_i noCopy
        rw [settle_of_gives (Access.gives_get _)]
        split
        · rename_i fault failed
          refine iff_of_false (refused _) ?_
          rintro ⟨-, -, path', found', copy | ⟨relay, opened⟩⟩
          · exact noCopy copy
          · cases found.symm.trans found'
            cases failed.symm.trans opened
        · rename_i relay opened
          refine iff_of_true ?_ ⟨grant, entitles, path, found, .inr ⟨relay, opened⟩⟩
          unfold settle
          rw [run_startSession_eq]
          exact (by decide : 200 < 400)

theorem finish_status (svc : Services World Handle File) (request : Request)
    (fetched : Response (Delivering Handle File) × Gateway World) :
    (finish svc request fetched).1.status = fetched.1.status := by
  unfold finish
  split <;> exact Response.status_withLength _

/-- A request for an archive succeeds exactly if the archive may be asked for and is there. -/
theorem respond_archive (svc : Services World Handle File) {token : String}
    (routed : Route.ofTarget? request.target = some route) (isArchive : route.resource = .archive)
    {rest : List String} (decoded : Route.decodeParams route.params = .ok (token :: rest))
    (g : Gateway World) :
    (respond svc route request g).1.status < 400 ↔
      (request.method = .get ∨ request.method = .head) ∧
        ∃ grant, svc.Entitles .archive token g.world grant ∧
          svc.Hands request token (svc.catalog.grant? token g.world).2 := by
  have delivery : isDelivery route.resource = true := by rw [isArchive]; rfl
  by_cases asked : request.method = .get ∨ request.method = .head
  · have alone : rest = [] := by
      have count := (length_decodeParams decoded).trans (length_params routed)
      rw [isArchive] at count
      simpa [arity] using count
    subst alone
    rw [respond_eq delivery g asked, finish_status, ← status_archive]
    unfold fetch
    simp only [decoded, isArchive, asked, true_and]
  · obtain ⟨r, responded, status, -⟩ := respond_declined svc g delivery asked
    rw [responded]
    exact iff_of_false (Nat.not_lt.2 status) fun both => asked both.1

end Archives

/-- An archive that is collected is discarded within the scope of the request. -/
theorem scoped_of_collected {token : String} {grant : Grant} {w : World}
    (names : request.Names .archive token)
    (entitles : svc.Entitles .archive token g.world grant) {errands : List Errand}
    (runs : svc.Runs g.world errands w)
    (collects : ∀ other, .discard other ∈ errands → other = token) :
    Scoped svc request g { g.withWorld w with metrics := g.metrics.notModified .archive } []
      errands where
  runs := runs
  entitled _ := ⟨.archive, token, grant, names, entitles⟩
  discards other mem := collects other mem ▸ names
  accounted s mem := by cases mem
  completed kind counted := by
    refine absurd ?_ counted
    rw [Metrics.count_notModified]
    simp

/-! ## Requests -/

/-- A request for a delivery is answered within its scope, and an archive is spent by
success only. -/
theorem scoped_of_answered {r : Response (Delivering Handle File)}
    (routed : Route.ofTarget? request.target = some route)
    (succeeds : r.status < 400 → route.resource = .archive → ∀ token rest,
      Route.decodeParams route.params = .ok (token :: rest) →
        ∃ grant, svc.Entitles .archive token g.world grant)
    (answered : Answered svc route request g r g') :
    ∃ errands, Scoped svc request g g' r.body.live errands ∧
      (route.resource = .archive → (Spends g g' errands ↔ r.status < 400)) := by
  have quiet {errands : List Errand} (known : ∃ bytes, r.body = .known bytes)
      (untouched : Untouched g g') (runs : svc.Runs g.world errands g'.world)
      (keeps : ∀ token, .discard token ∉ errands)
      (fails : route.resource = .archive → ¬r.status < 400) :
      ∃ errands, Scoped svc request g g' r.body.live errands ∧
        (route.resource = .archive → (Spends g g' errands ↔ r.status < 400)) := by
    refine ⟨errands, Body.live_known known ▸ scoped_of_quiet untouched runs keeps,
      fun isArchive => iff_of_false ?_ (fails isArchive)⟩
    rintro (started | ⟨token, mem⟩)
    · exact started untouched.nextSession
    · exact keeps token mem
  cases answered with
  | declined status known =>
    exact quiet known (untouched_withWorld g g.world) (.nil _) (by simp)
      fun _ => Nat.not_lt.2 status
  | @ended token rest errands w exit _ _ decoded runs ends leaves =>
    have unchanged := untouched_withWorld g w
    cases ends with
    | refused e lookUps =>
      cases leaves with
      | refused status known =>
        exact quiet known unchanged runs (discard_not_mem lookUps)
          fun _ => Nat.not_lt.2 (status ▸ e.status_ge)
    | @unavailable l _ _ isBlock own nothing contains =>
      cases leaves with
      | refused status known =>
        exact quiet known unchanged runs
          (by simp [discard_not_mem (l.isLookUp_of_nothing nothing)])
          fun isArchive => by rw [isBlock] at isArchive; cases isArchive
    | cached kind other copy =>
      cases leaves with
      | notModified status known =>
        exact quiet known (untouched_notModified g w kind) runs (by simp) (absurd · other)
    | collected isArchive copy =>
      cases leaves with
      | notModified status known =>
        obtain ⟨grant, entitles⟩ := succeeds (by omega) isArchive token rest decoded
        refine ⟨_, Body.live_known known ▸ scoped_of_collected
          ⟨route, rest, routed, isArchive, decoded⟩ entitles runs (by simp), fun _ => ?_⟩
        exact iff_of_true (.inr ⟨token, by simp⟩) (by omega)
    | headOnly headers isFile own unlocks method success =>
      cases leaves with
      | bare same known =>
        exact quiet known unchanged runs (discard_not_mem unlocks.isLookUp)
          fun isArchive => by rw [isFile] at isArchive; cases isArchive
    | blockless headers isFile own unlocks isEmpty =>
      cases leaves with
      | bare same known =>
        exact quiet known unchanged runs (discard_not_mem unlocks.isLookUp)
          fun isArchive => by rw [isFile] at isArchive; cases isArchive
    | @session _ deal source headers delivers deals noCopy =>
      obtain ⟨closing, inScope⟩ := scoped_of_session routed decoded runs delivers deals leaves
      refine ⟨errands ++ closing, inScope, fun isArchive => iff_of_true (.inl ?_) ?_⟩
      · rw [nextSession_of_leaves leaves]
        exact Nat.succ_ne_self _
      · rw [status_of_leaves leaves]
        cases deal.kind <;> decide

/-- A request for a known resource is answered or left waiting. -/
theorem responds_or_waits (svc : Services World Handle File) (w : Waiting) (g : Gateway World)
    (routed : Route.ofTarget? w.request.target = some route) :
    poll svc w g = (.ready (respond svc route w.request g).1, (respond svc route w.request g).2) ∨
      ∃ w', poll svc w g = (.waiting w', g) := by
  unfold poll
  simp only [routed]
  cases awaited route w.request with
  | none => exact .inl rfl
  | some conn =>
    dsimp only
    cases w.waiter.poll (g.slot conn) with
    | done => exact .inl rfl
    | idle | registered | parked => exact .inr ⟨_, rfl⟩

/-- Sessions on files are started under grants for viewing and downloading only, sessions on
blocks under grants for blocks, and archives are spent under grants whose object id describes
an archive: under these exactly when the archive is there, whatever the operation is.  A session
has no event to emit exactly if the grant is for viewing. -/
theorem session_scope (svc : Services World Handle File) (w : Waiting) (g : Gateway World) :
    let (a, g') := poll svc w g
    ∃ errands, Scoped svc w.request g g' a.live errands ∧
      ∀ r token, a = .ready r → w.request.Names .archive token →
        (Spends g g' errands ↔ (w.request.method = .get ∨ w.request.method = .head) ∧
          ∃ grant, svc.Entitles .archive token g.world grant ∧
            svc.Hands w.request token (svc.catalog.grant? token g.world).2) := by
  have nothing {a : Answer (Delivering Handle File)} (none : a.live = []) :
      Scoped svc w.request g g a.live [] :=
    none ▸ scoped_of_quiet (untouched_withWorld g g.world) (.nil _) (by simp)
  cases routed : Route.ofTarget? w.request.target with
  | none =>
    have unknown : poll svc w g = (.ready (Response.bare 404 []).withLength, g) := by
      unfold poll
      rw [routed]
    rw [unknown]
    refine ⟨[], nothing (a := .ready _)
      (Body.live_known ⟨[], Response.body_withLength (.bare 404 [])⟩), ?_⟩
    rintro r token - ⟨route, rest, routed', -⟩
    cases routed.symm.trans routed'
  | some route =>
    have only {token : String} (names : w.request.Names .archive token) :
        route.resource = .archive ∧
          ∃ rest, Route.decodeParams route.params = .ok (token :: rest) := by
      obtain ⟨route', rest, routed', isArchive, decoded⟩ := names
      cases routed.symm.trans routed'
      exact ⟨isArchive, rest, decoded⟩
    obtain same | ⟨w', same⟩ := responds_or_waits svc w g routed
    · rw [same]
      cases delivery : isDelivery route.resource with
      | true =>
        have answered := answered_respond svc routed delivery g
        have archived {token : String} {rest : List String} (isArchive : route.resource = .archive)
            (decoded : Route.decodeParams route.params = .ok (token :: rest)) :=
          respond_archive svc routed isArchive decoded g
        generalize respond svc route w.request g = responded at answered archived
        obtain ⟨r, g'⟩ := responded
        have succeeds (success : r.status < 400) (isArchive : route.resource = .archive)
            (token : String) (rest : List String)
            (decoded : Route.decodeParams route.params = .ok (token :: rest)) :
            ∃ grant, svc.Entitles .archive token g.world grant := by
          obtain ⟨-, grant, entitles, -⟩ := (archived isArchive decoded).1 success
          exact ⟨grant, entitles⟩
        obtain ⟨errands, inScope, spends⟩ := scoped_of_answered routed succeeds answered
        refine ⟨errands, inScope, fun _ token _ names => ?_⟩
        obtain ⟨isArchive, rest, decoded⟩ := only names
        exact (spends isArchive).trans (archived isArchive decoded)
      | false =>
        obtain ⟨r, responded, known⟩ := respond_other svc w.request delivery g
        rw [responded]
        refine ⟨[], nothing (a := .ready r) (Body.live_known known), fun _ token _ names => ?_⟩
        rw [(only names).1] at delivery
        cases delivery
    · rw [same]
      exact ⟨[], nothing rfl, fun r token ready => by cases ready⟩

end Gateway

/-- The world with an archive, but the grant is for viewing. -/
def MemoryWorld.withViewed : MemoryWorld :=
  let grant : Grant := ⟨"repo", "\x7b\"dir_name\":\"d\"\x7d", .view, "user"⟩
  { withArchive with catalog := { inner := ({} : MemoryCatalog).put (.grant "t" grant) } }

namespace Gateway

open MemoryWorld

/-- An archive goes out under a grant for viewing: it is sent to its end and is gone, the
session counts as completed, and there is no event. -/
theorem view_delivers_archive :
    let svc := MemoryWorld.services {} true ⟨⟨2024, 1, 1⟩, 0, 0, 0⟩
    let before := Run.fresh withViewed
    let sent := (before.act svc (.send "r" ⟨.get, "/zip/t", [], some "c"⟩)).2
    let done := (sent.act svc (.read "r")).2
    (before.gateway.world.catalog.inner.grants.get? "t").map Grant.operation = some .view ∧
      (sent.held.get? "r").bind Answer.glimpse = some (200, some "3", none) ∧
      sent.gateway.nextSession = before.gateway.nextSession + 1 ∧
      sent.gateway.metrics.count (.transfersStarted .archive) = 1 ∧
      done.gateway.metrics.count (.transfersCompleted .archive) = 1 ∧
      done.gateway.metrics.count (.bytesStreamed .archive) = 3 ∧ done.gateway.events = [] ∧
      before.gateway.world.archives.path? "t" = some "/z" ∧
      done.gateway.world.archives.path? "t" = none ∧
      done.gateway.world.archives.files.isFile "/z" = false := by
  decide +kernel

end Gateway

end StreamGate
