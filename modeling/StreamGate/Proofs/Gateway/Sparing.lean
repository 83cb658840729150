import StreamGate.Gateway.Deployment
import StreamGate.Proofs.Gateway.Effects

/-!
# Answers with and without a session

An answer without a session leaves the gateway as it was; an answer with one takes
the connection over once and uses one number.

* `Gateway.Sessionless`: the answers that need no session.
* `Gateway.Spared`: all that such an answer changes.
* `Gateway.Started`: what an answer with a session changes.
* `Gateway.spared_or_started`: the one or the other.
-/

namespace StreamGate

variable {World Handle File : Type} {svc : Services World Handle File}

/-! ## One lead -/

/-- Two look-ups ask the same, whatever the answers. -/
def Errand.Repeats : Errand → Errand → Prop
  | grant token _, grant token' _ => token = token'
  | repo repoId _, repo repoId' _ => repoId = repoId'
  | key repoId username _, key repoId' username' _ => repoId = repoId' ∧ username = username'
  | manifest ref objectId _, manifest ref' objectId' _ => ref = ref' ∧ objectId = objectId'
  | _, _ => False

/-- In one world a question has one answer. -/
theorem Services.Makes.unique {w v v' : World} {e e' : Errand} (makes : svc.Makes w e v)
    (makes' : svc.Makes w e' v') (repeats : e.Repeats e') : e = e' ∧ v = v' := by
  cases makes with
  | grant asked | repo asked =>
    cases makes' <;> try cases repeats
    rename_i asked'
    obtain ⟨rfl, rfl⟩ := Prod.mk.inj (asked.symm.trans asked')
    exact ⟨rfl, rfl⟩
  | key asked | manifest asked =>
    cases makes' <;> try cases repeats
    rename_i asked' first second
    subst first second
    obtain ⟨rfl, rfl⟩ := Prod.mk.inj (asked.symm.trans asked')
    exact ⟨rfl, rfl⟩
  | stat | openBlock | readBlock | closeBlock | readArchive | discard => cases repeats

theorem Services.Runs.unique_head {w v v' : World} {e e' : Errand} {more more' : List Errand}
    (runs : svc.Runs w (e :: more) v) (runs' : svc.Runs w (e' :: more') v')
    (repeats : e.Repeats e') : e = e' ∧ ∃ w₁, svc.Runs w₁ more v ∧ svc.Runs w₁ more' v' := by
  cases runs with
  | cons makes rest =>
    cases runs' with
    | cons makes' rest' =>
      obtain ⟨same, rfl⟩ := makes.unique makes' repeats
      exact ⟨same, _, rest, rest'⟩

/-- From one world a token leads to one manifest. -/
theorem Lead.manifest_unique {l l' : Lead} {key key' : Option CipherKey} {w v v' : World}
    (same : l.token = l'.token) (unlocks : l.Unlocks key) (unlocks' : l'.Unlocks key')
    (runs : svc.Runs w l.lookUps v) (runs' : svc.Runs w l'.lookUps v') :
    l.manifest = l'.manifest := by
  obtain ⟨token, grant, repo, unlocking, seen, manifest⟩ := l
  obtain ⟨token', grant', repo', unlocking', seen', manifest'⟩ := l'
  obtain ⟨found, w₁, runs, runs'⟩ := runs.unique_head runs' same
  cases found
  obtain ⟨found, w₂, runs, runs'⟩ := runs.unique_head runs' rfl
  cases found
  let ask (m : Manifest) : Errand := .manifest repo.storeRef grant.objectId (.ok (some m))
  have last {w : World} (runs : svc.Runs w [ask seen, ask manifest] v)
      (runs' : svc.Runs w [ask seen', ask manifest'] v') : manifest = manifest' := by
    obtain ⟨-, w₃, runs, runs'⟩ := runs.unique_head runs' ⟨rfl, rfl⟩
    obtain ⟨found, -⟩ := runs.unique_head runs' ⟨rfl, rfl⟩
    cases found
    rfl
  cases unlocks with
  | plain encrypted nothing =>
    cases unlocks' with
    | plain _ nothing' =>
      cases nothing
      cases nothing'
      exact last runs runs'
    | locked encrypted' => rw [encrypted] at encrypted'; cases encrypted'
  | locked encrypted asked =>
    cases unlocks' with
    | plain encrypted' => rw [encrypted] at encrypted'; cases encrypted'
    | locked _ asked' =>
      dsimp only at asked asked'
      subst asked asked'
      obtain ⟨-, w₃, runs, runs'⟩ := runs.unique_head runs' ⟨rfl, rfl⟩
      exact last runs runs'

/-! ## The archives of a world -/

/-- The archives of a world are a store of archives: discarding a token does there what
it does in a store, and nothing else that is done before a body changes them. -/
structure Services.StoresArchives (svc : Services World Handle File)
    (archives : World → ArchiveStore) : Prop where
  lookUp : ∀ {errand w w'}, svc.Makes w errand w' → errand.isLookUp = true →
    archives w' = archives w
  stat : ∀ ref id w, archives (svc.store.stat ref id w).2 = archives w
  discard : ∀ token w, archives (svc.archives.discard token w) = (archives w).discard token

theorem MemoryWorld.storesArchives (s : Settings) (countsUsage : Bool) (now : Instant) :
    (services s countsUsage now).StoresArchives archives where
  lookUp made isLookUp := by
    cases made with
    | grant asked | repo asked | key asked | manifest asked =>
      exact congrArg (fun found => found.2.archives) asked.symm
    | stat | openBlock | readBlock | closeBlock | readArchive | discard => cases isLookUp
  stat _ _ _ := rfl
  discard _ _ := rfl

theorem DiskWorld.storesArchives (s : Settings) (d : Directory) (now : Instant) :
    (services s d now).StoresArchives archives where
  lookUp made isLookUp := by
    cases made with
    | grant asked | repo asked | key asked | manifest asked =>
      exact congrArg (fun found => found.2.archives) asked.symm
    | stat | openBlock | readBlock | closeBlock | readArchive | discard => cases isLookUp
  stat _ _ _ := rfl
  discard _ _ := rfl

/-! ## Answers without a session -/

/-- The granted file lists no blocks. -/
def Services.Blockless (svc : Services World Handle File) (token : String) (w : World) : Prop :=
  ∃ (l : Lead) (key : Option CipherKey) (w' : World), l.token = token ∧ l.Unlocks key ∧
    svc.Runs w l.lookUps w' ∧ l.manifest.isEmpty = true

theorem AccessError.status_ge (e : AccessError) : 400 ≤ e.status := by
  cases e <;> exact Nat.le_of_ble_eq_true rfl

namespace Gateway

variable {route : Route} {request : Request} {g g' : Gateway World}

/-- A request for a delivery gets an answer that needs no session. -/
inductive Sessionless (svc : Services World Handle File) (route : Route) (request : Request)
    (w : World) (status : Nat) : Prop
  | refused (error : 400 ≤ status)
  | notModified (copy : status = 304)
  | headOnly (isFile : route.resource = .file) (method : request.method = .head)
  | blockless (isFile : route.resource = .file) {token : String} {rest : List String}
      (decoded : Route.decodeParams route.params = .ok (token :: rest))
      (blockless : svc.Blockless token w)

/-- All that is asked of the services for such an answer. -/
inductive Modest (route : Route) (status : Nat) : List Errand → Prop
  | lookUps {errands : List Errand} (only : ∀ errand ∈ errands, errand.isLookUp = true)
      (noCopy : status ≠ 304) : Modest route status errands
  /-- A look at a block of the granted file, which is not to be had. -/
  | stat {l : Lead} {rest : List String} {id : BlockId} {e : Failure}
      (isBlock : route.resource = .block)
      (decoded : Route.decodeParams route.params = .ok (l.token :: rest))
      (nothing : l.unlocking = []) (contains : l.manifest.contains id = true)
      (refused : status = 400) :
      Modest route status (l.lookUps ++ [.stat l.repo.storeRef id (.error e)])
  /-- Whoever has a copy needs no more than the grant. -/
  | cached {token : String} {rest : List String} {grant : Grant} (other : route.resource ≠ .archive)
      (decoded : Route.decodeParams route.params = .ok (token :: rest)) (copy : status = 304) :
      Modest route status [.grant token (.ok (some grant))]
  | collected {token : String} {rest : List String} {grant : Grant}
      (isArchive : route.resource = .archive)
      (decoded : Route.decodeParams route.params = .ok (token :: rest)) (copy : status = 304) :
      Modest route status [.grant token (.ok (some grant)), .discard token]

/-- Nothing is changed but the world and the count of clients that have a copy. -/
structure Untouched (g g' : Gateway World) : Prop where
  slot : ∀ c, g'.slot c = g.slot c
  nextSession : g'.nextSession = g.nextSession
  events : g'.events = g.events
  counters : ∀ c, (∀ kind, c ≠ .notModified kind) → g'.metrics.count c = g.metrics.count c

/-- All that an answer without a session changes. -/
structure Spared (svc : Services World Handle File) (route : Route) (status : Nat)
    (g g' : Gateway World) : Prop where
  untouched : Untouched g g'
  modest : ∃ errands, svc.Runs g.world errands g'.world ∧ Modest route status errands
  /-- The archives stay, but for one whose client has a copy. -/
  archives : ∀ archives, svc.StoresArchives archives →
    if route.resource = .archive ∧ status = 304 then
      ∃ token rest, Route.decodeParams route.params = .ok (token :: rest) ∧
        archives g'.world = (archives g.world).discard token
    else archives g'.world = archives g.world

theorem untouched_withWorld (g : Gateway World) (w : World) : Untouched g (g.withWorld w) :=
  ⟨fun _ => rfl, rfl, rfl, fun _ _ => rfl⟩

theorem untouched_notModified (g : Gateway World) (w : World) (kind : TransferKind) :
    Untouched g { g.withWorld w with metrics := g.metrics.notModified kind } := by
  refine ⟨fun _ => rfl, rfl, rfl, fun c other => ?_⟩
  show (g.metrics.notModified kind).count c = _
  rw [Metrics.count_notModified, if_neg (other kind).symm, Nat.add_zero]

/-- Modest errands leave the archives as they are, but for one that was collected. -/
theorem Modest.archives {status : Nat} {errands : List Errand} {w w' : World}
    (modest : Modest route status errands) (runs : svc.Runs w errands w')
    {archives : World → ArchiveStore} (stores : svc.StoresArchives archives) :
    if route.resource = .archive ∧ status = 304 then
      ∃ token rest, Route.decodeParams route.params = .ok (token :: rest) ∧
        archives w' = (archives w).discard token
    else archives w' = archives w := by
  cases modest with
  | lookUps only noCopy =>
    rw [if_neg fun both => noCopy both.2]
    exact runs.keeps fun errand mem _ _ made => stores.lookUp made (only errand mem)
  | @stat l _ _ _ isBlock _ nothing =>
    rw [if_neg fun both => by rw [isBlock] at both; cases both.1]
    refine runs.keeps fun errand mem v v' made => ?_
    rcases List.mem_append.1 mem with looked | last
    · exact stores.lookUp made (l.isLookUp_of_nothing nothing errand looked)
    · obtain rfl := List.mem_singleton.1 last
      cases made with
      | stat asked => rw [← stores.stat l.repo.storeRef _ v, asked]
  | cached other decoded copy =>
    rw [if_neg fun both => other both.1]
    refine runs.keeps fun errand mem _ _ made => ?_
    obtain rfl := List.mem_singleton.1 mem
    exact stores.lookUp made rfl
  | collected isArchive decoded copy =>
    rw [if_pos ⟨isArchive, copy⟩]
    refine ⟨_, _, decoded, ?_⟩
    cases runs with
    | cons made rest =>
      cases rest with
      | cons made' rest =>
        cases made' with
        | discard token =>
          cases rest
          rw [stores.discard, stores.lookUp made rfl]

theorem Spared.of_modest {status : Nat} {errands : List Errand} (untouched : Untouched g g')
    (runs : svc.Runs g.world errands g'.world) (modest : Modest route status errands) :
    Spared svc route status g g' :=
  ⟨untouched, ⟨errands, runs, modest⟩, fun _ stores => modest.archives runs stores⟩

/-! ## Answers with a session -/

/-- An answer with a session takes its connection over once and uses one number.  The
connection is given back at once unless the session is the body. -/
structure Started (resource : Resource) (conn : Option ConnectionId)
    (body : Body (Delivering Handle File)) (g g' : Gateway World) : Prop where
  slot : ∀ c, g'.slot c =
    if conn = some c then
      if body.known? = none then (g.slot c).taken g.nextSession
      else ((g.slot c).taken g.nextSession).restore
    else g.slot c
  nextSession : g'.nextSession = g.nextSession + 1
  counted : ∃ kind : TransferKind, kind.resource = resource ∧ ∀ k,
    g'.metrics.count (.transfersStarted k) =
      g.metrics.count (.transfersStarted k) + if kind = k then 1 else 0

theorem count_opened {State : Type} (conn : Option ConnectionId) (t : Access.Transfer State)
    (g : Gateway World) (k : TransferKind) :
    (g.opened conn t).metrics.count (.transfersStarted k) =
      g.metrics.count (.transfersStarted k) + if t.kind = k then 1 else 0 := by
  rw [metrics_opened, Metrics.count_started]
  simp

/-- A session that is started is the body, or it is over before the answer goes out. -/
theorem started_of_leaves {status : Nat} {headers : List Header}
    {t : Access.Transfer (Delivering Handle File)} {r : Response (Delivering Handle File)}
    (free : ∀ c, request.connection = some c → (g.slot c).isDispatching = true)
    (leaves : Exit.Leaves svc request g (.session status headers t) r g') :
    r.status = status ∧ Started t.kind.resource request.connection r.body g g' := by
  cases leaves with
  | streaming method announces same body =>
    refine ⟨same, fun c => ?_, nextSession_opened, t.kind, rfl, count_opened _ t g⟩
    rw [slot_opened free, body]
    rfl
  | atOnce empty same known =>
    obtain ⟨bytes, known⟩ := known
    refine ⟨same, fun c => ?_, ?_, t.kind, rfl, fun k => ?_⟩
    · have same : ((g.opened request.connection t).withWorld
          (svc.returned t.source g.world)).aside = (g.opened request.connection t).aside := rfl
      have settled := settled_settle svc.countsUsage request.connection
        (t.session g.nextSession) 0 same
      rw [settled.slot, slot_opened free, known]
      split <;> rfl
    · rw [nextSession_settle]
      exact nextSession_opened
    · rw [count_settle _ _ _ _ _ rfl, Metrics.count_completed, ← count_opened request.connection t]
      simp [withWorld]
  | dropped method announces same known =>
    obtain ⟨bytes, known⟩ := known
    refine ⟨same, fun c => ?_, ?_, t.kind, rfl, fun k => ?_⟩
    · have restored := slot_restored request.connection svc.countsUsage g.nextSession
        ((g.opened request.connection t).withWorld (svc.returned t.source g.world)) c
      rw [known]
      refine restored.trans ?_
      show (if _ then ((g.opened request.connection t).slot c).restore else
        (g.opened request.connection t).slot c) = _
      rw [slot_opened free]
      split <;> rfl
    · cases request.connection <;> exact nextSession_opened
    · show (Metrics.aborted _ _ _).count _ = _
      rw [Metrics.count_aborted, metrics_restore, ← count_opened request.connection t]
      simp [withWorld]

/-- Whoever is dealt a session is not answered without one. -/
theorem not_sessionless_of_deals {token : String} {rest : List String} {w w' : World}
    {errands : List Errand} {deal : Deal} {source : Delivering Handle File}
    (decoded : Route.decodeParams route.params = .ok (token :: rest))
    (runs : svc.Runs w errands w') (delivers : deal.kind.resource = route.resource)
    (deals : svc.Deals request token w' errands deal source) :
    ¬Sessionless svc route request w deal.kind.status := by
  have success : deal.kind.status = 200 ∨ deal.kind.status = 206 := by
    cases deal.kind <;> simp [TransferKind.status]
  generalize deal.kind.status = status at success
  have file {l : Lead} {key : Option CipherKey} (own : l.token = token) (unlocks : l.Unlocks key)
      (blocks : l.manifest.isEmpty = false) (method : request.method ≠ .head)
      (runs : svc.Runs w l.lookUps w') : ¬Sessionless svc route request w status := by
    rintro (error | copy | ⟨-, head⟩ |
      @⟨-, token', rest', decoded', l', key', v, own', unlocks', runs', isEmpty⟩)
    · omega
    · omega
    · exact method head
    · rw [decoded] at decoded'
      cases decoded'
      rw [Lead.manifest_unique (own.trans own'.symm) unlocks unlocks' runs runs', isEmpty] at blocks
      cases blocks
  have other (notFile : route.resource ≠ .file) : ¬Sessionless svc route request w status := by
    rintro (error | copy | ⟨isFile, -⟩ | ⟨isFile, -⟩)
    · omega
    · omega
    · exact notFile isFile
    · exact notFile isFile
  cases deals with
  | file own unlocks _ blocks method => exact file own unlocks blocks method runs
  | range own unlocks _ blocks method => exact file own unlocks blocks method runs
  | block => exact other fun isFile => by rw [isFile] at delivers; cases delivers
  | archive => exact other fun isFile => by rw [isFile] at delivers; cases delivers

/-- An end without a session is an answer that needs none, and it spares the gateway. -/
theorem spared_of_ends {token : String} {rest : List String} {errands : List Errand} {w : World}
    {exit : Exit Handle File} {r : Response (Delivering Handle File)}
    (decoded : Route.decodeParams route.params = .ok (token :: rest))
    (runs : svc.Runs g.world errands w)
    (ends : svc.Ends route.resource request token w errands exit)
    (leaves : exit.Leaves svc request (g.withWorld w) r g')
    (none : ∀ status headers t, exit ≠ .session status headers t) :
    Sessionless svc route request g.world r.status ∧ Spared svc route r.status g g' := by
  have unchanged := untouched_withWorld g w
  cases ends with
  | refused e lookUps =>
    cases leaves with
    | refused status known =>
      have refused := status ▸ e.status_ge
      exact ⟨.refused refused, .of_modest unchanged runs (.lookUps lookUps (by omega))⟩
  | unavailable isBlock own nothing contains =>
    cases leaves with
    | refused status known =>
      subst own
      have refused : r.status = 400 := status
      exact ⟨.refused (by omega),
        .of_modest unchanged runs (.stat isBlock decoded nothing contains refused)⟩
  | cached kind other copy =>
    cases leaves with
    | notModified status known =>
      exact ⟨.notModified status,
        .of_modest (untouched_notModified g w kind) runs (.cached other decoded status)⟩
  | collected isArchive copy =>
    cases leaves with
    | notModified status known =>
      exact ⟨.notModified status,
        .of_modest (untouched_notModified g w .archive) runs
          (.collected isArchive decoded status)⟩
  | headOnly headers isFile own unlocks method success =>
    cases leaves with
    | bare same known =>
      exact ⟨.headOnly isFile method,
        .of_modest unchanged runs (.lookUps unlocks.isLookUp (by omega))⟩
  | blockless headers isFile own unlocks isEmpty =>
    cases leaves with
    | bare same known =>
      exact ⟨.blockless isFile decoded ⟨_, _, _, own, unlocks, runs, isEmpty⟩,
        .of_modest unchanged runs (.lookUps unlocks.isLookUp (by omega))⟩
  | session => exact absurd rfl (none _ _ _)

/-- An answer without a session leaves the gateway as it was, and an answer with one
takes the connection over once and uses one number. -/
theorem spared_or_started (svc : Services World Handle File)
    (routed : Route.ofTarget? request.target = some route)
    (delivery : isDelivery route.resource = true) {waiter : Waiter} (pending : waiter ≠ .done)
    {r : Response (Delivering Handle File)}
    (answered : poll svc ⟨request, waiter⟩ g = (.ready r, g')) :
    (Sessionless svc route request g.world r.status → Spared svc route r.status g g') ∧
      (¬Sessionless svc route request g.world r.status →
        Started route.resource request.connection r.body g g') := by
  obtain ⟨answered, done⟩ := answered_of_poll routed delivery answered
  have free := fun c owned => Waiter.dispatching_of_poll pending (done c owned)
  have without (both : Sessionless svc route request g.world r.status ∧
      Spared svc route r.status g g') :
      (Sessionless svc route request g.world r.status → Spared svc route r.status g g') ∧
        (¬Sessionless svc route request g.world r.status →
          Started route.resource request.connection r.body g g') :=
    ⟨fun _ => both.2, fun busy => absurd both.1 busy⟩
  cases answered with
  | declined status known =>
    exact without ⟨.refused status,
      .of_modest (untouched_withWorld g g.world) (.nil _) (.lookUps (by simp) (by omega))⟩
  | @ended token rest errands w exit _ _ decoded runs ends leaves =>
    cases exit with
    | refused | notModified | bare =>
      exact without (spared_of_ends decoded runs ends leaves fun _ _ _ same => by cases same)
    | session =>
      cases ends with
      | session headers delivers deals noCopy =>
        obtain ⟨same, started⟩ := started_of_leaves (g := g.withWorld w) free leaves
        rw [delivers] at started
        have busy := not_sessionless_of_deals decoded runs delivers deals
        rw [← same] at busy
        exact ⟨fun sessionless => absurd sessionless busy,
          fun _ => ⟨started.slot, started.nextSession, started.counted⟩⟩

end Gateway

/-- A world in memory with an archive of three bytes; its token is `t`. -/
def MemoryWorld.withArchive : MemoryWorld :=
  let files := (FileSystem.writeFile {} "/z" [7, 8, 9]).toOption.getD {}
  let grant : Grant := ⟨"repo", "\x7b\"dir_name\":\"d\"\x7d", .downloadDirLink, "user"⟩
  { empty {} files with
    catalog := { inner := ({} : MemoryCatalog).put (.grant "t" grant) }
    archives := (ArchiveStore.register "t" "/z" ⟨{ directory := "/a" }, files⟩) }

namespace Gateway

open MemoryWorld

/-- An archive whose client has a copy is discarded without a session; one that is asked
for goes out in a session. -/
theorem spared_or_started_of_archive :
    let svc := MemoryWorld.services {} true ⟨⟨2024, 1, 1⟩, 0, 0, 0⟩
    let g : Gateway MemoryWorld := { world := withArchive }
    let request (headers : List Header) : Request := ⟨.get, "/zip/t", headers, some "c"⟩
    let route : Route := ⟨.archive, [("token", "t")]⟩
    (∃ r g', poll svc ⟨request [("if-modified-since", "x")], .idle⟩ g = (.ready r, g') ∧
        r.status = 304 ∧ Spared svc route 304 g g') ∧
      ∃ r g', poll svc ⟨request [], .idle⟩ g = (.ready r, g') ∧ r.status = 200 ∧
        Started .archive (some "c") r.body g g' := by
  intro svc g request route
  have routed : Route.ofTarget? "/zip/t" = some route := by decide
  have answers (headers : List Header) (status : Nat) (length : Option String)
      (body : Option Bytes)
      (shown : (poll svc ⟨request headers, .idle⟩ g).1.glimpse = some (status, length, body)) :
      ∃ r g', poll svc ⟨request headers, .idle⟩ g = (.ready r, g') ∧ r.status = status := by
    generalize poll svc ⟨request headers, .idle⟩ g = answer at shown
    obtain ⟨w | r, g'⟩ := answer
    · cases shown
    · exact ⟨r, g', rfl, congrArg Prod.fst (Option.some.inj shown)⟩
  constructor
  · obtain ⟨r, g', answered, status⟩ :=
      answers [("if-modified-since", "x")] 304 (some "0") (some []) (by decide +kernel)
    refine ⟨r, g', answered, status, ?_⟩
    rw [← status]
    exact (spared_or_started svc routed rfl (by decide) answered).1 (.notModified status)
  · obtain ⟨r, g', answered, status⟩ := answers [] 200 (some "3") none (by decide +kernel)
    refine ⟨r, g', answered, status, ?_⟩
    refine (spared_or_started svc routed rfl (by decide) answered).2 ?_
    rintro (error | copy | ⟨isFile, -⟩ | ⟨isFile, -⟩)
    · omega
    · omega
    · cases isFile
    · cases isFile

end Gateway

end StreamGate
