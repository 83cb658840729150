import StreamGate.Proofs.Gateway.Sparing

/-!
# `HEAD`

What a `HEAD` does besides being answered.  For a file it does nothing.  For a block
and for an archive it does what `GET` does and drops the body, so a session is started
only to be broken off, and an archive is gone afterwards.

* `Gateway.Spent`: a session that nobody can read.
* `Gateway.head_effects`: when there is one, and what else happens.
-/

namespace StreamGate

variable {World Handle File : Type} {svc : Services World Handle File}

namespace Gateway

variable {route : Route} {request : Request} {g g' : Gateway World}

/-- A session was started on a connection and was over before the answer: it was broken
off, or it had nothing to send. -/
structure Spent (resource : Resource) (conn : Option ConnectionId) (g g' : Gateway World) :
    Prop where
  slot : ∀ c, g'.slot c =
    if conn = some c then ((g.slot c).taken g.nextSession).restore else g.slot c
  nextSession : g'.nextSession = g.nextSession + 1
  counted : ∃ kind : TransferKind, kind.resource = resource ∧
    ∃ ending ∈ [Counter.transfersAborted kind .disconnect, .transfersCompleted kind],
      ∀ c, c.isUsage = false → g'.metrics.count c = g.metrics.count c +
        (if .transfersStarted kind = c then 1 else 0) + if ending = c then 1 else 0

/-- A session that is no body is spent. -/
theorem spent_of_leaves {status : Nat} {headers : List Header}
    {t : Access.Transfer (Delivering Handle File)} {r : Response (Delivering Handle File)}
    (free : ∀ c, request.connection = some c → (g.slot c).isDispatching = true)
    (method : request.method = .head)
    (leaves : Exit.Leaves svc request g (.session status headers t) r g') :
    r.status = status ∧ Spent t.kind.resource request.connection g g' ∧
      g'.world = svc.returned t.source g.world := by
  obtain ⟨same, started⟩ := started_of_leaves free leaves
  have dropped (known : ∃ bytes, r.body = .known bytes) (c : ConnectionId) : g'.slot c =
      if request.connection = some c then ((g.slot c).taken g.nextSession).restore
      else g.slot c := by
    obtain ⟨bytes, known⟩ := known
    have slot := started.slot c
    rw [known] at slot
    exact slot
  cases leaves with
  | streaming asked => exact absurd method asked
  | atOnce empty _ known =>
    refine ⟨same, ⟨dropped known, started.nextSession, t.kind, rfl, _, .tail _ (.head _),
      fun c other => ?_⟩, world_settle ..⟩
    rw [count_settle _ _ _ _ _ other, Metrics.count_completed, withWorld, metrics_opened,
      Metrics.count_started]
    show _ + ite _ 0 0 = _
    rw [ite_self]
    rfl
  | dropped _ announces _ known =>
    refine ⟨same, ⟨dropped known, started.nextSession, t.kind, rfl, _, .head _,
      fun c other => ?_⟩, ?_⟩
    · show (Metrics.aborted _ _ _).count _ = _
      rw [Metrics.count_aborted, metrics_restore, withWorld, metrics_opened, Metrics.count_started]
    · cases request.connection <;> rfl

/-- What a request has done to the gateway and asked of the services. -/
structure HeadEffects (svc : Services World Handle File) (route : Route) (request : Request)
    (status : Nat) (g g' : Gateway World) (errands : List Errand) : Prop where
  runs : svc.Runs g.world errands g'.world
  opensNone : ∀ ref id, .openBlock ref id ∉ errands
  /-- Nothing happens for a file, and nothing without success. -/
  free : route.resource = .file ∨ status ≠ 200 →
    Untouched g g' ∧ ∀ token, .discard token ∉ errands
  spent : route.resource ≠ .file → status = 200 → Spent route.resource request.connection g g'
  discarded : route.resource = .archive → status = 200 →
    ∃ token rest grant, Route.decodeParams route.params = .ok (token :: rest) ∧
      errands = [.grant token (.ok (some grant)), .discard token]

/-- A `HEAD` that is answered without a session is without effect. -/
theorem headEffects_of_quiet {status : Nat} {errands : List Errand}
    (untouched : Untouched g g') (runs : svc.Runs g.world errands g'.world)
    (opensNone : ∀ ref id, .openBlock ref id ∉ errands) (keeps : ∀ token, .discard token ∉ errands)
    (quiet : route.resource = .file ∨ status ≠ 200) :
    HeadEffects svc route request status g g' errands where
  runs := runs
  opensNone := opensNone
  free _ := ⟨untouched, keeps⟩
  spent other success := absurd success (quiet.resolve_left other)
  discarded isArchive success := by
    rcases quiet with isFile | failure
    · rw [isArchive] at isFile
      cases isFile
    · exact absurd success failure

theorem openBlock_not_mem {errands : List Errand}
    (lookUps : ∀ errand ∈ errands, errand.isLookUp = true) (ref : StoreRef) (id : BlockId) :
    .openBlock ref id ∉ errands := fun mem => by cases lookUps _ mem

theorem discard_not_mem {errands : List Errand}
    (lookUps : ∀ errand ∈ errands, errand.isLookUp = true) (token : String) :
    .discard token ∉ errands := fun mem => by cases lookUps _ mem

/-- A `HEAD` that a session is started for spends it.  That session is not for a file, so
it sends a block or an archive. -/
theorem headEffects_of_session {token : String} {rest : List String} {errands : List Errand}
    {w : World} {deal : Deal} {source : Delivering Handle File} {headers : List Header}
    {r : Response (Delivering Handle File)}
    (free : ∀ c, request.connection = some c → (g.slot c).isDispatching = true)
    (method : request.method = .head)
    (decoded : Route.decodeParams route.params = .ok (token :: rest))
    (runs : svc.Runs g.world errands w) (delivers : deal.kind.resource = route.resource)
    (deals : svc.Deals request token w errands deal source)
    (leaves : Exit.Leaves svc request (g.withWorld w) (.session deal.kind.status headers
      { kind := deal.kind, source, contentLength := deal.length, usage := deal.usage }) r g') :
    HeadEffects svc route request r.status g g' (errands ++ Services.closing source) := by
  obtain ⟨same, left, world⟩ := spent_of_leaves (g := g.withWorld w) free method leaves
  have world : g'.world = svc.returned source w := world
  have spent : Spent route.resource request.connection g g' :=
    delivers ▸ ⟨left.slot, left.nextSession, left.counted⟩
  have runs : svc.Runs g.world (errands ++ Services.closing source) g'.world := by
    rw [world]
    exact runs.append (svc.runs_returned source w)
  cases deals with
  | file _ _ _ _ asked => exact absurd method asked
  | range _ _ _ _ asked => exact absurd method asked
  | @block l _ _ _ _ nothing =>
    have lookUps := l.isLookUp_of_nothing nothing
    refine ⟨runs, fun ref id mem => ?_, fun quiet => ?_, fun _ _ => spent, fun isArchive => ?_⟩
    · simp [Services.closing, openBlock_not_mem lookUps] at mem
    · rw [← delivers, same] at quiet
      rcases quiet with isFile | failure
      · cases isFile
      · exact absurd rfl failure
    · rw [isArchive] at delivers
      cases delivers
  | @archive grant _ _ relay _ _ opened =>
    obtain ⟨_, -, -, -, own, -⟩ := Relay.openFile_spec opened
    refine ⟨runs, fun ref id mem => ?_, fun quiet => ?_, fun _ _ => spent, fun _ _ => ?_⟩
    · simp [Services.closing] at mem
    · rw [← delivers, same] at quiet
      rcases quiet with isFile | failure
      · cases isFile
      · exact absurd rfl failure
    · exact ⟨token, rest, grant, decoded, by rw [Services.closing, own]; rfl⟩

/-- The effects of a `HEAD` by a client without a copy. -/
theorem head_effects (svc : Services World Handle File)
    (routed : Route.ofTarget? request.target = some route)
    (delivery : isDelivery route.resource = true) (method : request.method = .head)
    (noCopy : hasCachedCopy request.headers = false) {waiter : Waiter} (pending : waiter ≠ .done)
    {r : Response (Delivering Handle File)}
    (answered : poll svc ⟨request, waiter⟩ g = (.ready r, g')) :
    ∃ errands, HeadEffects svc route request r.status g g' errands := by
  obtain ⟨answered, done⟩ := answered_of_poll routed delivery answered
  have free := fun c owned => Waiter.dispatching_of_poll pending (done c owned)
  cases answered with
  | declined status known =>
    exact ⟨[], headEffects_of_quiet (untouched_withWorld g g.world) (.nil _) (by simp) (by simp)
      (.inr (by omega))⟩
  | @ended token rest errands w exit _ _ decoded runs ends leaves =>
    have unchanged := untouched_withWorld g w
    have quiet (lookUps : ∀ errand ∈ errands, errand.isLookUp = true) (same : g' = g.withWorld w)
        (quiet : route.resource = .file ∨ r.status ≠ 200) :
        ∃ errands, HeadEffects svc route request r.status g g' errands := by
      subst same
      exact ⟨errands, headEffects_of_quiet unchanged runs (openBlock_not_mem lookUps)
        (discard_not_mem lookUps) quiet⟩
    cases ends with
    | refused e lookUps =>
      cases leaves with
      | refused status known =>
        have refused := status ▸ e.status_ge
        exact quiet lookUps rfl (.inr (by omega))
    | @unavailable l _ _ isBlock own nothing contains =>
      cases leaves with
      | refused status known =>
        have lookUps := l.isLookUp_of_nothing nothing
        have refused : r.status = 400 := status
        refine ⟨_, headEffects_of_quiet unchanged runs (fun ref id mem => ?_) (fun token mem => ?_)
          (.inr (by omega))⟩
        · simp [openBlock_not_mem lookUps] at mem
        · simp [discard_not_mem lookUps] at mem
    | cached _ _ copy | collected _ copy =>
      rw [noCopy] at copy
      cases copy
    | headOnly headers isFile own unlocks _ success =>
      cases leaves with
      | bare same known => exact quiet unlocks.isLookUp rfl (.inl isFile)
    | blockless headers isFile own unlocks isEmpty =>
      cases leaves with
      | bare same known => exact quiet unlocks.isLookUp rfl (.inl isFile)
    | session headers delivers deals _ =>
      exact ⟨_, headEffects_of_session free method decoded runs delivers deals leaves⟩

open MemoryWorld

/-- A `HEAD` for a file leaves the gateway as it was. -/
theorem head_effects_of_file :
    let svc := MemoryWorld.services {} true ⟨⟨2024, 1, 1⟩, 0, 0, 0⟩
    let g : Gateway MemoryWorld := { world := withManifest ⟨5, [BlockId.ofContent []]⟩ }
    let request : Request := ⟨.head, "/files/t/n", [], some "c"⟩
    ∃ r g', poll svc ⟨request, .idle⟩ g = (.ready r, g') ∧ r.status = 200 ∧ Untouched g g' := by
  intro svc g request
  have routed : Route.ofTarget? request.target =
      some ⟨.file, [("token", "t"), ("filename", "n")]⟩ := by decide
  have shown : (poll svc ⟨request, .idle⟩ g).1.glimpse = some (200, some "5", some []) := by
    decide +kernel
  generalize answered : poll svc ⟨request, .idle⟩ g = answer at shown
  obtain ⟨w | r, g'⟩ := answer
  · cases shown
  · refine ⟨r, g', rfl, congrArg Prod.fst (Option.some.inj shown), ?_⟩
    obtain ⟨errands, effects⟩ := head_effects svc routed rfl rfl rfl (by decide) answered
    exact (effects.free (.inl rfl)).1

/-- A `HEAD` for an archive starts a session that nobody can read, and the archive is gone
afterwards. -/
theorem head_discards_archive :
    let svc := MemoryWorld.services {} true ⟨⟨2024, 1, 1⟩, 0, 0, 0⟩
    let g : Gateway MemoryWorld := { world := withArchive }
    let (answer, g') := poll svc ⟨⟨.head, "/zip/t", [], some "c"⟩, .idle⟩ g
    answer.glimpse = some (200, some "3", some []) ∧
      (g.slot "c").takeovers = 0 ∧ (g'.slot "c").takeovers = 1 ∧
      g.nextSession = 1 ∧ g'.nextSession = 2 ∧
      g'.metrics.count (.transfersStarted .archive) = 1 ∧
      g'.metrics.count (.transfersAborted .archive .disconnect) = 1 ∧
      g.world.archives.path? "t" = some "/z" ∧ g'.world.archives.path? "t" = none ∧
      g.world.archives.files.isFile "/z" = true ∧ g'.world.archives.files.isFile "/z" = false := by
  decide +kernel

end Gateway

end StreamGate
