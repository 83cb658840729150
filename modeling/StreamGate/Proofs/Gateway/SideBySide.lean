import StreamGate.Gateway.Serve
import StreamGate.Proofs.Gateway.FileDelivery
import StreamGate.Proofs.Transfer.SideBySide

/-!
# Gateways side by side

Two gateways that agree on what a token leads to answer a request with this token
alike, whatever else they hold.

A `Scope` says what the token leads to: its grant, the repository of that, and the
manifest of the granted object.  `Services.Agree` says that two gateways agree on the
scope: their catalogs answer alike along this way, and their stores do on the blocks
of the manifest.  In between the worlds may change, as long as they stay related.

* `Access.Pairs`: two steps of a request that go well together and are refused
  together.
* `Response.Beside`: two answers that no client can tell apart, but for the time they
  were made at.
* `Gateway.send_eq_respond`: on a free connection a request is answered at once.
* `Gateway.sameAnswer_of_agree`: the answers to a request for a file or for a block.
-/

namespace StreamGate

variable {World World' Handle Handle' File File' : Type}

/-! ## What a client can see -/

/-- The fields of an answer that do not say when it was made. -/
def Header.timeless (headers : List Header) : List Header :=
  headers.filter fun h => h.1 ≠ "last-modified"

/-- The time of an answer does not hide any other field. -/
theorem Header.get?_timeless {name : String} (other : name ≠ "last-modified")
    (headers : List Header) : get? (timeless headers) name = get? headers name := by
  unfold get? timeless
  rw [List.find?_filter]
  congr 2
  funext h
  by_cases same : h.1 = name
  · simp [same, other]
  · simp [same]

theorem Header.timeless_append (headers more : List Header) :
    timeless (headers ++ more) = timeless headers ++ timeless more :=
  List.filter_append ..

/-- Two bodies that are read alike. -/
def Body.Beside
    (rel : Delivering Handle File × Gateway World →
      Delivering Handle' File' × Gateway World' → Prop) :
    Body (Delivering Handle File) × Gateway World →
      Body (Delivering Handle' File') × Gateway World' → Prop
  | (.known bytes, _), (.known bytes', _) => bytes = bytes'
  | (.streamed _ s, g), (.streamed _ t, g') => Session.Beside rel (s, g) (t, g')
  | _, _ => False

/-- Two answers with the same status, the same fields but for the time, and bodies
that are read alike. -/
structure Response.Beside
    (rel : Delivering Handle File × Gateway World →
      Delivering Handle' File' × Gateway World' → Prop)
    (a : Response (Delivering Handle File) × Gateway World)
    (b : Response (Delivering Handle' File') × Gateway World') : Prop where
  status : a.1.status = b.1.status
  headers : Header.timeless a.1.headers = Header.timeless b.1.headers
  body : Body.Beside rel (a.1.body, a.2) (b.1.body, b.2)

section Bodies

variable {svc : Services World Handle File} {svc' : Services World' Handle' File'}
  {rel : Delivering Handle File × Gateway World → Delivering Handle' File' × Gateway World' → Prop}
  {g : Gateway World} {g' : Gateway World'}

/-- Two frames that are the same; if they are bytes, more can follow. -/
def Body.InStep
    (rel : Delivering Handle File × Gateway World →
      Delivering Handle' File' × Gateway World' → Prop)
    (out : Frame × Body (Delivering Handle File) × Gateway World)
    (out' : Frame × Body (Delivering Handle' File') × Gateway World') : Prop :=
  out.1 = out'.1 ∧ ∀ data, out.1 = .data data → Body.Beside rel out.2 out'.2

theorem Body.Beside.next (alike : svc.source.Matches svc'.source rel)
    {b : Body (Delivering Handle File)} {b' : Body (Delivering Handle' File')}
    (beside : Body.Beside rel (b, g) (b', g')) :
    Body.InStep rel (b.next svc g) (b'.next svc' g') := by
  cases b with
  | known bytes =>
    cases b' with
    | streamed conn' t => exact beside.elim
    | known bytes' =>
      obtain rfl : bytes = bytes' := beside
      cases bytes with
      | nil => exact ⟨rfl, fun _ _ => rfl⟩
      | cons x more => exact ⟨rfl, fun _ _ => rfl⟩
  | streamed conn s =>
    cases b' with
    | known bytes' => exact beside.elim
    | streamed conn' t =>
      have stepped := Session.Beside.step alike (Gateway.host svc.countsUsage conn)
        (Gateway.host svc'.countsUsage conn') beside
      unfold Body.next
      dsimp only
      generalize s.step svc.source (Gateway.host svc.countsUsage conn) g = out at stepped ⊢
      generalize t.step svc'.source (Gateway.host svc'.countsUsage conn') g' = out' at stepped ⊢
      obtain ⟨r, s₁, g₁⟩ := out
      obtain ⟨r', s₂, g₂⟩ := out'
      obtain ⟨same, after⟩ := stepped
      cases same
      refine ⟨rfl, fun data framed => ?_⟩
      match r, framed with
      | some (.ok bytes), _ => exact after bytes rfl

/-- Bodies side by side are read alike. -/
theorem Body.Beside.readUpTo (alike : svc.source.Matches svc'.source rel) (limit : Nat)
    {b : Body (Delivering Handle File)} {b' : Body (Delivering Handle' File')}
    (beside : Body.Beside rel (b, g) (b', g')) :
    (b.readUpTo svc limit g).1 = (b'.readUpTo svc' limit g').1 := by
  induction limit generalizing b b' g g' with
  | zero => rfl
  | succ limit ih =>
    have stepped := Body.Beside.next alike beside
    unfold Body.readUpTo
    generalize b.next svc g = out at stepped ⊢
    generalize b'.next svc' g' = out' at stepped ⊢
    obtain ⟨frame, b₁, g₁⟩ := out
    obtain ⟨frame', b₂, g₂⟩ := out'
    obtain ⟨same, after⟩ := stepped
    cases same
    cases frame with
    | done => rfl
    | failed e => rfl
    | data bytes =>
      have rest := ih (after bytes rfl)
      dsimp only
      rw [rest]

end Bodies

/-! ## Sources -/

/-- Cursors on the same blocks, in gateways whose worlds are related. -/
def Services.OnCursors (svc : Services World Handle File) (svc' : Services World' Handle' File')
    (world : World → World' → Prop) (handle : Handle → Handle' → Prop) :
    Delivering Handle File × Gateway World → Delivering Handle' File' × Gateway World' → Prop
  | (.inl c, g), (.inl c', g') => ∃ ref ids, svc.store.Matches svc'.store ref ids world handle ∧
      Cursor.Beside ref ids world handle (c, g.world) (c', g'.world)
  | _, _ => False

theorem Services.source_matches (svc : Services World Handle File)
    (svc' : Services World' Handle' File') (world : World → World' → Prop)
    (handle : Handle → Handle' → Prop) :
    svc.source.Matches svc'.source (svc.OnCursors svc' world handle) where
  start {s t} related := by
    match s, t, related with
    | (.inl c, g), (.inl c', g'), ⟨ref, ids, alike, beside⟩ =>
      have started := beside.begin alike
      simp only [Services.source, Source.inside, Source.either, Cursor.source]
      generalize c.begin svc.store g.world = out at started ⊢
      generalize c'.begin svc'.store g'.world = out' at started ⊢
      cases started with
      | error e => exact .error e
      | ok same after => exact .ok same ⟨ref, ids, alike, after⟩
  nextChunk {s t} related := by
    match s, t, related with
    | (.inl c, g), (.inl c', g'), ⟨ref, ids, alike, beside⟩ =>
      have chunks := beside.nextChunk alike
      simp only [Services.source, Source.inside, Source.either, Cursor.source]
      generalize c.nextChunk svc.store g.world = out at chunks ⊢
      generalize c'.nextChunk svc'.store g'.world = out' at chunks ⊢
      cases chunks with
      | error e => exact .error e
      | ok same after => exact .ok same ⟨ref, ids, alike, after⟩

/-! ## Agreement -/

/-- What a token leads to. -/
structure Scope where
  granted : Grant → Prop
  repo : Grant → Repo → Prop
  manifest : Grant → Repo → Manifest → Prop

/-- Two look-ups find the same thing, or nothing, and what is found is as stated. -/
def Found {α : Type} (p : α → Prop) (o o' : Option α) : Prop := o = o' ∧ ∀ a, o = some a → p a

/-- Two gateways agree on what a token leads to. -/
structure Services.Agree (svc : Services World Handle File) (svc' : Services World' Handle' File')
    (token : String) (scope : Scope) (world : World → World' → Prop)
    (handle : Handle → Handle' → Prop) : Prop where
  delivery : svc.delivery = svc'.delivery
  buffer : svc.buffer = svc'.buffer
  grant : ∀ {w w'}, world w w' →
    Alike (Found scope.granted) world (svc.catalog.grant? token w) (svc'.catalog.grant? token w')
  repo : ∀ {grant w w'}, scope.granted grant → world w w' →
    Alike (Found (scope.repo grant)) world (svc.catalog.repo? grant.repoId w)
      (svc'.catalog.repo? grant.repoId w')
  key : ∀ {grant repo w w'}, scope.repo grant repo → world w w' →
    Alike Eq world (svc.catalog.key? repo.repoId grant.username w)
      (svc'.catalog.key? repo.repoId grant.username w')
  manifest : ∀ {grant repo w w'}, scope.repo grant repo → world w w' →
    Alike (Found (scope.manifest grant repo)) world
      (svc.catalog.manifest? repo.storeRef grant.objectId w)
      (svc'.catalog.manifest? repo.storeRef grant.objectId w')
  store : ∀ {grant repo manifest}, scope.manifest grant repo manifest →
    svc.store.Matches svc'.store repo.storeRef manifest.blocks world handle

namespace Access

variable {α β α' β' : Type} {pre : Gateway World → Gateway World' → Prop}

/-! ## Steps in pairs -/

/-- Two steps that are refused together and otherwise go well together. -/
def Pairs (pre : Gateway World → Gateway World' → Prop) (act : Access World α)
    (act' : Access World' α') (post : α → α' → Gateway World → Gateway World' → Prop) : Prop :=
  ∀ g g', pre g g' → match act.run g, act'.run g' with
    | (.ok a, h), (.ok a', h') => post a a' h h'
    | (.error e, _), (.error e', _) => e = e'
    | _, _ => False

theorem Pairs.bind {act : Access World α} {act' : Access World' α'} {f : α → Access World β}
    {f' : α' → Access World' β'} {mid : α → α' → Gateway World → Gateway World' → Prop}
    {post : β → β' → Gateway World → Gateway World' → Prop} (first : Pairs pre act act' mid)
    (rest : ∀ a a', Pairs (mid a a') (f a) (f' a') post) :
    Pairs pre (act >>= f) (act' >>= f') post := by
  intro g g' well
  have begun := first g g' well
  rw [run_bind, run_bind]
  generalize act.run g = out at begun ⊢
  generalize act'.run g' = out' at begun ⊢
  match out, out', begun with
  | (.ok a, h), (.ok a', h'), well => exact rest a a' h h' well
  | (.error _, _), (.error _, _), same => exact same

/-- Both steps yield the same value, which is as stated, and all is well as before. -/
def Same (p : α → Prop) (pre : Gateway World → Gateway World' → Prop) (a a' : α)
    (g : Gateway World) (g' : Gateway World') : Prop :=
  a = a' ∧ p a ∧ pre g g'

theorem Pairs.bind_same {act : Access World α} {act' : Access World' α} {f : α → Access World β}
    {f' : α → Access World' β'} {p : α → Prop}
    {post : β → β' → Gateway World → Gateway World' → Prop}
    (first : Pairs pre act act' (Same p pre)) (rest : ∀ a, p a → Pairs pre (f a) (f' a) post) :
    Pairs pre (act >>= f) (act' >>= f') post := by
  refine first.bind fun a a' => ?_
  rintro g g' ⟨rfl, holds, well⟩
  exact rest a holds g g' well

theorem pairs_throw {post : α → α' → Gateway World → Gateway World' → Prop} (e : AccessError) :
    Pairs pre (throw e) (throw e) post :=
  fun _ _ _ => rfl

theorem pairs_throw_bind {post : β → β' → Gateway World → Gateway World' → Prop} (e : AccessError)
    (f : α → Access World β) (f' : α' → Access World' β') :
    Pairs pre (throw e >>= f) (throw e >>= f') post :=
  fun _ _ _ => rfl

theorem pairs_pure {post : α → α' → Gateway World → Gateway World' → Prop} {a : α} {a' : α'}
    (holds : ∀ g g', pre g g' → post a a' g g') : Pairs pre (pure a) (pure a') post :=
  fun g g' well => holds g g' well

theorem pairs_ite {c : Prop} [Decidable c] {yes no : Access World α} {yes' no' : Access World' α'}
    {post : α → α' → Gateway World → Gateway World' → Prop} (then_ : c → Pairs pre yes yes' post)
    (else_ : ¬c → Pairs pre no no' post) :
    Pairs pre (if c then yes else no) (if c then yes' else no') post := by
  split
  · exact then_ ‹_›
  · exact else_ ‹_›

theorem pairs_require (e : AccessError) {p : α → Prop} {o o' : Option α} (found : Found p o o') :
    Pairs pre (require e o) (require e o') (Same p pre) := by
  obtain ⟨rfl, holds⟩ := found
  cases o with
  | none => exact pairs_throw e
  | some a => exact pairs_pure fun g g' well => ⟨rfl, holds a rfl, well⟩

/-- The worlds of two gateways are related. -/
def Related (world : World → World' → Prop) (g : Gateway World) (g' : Gateway World') : Prop :=
  world g.world g'.world

theorem pairs_lookUp {world : World → World' → Prop} {related : α → α' → Prop}
    {f : World → Except Failure α × World} {f' : World' → Except Failure α' × World'}
    (alike : ∀ {w w'}, world w w' → Alike related world (f w) (f' w')) :
    Pairs (Related world) (lookUp f) (lookUp f')
      (fun a a' g g' => related a a' ∧ Related world g g') := by
  intro g g' well
  have looked := alike well
  unfold lookUp
  rw [run_bind_of_gives (gives_get g), run_bind_of_gives (gives_get g')]
  generalize f g.world = out at looked ⊢
  generalize f' g'.world = out' at looked ⊢
  cases looked with
  | ok holds after => exact ⟨holds, after⟩
  | error => exact rfl

/-- What was looked up and is required. -/
theorem pairs_find {world : World → World' → Prop} {p : α → Prop}
    {f : World → Except Failure (Option α) × World}
    {f' : World' → Except Failure (Option α) × World'}
    (alike : ∀ {w w'}, world w w' → Alike (Found p) world (f w) (f' w')) (e : AccessError) :
    Pairs (Related world) (do require e (← lookUp f)) (do require e (← lookUp f'))
      (Same p (Related world)) := by
  refine (pairs_lookUp alike).bind fun o o' => ?_
  rintro g g' ⟨found, well⟩
  exact pairs_require e found g g' well

variable {svc : Services World Handle File} {svc' : Services World' Handle' File'} {token : String}
  {scope : Scope} {world : World → World' → Prop} {handle : Handle → Handle' → Prop}

/-! ## Common checks -/

theorem pairs_resolveGrant (agree : svc.Agree svc' token scope world handle) :
    Pairs (Related world) (resolveGrant svc token) (resolveGrant svc' token)
      (Same scope.granted (Related world)) :=
  pairs_find agree.grant _

theorem pairs_loadRepo (agree : svc.Agree svc' token scope world handle) {grant : Grant}
    (granted : scope.granted grant) :
    Pairs (Related world) (loadRepo svc grant.repoId) (loadRepo svc' grant.repoId)
      (Same (scope.repo grant) (Related world)) :=
  pairs_find (agree.repo granted) _

theorem pairs_loadKey (agree : svc.Agree svc' token scope world handle) {grant : Grant}
    {repo : Repo} (leads : scope.repo grant repo) :
    Pairs (Related world) (loadKey svc repo grant.username) (loadKey svc' repo grant.username)
      (Same (fun _ => True) (Related world)) := by
  unfold loadKey
  refine pairs_ite (fun _ => ?_) fun _ => pairs_pure fun _ _ well => ⟨rfl, trivial, well⟩
  refine (pairs_lookUp (agree.key leads)).bind fun o o' => ?_
  rintro g g' ⟨rfl, well⟩
  refine (pairs_require (p := fun _ => True) _ ⟨rfl, fun _ _ => trivial⟩).bind_same
    (fun material _ => ?_) g g' well
  split
  · exact pairs_pure fun _ _ well => ⟨rfl, trivial, well⟩
  · exact pairs_throw _

theorem pairs_loadManifest (agree : svc.Agree svc' token scope world handle) {grant : Grant}
    {repo : Repo} (leads : scope.repo grant repo) :
    Pairs (Related world) (loadManifest svc repo grant.objectId)
      (loadManifest svc' repo grant.objectId) (Same (scope.manifest grant repo) (Related world)) :=
  pairs_find (agree.manifest leads) _

theorem pairs_checkObject (agree : svc.Agree svc' token scope world handle) {grant : Grant}
    {repo : Repo} (leads : scope.repo grant repo) :
    Pairs (Related world) (checkObject svc repo grant.objectId)
      (checkObject svc' repo grant.objectId) (Same (fun _ => True) (Related world)) := by
  have exists_alike {w w'} (worlds : world w w') :
      Alike Eq world (svc.catalog.objectExists repo.storeRef grant.objectId w)
        (svc'.catalog.objectExists repo.storeRef grant.objectId w') := by
    have looked := agree.manifest leads worlds
    unfold Catalog.objectExists
    generalize svc.catalog.manifest? repo.storeRef grant.objectId w = out at looked ⊢
    generalize svc'.catalog.manifest? repo.storeRef grant.objectId w' = out' at looked ⊢
    cases looked with
    | ok found after => exact .ok (congrArg Option.isSome found.1) after
    | error e => exact .error e
  unfold checkObject
  refine (pairs_lookUp exists_alike).bind fun there there' => ?_
  rintro g g' ⟨rfl, well⟩
  exact pairs_ite (fun _ => pairs_throw _)
    (fun _ => pairs_pure fun _ _ well => ⟨rfl, trivial, well⟩)
    g g' well

/-! ## Headers -/

theorem timeless_file (d : Delivery) (now now' : Instant) (name : String) (op : Operation)
    (size : UInt64) (userAgent : Option String) :
    Header.timeless (d.file now name op size userAgent) =
      Header.timeless (d.file now' name op size userAgent) := by
  simp [Header.timeless, Delivery.file, Delivery.caching]

theorem timeless_range (d : Delivery) (now now' : Instant) (name : String) (op : Operation)
    (r : ByteRange) (size : UInt64) (userAgent : Option String) :
    Header.timeless (d.range now name op r size userAgent) =
      Header.timeless (d.range now' name op r size userAgent) := by
  simp [Header.timeless, Delivery.range, Delivery.caching]

theorem timeless_block (d : Delivery) (now now' : Instant) (id : String) (size : Nat)
    (userAgent : Option String) :
    Header.timeless (d.block now id size userAgent) =
      Header.timeless (d.block now' id size userAgent) := by
  simp [Header.timeless, Delivery.block, Delivery.caching]

/-! ## Deliveries -/

/-- Two answers to the same request. -/
def Answers (svc : Services World Handle File) (svc' : Services World' Handle' File')
    (world : World → World' → Prop) (handle : Handle → Handle' → Prop)
    (r : Response (Delivering Handle File)) (r' : Response (Delivering Handle' File'))
    (g : Gateway World) (g' : Gateway World') : Prop :=
  Response.Beside (svc.OnCursors svc' world handle) (r, g) (r', g')

theorem pairs_bare (status : Nat) {headers headers' : List Header}
    (timeless : Header.timeless headers = Header.timeless headers') :
    Pairs pre (pure (.bare status headers)) (pure (.bare status headers'))
      (Answers svc svc' world handle) :=
  pairs_pure fun _ _ _ => ⟨rfl, timeless, rfl⟩

theorem pairs_notModified (kind : TransferKind) :
    Pairs pre (notModified kind) (notModified kind) (Answers svc svc' world handle) :=
  fun _ _ _ => ⟨rfl, rfl, rfl⟩

/-- A session that announces nothing is over before the answer goes out. -/
theorem run_startSession_empty (svc : Services World Handle File) (conn : Option ConnectionId)
    (status : Nat) (headers : List Header) (t : Transfer (Delivering Handle File))
    (g : Gateway World) (empty : t.contentLength = 0) :
    ∃ g', (startSession svc conn status headers t).run g =
      (.ok ⟨status, headers, .known []⟩, g') := by
  unfold startSession
  rw [run_bind_of_gives (gives_get g)]
  simp only [Session.intoBody, empty, ↓reduceIte]
  exact ⟨_, rfl⟩

theorem pairs_startSession (conn : Option ConnectionId) (status : Nat)
    {headers headers' : List Header}
    (timeless : Header.timeless headers = Header.timeless headers') (kind : TransferKind)
    (length : Nat) (usage usage' : Option UsageEvent) {source : Delivering Handle File}
    {source' : Delivering Handle' File'}
    (beside : ∀ g g', Related world g g' →
      svc.OnCursors svc' world handle (source, g) (source', g')) :
    Pairs (Related world) (startSession svc conn status headers ⟨kind, source, length, usage⟩)
      (startSession svc' conn status headers' ⟨kind, source', length, usage'⟩)
      (Answers svc svc' world handle) := by
  intro g g' well
  by_cases empty : length = 0
  · obtain ⟨h, ran⟩ :=
      run_startSession_empty svc conn status headers ⟨kind, source, length, usage⟩ g empty
    obtain ⟨h', ran'⟩ :=
      run_startSession_empty svc' conn status headers' ⟨kind, source', length, usage'⟩ g' empty
    rw [ran, ran']
    exact ⟨rfl, timeless, rfl⟩
  · obtain ⟨h, ran, same, -⟩ :=
      run_startSession svc conn status headers ⟨kind, source, length, usage⟩ g empty
    obtain ⟨h', ran', same', -⟩ :=
      run_startSession svc' conn status headers' ⟨kind, source', length, usage'⟩ g' empty
    have after : Related world h h' := by
      unfold Related
      rwa [same, same']
    rw [ran, ran']
    exact ⟨rfl, timeless, rfl, rfl, rfl, fun _ => beside h h' after⟩

theorem onCursors_start (agree : svc.Agree svc' token scope world handle) {grant : Grant}
    {repo : Repo} {manifest : Manifest} (lists : scope.manifest grant repo manifest)
    {blocks : List BlockId} (known : blocks ⊆ manifest.blocks) (total buffer : Nat)
    (seekTo : Option Nat) (key : Option CipherKey) (g : Gateway World) (g' : Gateway World')
    (well : world g.world g'.world) :
    svc.OnCursors svc' world handle
      (.inl { Cursor.start repo.storeRef blocks total buffer with seekTo, key }, g)
      (.inl { Cursor.start repo.storeRef blocks total buffer with seekTo, key }, g') :=
  ⟨repo.storeRef, manifest.blocks, agree.store lists, .start known well total buffer seekTo key⟩

theorem pairs_deliverFile (agree : svc.Agree svc' token scope world handle) (f : FileRequest)
    (lists : scope.manifest f.grant f.repo f.manifest) (key : Option CipherKey) :
    Pairs (Related world) (deliverFile svc f key) (deliverFile svc' f key)
      (Answers svc svc' world handle) := by
  unfold deliverFile
  rw [← agree.delivery, ← agree.buffer]
  refine pairs_ite (fun _ => pairs_bare _ (timeless_file ..)) fun _ => ?_
  refine pairs_startSession _ _ (timeless_file ..) _ _ _ _ ?_
  exact onCursors_start agree lists (List.Subset.refl _) _ _ none key

theorem pairs_deliverRange (agree : svc.Agree svc' token scope world handle) (f : FileRequest)
    (lists : scope.manifest f.grant f.repo f.manifest) (header : String) :
    Pairs (Related world) (deliverRange svc f header) (deliverRange svc' f header)
      (Answers svc svc' world handle) := by
  unfold deliverRange
  rw [← agree.delivery, ← agree.buffer]
  refine pairs_ite (fun _ => pairs_bare _ rfl) fun _ => ?_
  split
  · exact pairs_throw _
  · rename_i r _
    refine pairs_ite (fun _ => pairs_bare _ (timeless_range ..)) fun _ => ?_
    refine pairs_startSession _ _ (timeless_range ..) _ _ _ _ ?_
    exact onCursors_start agree lists (List.Subset.refl _) _ _ (some r.first.toNat) none

/-- The deliveries of a file. -/
theorem pairs_file (agree : svc.Agree svc' token scope world handle) (request : Request)
    (name : String) :
    Pairs (Related world) (file svc request token name) (file svc' request token name)
      (Answers svc svc' world handle) := by
  unfold file
  refine (pairs_resolveGrant agree).bind_same fun grant granted => ?_
  refine pairs_ite (fun _ => pairs_throw_bind _ _ _) fun _ => ?_
  refine pairs_ite (fun _ => pairs_notModified _) fun _ => ?_
  refine (pairs_loadRepo agree granted).bind_same fun repo leads => ?_
  refine (pairs_loadKey agree leads).bind_same fun key _ => ?_
  refine (pairs_checkObject agree leads).bind_same fun _ _ => ?_
  refine (pairs_loadManifest agree leads).bind_same fun manifest lists => ?_
  split
  · exact pairs_deliverRange agree ⟨request, name, grant, repo, manifest⟩ lists _
  · exact pairs_deliverFile agree ⟨request, name, grant, repo, manifest⟩ lists _

/-- Which block an id names does not depend on any store. -/
theorem pairs_grantedBlock (manifest : Manifest) (text : String) :
    Pairs pre (grantedBlock manifest text) (grantedBlock manifest text)
      (Same (fun id => id ∈ manifest.blocks) pre) := by
  unfold grantedBlock
  split
  · exact pairs_throw _
  · split
    · rename_i id _ known
      refine pairs_pure fun g g' well => ⟨rfl, ?_, well⟩
      simpa [Manifest.contains] using known
    · exact pairs_throw _

theorem pairs_blockSize (agree : svc.Agree svc' token scope world handle) {grant : Grant}
    {repo : Repo} {manifest : Manifest} (lists : scope.manifest grant repo manifest) {id : BlockId}
    (known : id ∈ manifest.blocks) :
    Pairs (Related world) (blockSize svc repo.storeRef id) (blockSize svc' repo.storeRef id)
      (Same (fun _ => True) (Related world)) := by
  intro g g' well
  have looked := (agree.store lists).stat known well
  unfold blockSize
  rw [run_bind_of_gives (gives_get g), run_bind_of_gives (gives_get g')]
  generalize svc.store.stat repo.storeRef id g.world = out at looked ⊢
  generalize svc'.store.stat repo.storeRef id g'.world = out' at looked ⊢
  cases looked with
  | ok same after => exact ⟨congrArg (· % UInt64.size) same, trivial, after⟩
  | error => exact rfl

/-- The deliveries of a block. -/
theorem pairs_block (agree : svc.Agree svc' token scope world handle) (request : Request)
    (text : String) :
    Pairs (Related world) (block svc request token text) (block svc' request token text)
      (Answers svc svc' world handle) := by
  unfold block
  rw [← agree.delivery, ← agree.buffer]
  refine (pairs_resolveGrant agree).bind_same fun grant granted => ?_
  refine pairs_ite (fun _ => pairs_notModified _) fun _ => ?_
  refine (pairs_loadRepo agree granted).bind_same fun repo leads => ?_
  refine (pairs_checkObject agree leads).bind_same fun _ _ => ?_
  refine pairs_ite (fun _ => pairs_throw_bind _ _ _) fun _ => ?_
  refine (pairs_loadManifest agree leads).bind_same fun manifest lists => ?_
  refine (pairs_grantedBlock manifest text).bind_same fun id known => ?_
  refine (pairs_blockSize agree lists known).bind_same fun size _ => ?_
  refine pairs_startSession _ _ (timeless_block ..) _ _ _ _ ?_
  exact onCursors_start agree lists (List.cons_subset.2 ⟨known, List.nil_subset _⟩) _ _ none none

end Access

/-! ## Requests -/

namespace Gateway

variable {svc : Services World Handle File} {svc' : Services World' Handle' File'} {token : String}
  {scope : Scope} {world : World → World' → Prop} {handle : Handle → Handle' → Prop}
  {g : Gateway World} {g' : Gateway World'}

/-- The same answer without a body. -/
theorem beside_bare (status : Nat) (headers : List Header) :
    Response.Beside (svc.OnCursors svc' world handle) (.bare status headers, g)
      (.bare status headers, g') where
  status := rfl
  headers := rfl
  body := rfl

/-- The same refusal. -/
theorem beside_ofError (e : AccessError) (g : Gateway World) (g' : Gateway World') :
    Response.Beside (svc.OnCursors svc' world handle) (.ofError e, g) (.ofError e, g') where
  status := rfl
  headers := rfl
  body := Eq.refl (Bytes.ofText e.body)

theorem beside_settle {act : Access World (Response (Delivering Handle File))}
    {act' : Access World' (Response (Delivering Handle' File'))}
    (pairs : Access.Pairs (Access.Related world) act act' (Access.Answers svc svc' world handle))
    (worlds : world g.world g'.world) :
    Response.Beside (svc.OnCursors svc' world handle) (settle act g) (settle act' g') := by
  have ended := pairs g g' worlds
  unfold settle
  generalize act.run g = out at ended ⊢
  generalize act'.run g' = out' at ended ⊢
  obtain ⟨e | r, h⟩ := out
  · obtain ⟨e' | r', h'⟩ := out'
    · obtain rfl : e = e' := ended
      exact beside_ofError e h h'
    · exact ended.elim
  · obtain ⟨e' | r', h'⟩ := out'
    · exact ended.elim
    · exact ended

/-- A resource that tokens are for, other than archives. -/
def Delivered (resource : Resource) : Prop := resource = .file ∨ resource = .block

theorem Delivered.closed {resource : Resource} (delivered : Delivered resource) :
    isOpen resource = false := by
  rcases delivered with rfl | rfl
  · rfl
  · rfl

theorem beside_fetch {route : Route} (delivered : Delivered route.resource)
    (agree : ∀ token last, Route.decodeParams route.params = .ok [token, last] →
      ∃ scope, svc.Agree svc' token scope world handle)
    (request : Request) (worlds : world g.world g'.world) :
    Response.Beside (svc.OnCursors svc' world handle) (fetch svc route request g)
      (fetch svc' route request g') := by
  unfold fetch
  split
  · exact ⟨rfl, rfl, rfl⟩
  · rename_i params decoded
    split
    · rename_i token last _
      obtain ⟨scope, agree⟩ := agree token last decoded
      exact beside_settle (Access.pairs_file agree request last) worlds
    · rename_i token last _
      obtain ⟨scope, agree⟩ := agree token last decoded
      exact beside_settle (Access.pairs_block agree request last) worlds
    · rename_i isArchive
      rcases delivered with isFile | isBlock
      · rw [isFile] at isArchive
        cases isArchive
      · rw [isBlock] at isArchive
        cases isArchive
    · exact ⟨rfl, rfl, rfl⟩
    · rename_i isMetrics
      rcases delivered with isFile | isBlock
      · rw [isFile] at isMetrics
        cases isMetrics
      · rw [isBlock] at isMetrics
        cases isMetrics
    · exact ⟨rfl, rfl, rfl⟩

/-- More fields, and the length of a known body. -/
theorem beside_withLength {r : Response (Delivering Handle File)}
    {r' : Response (Delivering Handle' File')}
    (beside : Response.Beside (svc.OnCursors svc' world handle) (r, g) (r', g'))
    (extra : List Header) :
    Response.Beside (svc.OnCursors svc' world handle)
      ({ r with headers := r.headers ++ extra }.withLength, g)
      ({ r' with headers := r'.headers ++ extra }.withLength, g') := by
  obtain ⟨status, headers, body⟩ := r
  obtain ⟨status', headers', body'⟩ := r'
  obtain ⟨rfl, timeless, bodies⟩ := beside
  have longer : Header.timeless (headers ++ extra) = Header.timeless (headers' ++ extra) := by
    rw [Header.timeless_append, Header.timeless_append]
    exact congrArg (· ++ Header.timeless extra) timeless
  have announced : Header.get? (headers ++ extra) "content-length" =
      Header.get? (headers' ++ extra) "content-length" := by
    rw [← Header.get?_timeless (by decide), longer, Header.get?_timeless (by decide)]
  unfold Response.withLength
  cases body with
  | streamed conn s =>
    cases body' with
    | known bytes' => exact bodies.elim
    | streamed conn' t => exact ⟨rfl, longer, bodies⟩
  | known bytes =>
    cases body' with
    | streamed conn' t => exact bodies.elim
    | known bytes' =>
      obtain rfl : bytes = bytes' := bodies
      dsimp only
      rw [announced]
      split
      · exact ⟨rfl, longer, rfl⟩
      · refine ⟨rfl, ?_, rfl⟩
        rw [Header.timeless_append, longer, ← Header.timeless_append]

/-- A known body is the same whatever the gateway does. -/
theorem beside_dropped {r : Response (Delivering Handle File)}
    {r' : Response (Delivering Handle' File')}
    (beside : Response.Beside (svc.OnCursors svc' world handle) (r, g) (r', g'))
    (h : Gateway World) (h' : Gateway World') :
    Response.Beside (svc.OnCursors svc' world handle) ({ r with body := .known [] }, h)
      ({ r' with body := .known [] }, h') :=
  ⟨beside.status, beside.headers, rfl⟩

theorem beside_respond {route : Route} (delivered : Delivered route.resource)
    (agree : ∀ token last, Route.decodeParams route.params = .ok [token, last] →
      ∃ scope, svc.Agree svc' token scope world handle)
    (request : Request) (worlds : world g.world g'.world) :
    Response.Beside (svc.OnCursors svc' world handle) (respond svc route request g)
      (respond svc' route request g') := by
  have fetched := beside_fetch delivered agree request worlds
  unfold respond
  rw [delivered.closed]
  cases request.method with
  | get => exact beside_withLength fetched _
  | head => exact beside_dropped (beside_withLength fetched _) _ _
  | options | other name => exact beside_withLength (beside_bare 405 [allowed]) _

/-- A request finds its connection free; without a connection it need not wait. -/
def Free (g : Gateway World) (request : Request) : Prop :=
  ∀ conn, request.connection = some conn → (g.slot conn).isDispatching

/-- A request that need not wait is answered at once.  All it has done until then is to make
its connection known. -/
theorem send_eq_respond (svc : Services World Handle File) {route : Route} {request : Request}
    (routed : Route.ofTarget? request.target = some route) (delivered : Delivered route.resource)
    (free : g.Free request) :
    send svc request g =
      (.ready (respond svc route request (request.connection.elim g g.touch)).1,
        (respond svc route request (request.connection.elim g g.touch)).2) := by
  have awaits : awaited route request = request.connection := by
    rcases delivered with isFile | isBlock
    · rw [awaited, isFile]
      rfl
    · rw [awaited, isBlock]
      rfl
  unfold send poll
  simp only [routed, awaits]
  cases connection : request.connection with
  | none => rfl
  | some conn =>
    have idle : Waiter.poll ((g.touch conn).slot conn) .idle = .done := by
      rw [slot_touch]
      exact poll_idle (free conn connection)
    simp only [Option.elim, idle]

theorem send_free (svc : Services World Handle File) {route : Route} {request : Request}
    (routed : Route.ofTarget? request.target = some route) (delivered : Delivered route.resource)
    (free : g.Free request) :
    ∃ h : Gateway World, h.world = g.world ∧
      send svc request g = (.ready (respond svc route request h).1,
        (respond svc route request h).2) := by
  refine ⟨request.connection.elim g g.touch, ?_, send_eq_respond svc routed delivered free⟩
  cases request.connection <;> rfl

/-! ## What two clients see -/

/-- Two gateways answer a request at once, with the same status, the same fields but
for the time, and the same frames in the body, up to the same end or the same
error. -/
def SameAnswer (svc : Services World Handle File) (svc' : Services World' Handle' File')
    (request : Request) (g : Gateway World) (g' : Gateway World') : Prop :=
  ∃ r h r' h', send svc request g = (.ready r, h) ∧ send svc' request g' = (.ready r', h') ∧
    r.status = r'.status ∧ Header.timeless r.headers = Header.timeless r'.headers ∧
    ∀ limit, (r.body.readUpTo svc limit h).1 = (r'.body.readUpTo svc' limit h').1

theorem sameAnswer_of_beside {request : Request} {r : Response (Delivering Handle File)}
    {r' : Response (Delivering Handle' File')} {h : Gateway World} {h' : Gateway World'}
    (beside : Response.Beside (svc.OnCursors svc' world handle) (r, h) (r', h'))
    (sent : send svc request g = (.ready r, h)) (sent' : send svc' request g' = (.ready r', h')) :
    SameAnswer svc svc' request g g' :=
  ⟨r, h, r', h', sent, sent', beside.status, beside.headers, fun limit =>
    beside.body.readUpTo (svc.source_matches svc' world handle) limit⟩

/-- Gateways that agree on what the token of a request leads to answer it alike.  A
request whose token is no text leads nowhere. -/
theorem sameAnswer_of_agree {request : Request} {route : Route}
    (routed : Route.ofTarget? request.target = some route) (delivered : Delivered route.resource)
    (agree : ∀ token last, Route.decodeParams route.params = .ok [token, last] →
      ∃ scope world handle, world g.world g'.world ∧ svc.Agree svc' token scope world handle)
    (free : g.Free request) (free' : g'.Free request) : SameAnswer svc svc' request g g' := by
  obtain ⟨h, same, sent⟩ := send_free svc routed delivered free
  obtain ⟨h', same', sent'⟩ := send_free svc' routed delivered free'
  rw [← same, ← same'] at agree
  by_cases named : ∃ token last, Route.decodeParams route.params = .ok [token, last]
  · obtain ⟨token, last, decoded⟩ := named
    obtain ⟨scope, world, handle, worlds, agree⟩ := agree token last decoded
    have agrees : ∀ token last, Route.decodeParams route.params = .ok [token, last] →
        ∃ scope, svc.Agree svc' token scope world handle := by
      intro token' last' decoded'
      rw [decoded] at decoded'
      cases decoded'
      exact ⟨scope, agree⟩
    exact sameAnswer_of_beside (beside_respond delivered agrees request worlds) sent sent'
  · have agrees : ∀ token last, Route.decodeParams route.params = .ok [token, last] →
        ∃ scope, svc.Agree svc' token scope (fun _ _ => True) fun _ _ => True :=
      fun token last decoded => absurd ⟨token, last, decoded⟩ named
    exact sameAnswer_of_beside (beside_respond delivered agrees request trivial) sent sent'

end Gateway

end StreamGate
