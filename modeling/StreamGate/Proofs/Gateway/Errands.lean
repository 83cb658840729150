import StreamGate.Proofs.Gateway.Answers

/-!
# What a request asks of the services

Every operation on the world that a delivery makes before its session, with the
answers, and how the delivery ends.

* `Services.Runs`: errands, one after another, lead from one world to another.  The
  services are arbitrary, so this also holds of services that write every operation
  down in their world.
* `Lead`: the look-ups behind a token, up to the manifest of the granted object.
* `Services.Deals`: the sessions, each with its source and what it is accounted by.
* `Services.Ends`: how a delivery ends after which errands, and `Access.ends_file`,
  `Access.ends_block`, `Access.ends_archive`: there are no other ends.
-/

namespace StreamGate

variable {World Handle File : Type}

/-! ## Errands -/

/-- An operation of the services that may change the world, with its answer where the
gateway looks at it. -/
inductive Errand where
  | grant (token : String) (answer : Except Failure (Option Grant))
  | repo (repoId : String) (answer : Except Failure (Option Repo))
  | key (repoId username : String) (answer : Except Failure (Option KeyMaterial))
  | manifest (ref : StoreRef) (objectId : String) (answer : Except Failure (Option Manifest))
  | stat (ref : StoreRef) (id : BlockId) (answer : Except Failure Nat)
  | openBlock (ref : StoreRef) (id : BlockId)
  | readBlock
  | closeBlock
  | readArchive
  | discard (token : String)

/-- A look-up in the catalog. -/
def Errand.isLookUp : Errand → Bool
  | grant .. | repo .. | key .. | manifest .. => true
  | _ => false

namespace Services

/-- One operation turns a world into another. -/
inductive Makes (svc : Services World Handle File) (w : World) : Errand → World → Prop
  | grant {token : String} {answer : Except Failure (Option Grant)} {w' : World}
      (asked : svc.catalog.grant? token w = (answer, w')) : svc.Makes w (.grant token answer) w'
  | repo {repoId : String} {answer : Except Failure (Option Repo)} {w' : World}
      (asked : svc.catalog.repo? repoId w = (answer, w')) : svc.Makes w (.repo repoId answer) w'
  | key {repoId username : String} {answer : Except Failure (Option KeyMaterial)} {w' : World}
      (asked : svc.catalog.key? repoId username w = (answer, w')) :
      svc.Makes w (.key repoId username answer) w'
  | manifest {ref : StoreRef} {objectId : String} {answer : Except Failure (Option Manifest)}
      {w' : World} (asked : svc.catalog.manifest? ref objectId w = (answer, w')) :
      svc.Makes w (.manifest ref objectId answer) w'
  | stat {ref : StoreRef} {id : BlockId} {answer : Except Failure Nat} {w' : World}
      (asked : svc.store.stat ref id w = (answer, w')) : svc.Makes w (.stat ref id answer) w'
  | openBlock (ref : StoreRef) (id : BlockId) :
      svc.Makes w (.openBlock ref id) (svc.store.openBlock ref id w).2
  | readBlock (h : Handle) (want : Nat) : svc.Makes w .readBlock (svc.store.read h want w).2.2
  | closeBlock (h : Handle) : svc.Makes w .closeBlock (svc.store.close h w)
  | readArchive (file : File) (want : Nat) :
      svc.Makes w .readArchive (svc.archives.read file want w).2.2
  | discard (token : String) : svc.Makes w (.discard token) (svc.archives.discard token w)

/-- Operations, one after another, turn a world into another. -/
inductive Runs (svc : Services World Handle File) : World → List Errand → World → Prop
  | nil (w : World) : svc.Runs w [] w
  | cons {w w₁ w₂ : World} {errand : Errand} {errands : List Errand}
      (makes : svc.Makes w errand w₁) (rest : svc.Runs w₁ errands w₂) :
      svc.Runs w (errand :: errands) w₂

namespace Runs

variable {svc : Services World Handle File} {w w₁ w₂ : World} {errand : Errand}
  {errands more : List Errand}

theorem one (makes : svc.Makes w errand w₁) : svc.Runs w [errand] w₁ := .cons makes (.nil w₁)

theorem append (first : svc.Runs w errands w₁) (rest : svc.Runs w₁ more w₂) :
    svc.Runs w (errands ++ more) w₂ := by
  induction first with
  | nil => exact rest
  | cons makes _ ih => exact .cons makes (ih rest)

/-- What each of the errands keeps is kept by all of them. -/
theorem keeps {α : Type} {part : World → α} (runs : svc.Runs w errands w₁)
    (kept : ∀ errand ∈ errands, ∀ w w', svc.Makes w errand w' → part w' = part w) :
    part w₁ = part w := by
  induction runs with
  | nil => rfl
  | cons makes _ ih =>
    rw [ih fun errand mem => kept errand (.tail _ mem)]
    exact kept _ (.head _) _ _ makes

end Runs

end Services

/-! ## Leads -/

/-- What is found on the way from a token to the manifest of the granted object. -/
structure Lead where
  token : String
  grant : Grant
  repo : Repo
  /-- The look-up of the key, if there was one. -/
  unlocking : List Errand
  /-- What showed that the object is there. -/
  seen : Manifest
  manifest : Manifest

namespace Lead

/-- The look-ups, in their order. -/
def lookUps (l : Lead) : List Errand :=
  .grant l.token (.ok (some l.grant)) :: .repo l.grant.repoId (.ok (some l.repo)) ::
    (l.unlocking ++
      [.manifest l.repo.storeRef l.grant.objectId (.ok (some l.seen)),
        .manifest l.repo.storeRef l.grant.objectId (.ok (some l.manifest))])

/-- On the way the key of the repository was found, if it needs one. -/
inductive Unlocks (l : Lead) : Option CipherKey → Prop
  | plain (encrypted : l.repo.encrypted = false) (nothing : l.unlocking = []) : l.Unlocks none
  | locked {material : KeyMaterial} {key : CipherKey} (encrypted : l.repo.encrypted = true)
      (asked : l.unlocking = [.key l.repo.repoId l.grant.username (.ok (some material))])
      (cipher : material.cipherKey l.repo.encVersion = .ok key) : l.Unlocks (some key)

theorem isLookUp_of_nothing (l : Lead) (nothing : l.unlocking = []) :
    ∀ errand ∈ l.lookUps, errand.isLookUp = true := by
  simp [lookUps, nothing, Errand.isLookUp]

theorem Unlocks.isLookUp {l : Lead} {key : Option CipherKey} (unlocks : l.Unlocks key) :
    ∀ errand ∈ l.lookUps, errand.isLookUp = true := by
  cases unlocks with
  | plain _ nothing => exact l.isLookUp_of_nothing nothing
  | locked _ asked => simp [lookUps, asked, Errand.isLookUp]

end Lead

/-! ## Deals -/

/-- What a session delivers, and what it is accounted by once it is completed. -/
structure Deal where
  kind : TransferKind
  grant : Grant
  /-- The store, or for an archive the repository. -/
  subject : String
  /-- The bytes that are accounted. -/
  size : Nat
  /-- The bytes that are announced. -/
  length : Nat
deriving DecidableEq

/-- The event of a deal, if it is accounted at all. -/
def Deal.usage (d : Deal) : Option UsageEvent :=
  UsageEvent.forTransfer d.grant.operation d.subject d.grant.username d.size

/-- The resource that a kind of session delivers. -/
def TransferKind.resource : TransferKind → Resource
  | file | range => .file
  | block => .block
  | archive => .archive

/-- The status of an answer with a session. -/
def TransferKind.status : TransferKind → Nat
  | range => 206
  | _ => 200

namespace Services

/-- The sessions that a request can get, with the errands before, what they are
accounted by, and their sources.  A range is accounted at the size of the whole file.
Sizes are told in 64 bits. -/
inductive Deals (svc : Services World Handle File) (request : Request) (token : String)
    (w : World) : List Errand → Deal → Delivering Handle File → Prop
  | file {l : Lead} {key : Option CipherKey} (own : l.token = token) (unlocks : l.Unlocks key)
      (allowed : l.grant.operation.isFileAccess = true) (blocks : l.manifest.isEmpty = false)
      (method : request.method ≠ .head) :
      svc.Deals request token w l.lookUps
        { kind := .file, grant := l.grant, subject := l.repo.storeId
          size := l.manifest.fileSize.toNat, length := l.manifest.fileSize.toNat }
        (.inl (Cursor.wholeFile l.repo.storeRef l.manifest key svc.buffer))
  | range {l : Lead} {header : String} {r : ByteRange} (own : l.token = token)
      (unlocks : l.Unlocks none) (allowed : l.grant.operation.isFileAccess = true)
      (blocks : l.manifest.isEmpty = false) (method : request.method ≠ .head)
      (asked : request.range = some header)
      (parsed : ByteRange.parse header l.manifest.fileSize = .ok r) :
      svc.Deals request token w l.lookUps
        { kind := .range, grant := l.grant, subject := l.repo.storeId
          size := l.manifest.fileSize.toNat, length := r.length.toNat }
        (.inl (Cursor.range l.repo.storeRef l.manifest r svc.buffer))
  | block {l : Lead} {id : BlockId} {told size : Nat} (own : l.token = token)
      (nothing : l.unlocking = []) (allowed : l.grant.operation = .downloadBlocks)
      (contains : l.manifest.contains id = true) (counted : size = told % UInt64.size) :
      svc.Deals request token w (l.lookUps ++ [.stat l.repo.storeRef id (.ok told)])
        { kind := .block, grant := l.grant, subject := l.repo.storeId, size, length := size }
        (.inl (Cursor.singleBlock l.repo.storeRef id size svc.buffer))
  | archive {grant : Grant} {target : ArchiveTarget} {path : String} {relay : Relay File}
      (described : ArchiveTarget.parse grant.objectId = .ok target)
      (found : svc.archives.path? token w = some path)
      (opened : Relay.openFile svc.archives.in64Bits path token svc.buffer w = .ok relay) :
      svc.Deals request token w [.grant token (.ok (some grant))]
        { kind := .archive, grant, subject := grant.repoId, size := relay.size
          length := relay.size }
        (.inr relay)

theorem Deals.installs {svc : Services World Handle File} {request : Request} {token : String}
    {w : World} {errands : List Errand} {deal : Deal} {source : Delivering Handle File}
    (deals : svc.Deals request token w errands deal source) :
    svc.Installs source deal.length := by
  cases deals with
  | file => exact .wholeFile ..
  | range _ _ _ _ _ _ parsed => exact .range _ _ parsed
  | block _ _ _ _ counted => exact .singleBlock _ _ (counted ▸ Nat.mod_lt _ (by decide))
  | archive _ _ opened => exact .archive opened

end Services

/-! ## Ends -/

/-- How a delivery ends. -/
inductive Exit (Handle File : Type) where
  | refused (e : AccessError)
  | notModified (kind : TransferKind)
  | bare (status : Nat) (headers : List Header)
  | session (status : Nat) (headers : List Header)
      (transfer : Access.Transfer (Delivering Handle File))

/-- What is still to be done at the end. -/
def Exit.access (svc : Services World Handle File) (conn : Option ConnectionId) :
    Exit Handle File → Access World (Response (Delivering Handle File))
  | refused e => throw e
  | notModified kind => Access.notModified kind
  | bare status headers => pure (.bare status headers)
  | session status headers transfer => Access.startSession svc conn status headers transfer

/-- How a request for a resource ends, after which errands and in which world. -/
inductive Services.Ends (svc : Services World Handle File) (resource : Resource)
    (request : Request) (token : String) (w : World) : List Errand → Exit Handle File → Prop
  | refused {errands : List Errand} (e : AccessError)
      (lookUps : ∀ errand ∈ errands, errand.isLookUp = true) :
      svc.Ends resource request token w errands (.refused e)
  /-- The size of a block of the granted file cannot be had. -/
  | unavailable {l : Lead} {id : BlockId} {e : Failure} (isBlock : resource = .block)
      (own : l.token = token) (nothing : l.unlocking = [])
      (contains : l.manifest.contains id = true) :
      svc.Ends resource request token w (l.lookUps ++ [.stat l.repo.storeRef id (.error e)])
        (.refused .blockUnavailable)
  /-- The client has a copy. -/
  | cached {grant : Grant} (kind : TransferKind) (other : resource ≠ .archive)
      (copy : hasCachedCopy request.headers = true) :
      svc.Ends resource request token w [.grant token (.ok (some grant))] (.notModified kind)
  /-- The client has a copy of an archive, which is needed no longer. -/
  | collected {grant : Grant} (isArchive : resource = .archive)
      (copy : hasCachedCopy request.headers = true) :
      svc.Ends resource request token w [.grant token (.ok (some grant)), .discard token]
        (.notModified .archive)
  | headOnly {l : Lead} {key : Option CipherKey} {status : Nat} (headers : List Header)
      (isFile : resource = .file) (own : l.token = token) (unlocks : l.Unlocks key)
      (method : request.method = .head) (success : status = 200 ∨ status = 206) :
      svc.Ends resource request token w l.lookUps (.bare status headers)
  | blockless {l : Lead} {key : Option CipherKey} (headers : List Header)
      (isFile : resource = .file) (own : l.token = token) (unlocks : l.Unlocks key)
      (isEmpty : l.manifest.isEmpty = true) :
      svc.Ends resource request token w l.lookUps (.bare 200 headers)
  | session {errands : List Errand} {deal : Deal} {source : Delivering Handle File}
      (headers : List Header) (delivers : deal.kind.resource = resource)
      (deals : svc.Deals request token w errands deal source)
      (noCopy : hasCachedCopy request.headers = false) :
      svc.Ends resource request token w errands (.session deal.kind.status headers
        { kind := deal.kind, source, contentLength := deal.length, usage := deal.usage })

namespace Access

variable {svc : Services World Handle File} {α β : Type} {g : Gateway World}

/-! ## Steps before the end -/

/-- The steps run errands and yield a value or a refusal; of the gateway they change
the world only. -/
def Comes (svc : Services World Handle File) (act : Access World α) (g : Gateway World)
    (post : List Errand → World → Except AccessError α → Prop) : Prop :=
  ∃ errands w r, svc.Runs g.world errands w ∧ act.run g = (r, g.withWorld w) ∧ post errands w r

theorem Comes.bind {act : Access World α} {f : α → Access World β}
    {mid : List Errand → World → Except AccessError α → Prop}
    {post : List Errand → World → Except AccessError β → Prop} (first : Comes svc act g mid)
    (refused : ∀ errands w e, mid errands w (.error e) → post errands w (.error e))
    (rest : ∀ errands w a, mid errands w (.ok a) →
      Comes svc (f a) (g.withWorld w) fun more => post (errands ++ more)) :
    Comes svc (act >>= f) g post := by
  obtain ⟨errands, w, e | a, runs, ran, held⟩ := first
  · exact ⟨errands, w, .error e, runs, by rw [run_bind, ran], refused _ _ _ held⟩
  · obtain ⟨more, w', r, runs', ran', held'⟩ := rest _ _ _ held
    refine ⟨errands ++ more, w', r, runs.append runs', ?_, held'⟩
    rw [run_bind, ran]
    exact ran'

theorem comes_pure {post : List Errand → World → Except AccessError α → Prop} {a : α}
    (holds : post [] g.world (.ok a)) : Comes svc (pure a) g post :=
  ⟨[], g.world, .ok a, .nil _, rfl, holds⟩

theorem comes_throw {post : List Errand → World → Except AccessError α → Prop} {e : AccessError}
    (holds : post [] g.world (.error e)) : Comes svc (throw e) g post :=
  ⟨[], g.world, .error e, .nil _, rfl, holds⟩

theorem comes_require {post : List Errand → World → Except AccessError α → Prop}
    {e : AccessError} {o : Option α} (found : ∀ a, o = some a → post [] g.world (.ok a))
    (missing : post [] g.world (.error e)) : Comes svc (require e o) g post := by
  cases o with
  | none => exact comes_throw missing
  | some a => exact comes_pure (found a rfl)

/-- A look-up is one errand. -/
theorem comes_lookUp (asks : Errand → Except Failure α → Prop)
    {f : World → Except Failure α × World}
    (makes : ∀ w, ∃ errand, asks errand (f w).1 ∧ svc.Makes w errand (f w).2) :
    Comes svc (lookUp f) g fun errands _ r =>
      ∃ errand answer, errands = [errand] ∧ asks errand answer ∧
        r = answer.mapError .ofFailure := by
  obtain ⟨errand, asked, made⟩ := makes g.world
  have ran : (lookUp f).run g = ((f g.world).1.mapError .ofFailure, g.withWorld (f g.world).2) := by
    unfold lookUp
    rw [run_bind_of_gives (gives_get g)]
    generalize f g.world = found
    obtain ⟨e | a, w'⟩ := found <;> rfl
  exact ⟨_, _, _, .one made, ran, errand, _, rfl, asked, rfl⟩

/-- One look-up, which found what is yielded. -/
def Sought (ask : Except Failure (Option α) → Errand) (errands : List Errand) (_ : World)
    (r : Except AccessError α) : Prop :=
  ∃ answer, errands = [ask answer] ∧ ∀ a, r = .ok a → answer = .ok (some a)

theorem comes_find {f : World → Except Failure (Option α) × World}
    {ask : Except Failure (Option α) → Errand} (makes : ∀ w, svc.Makes w (ask (f w).1) (f w).2)
    (e : AccessError) : Comes svc (do require e (← lookUp f)) g (Sought ask) := by
  have looks := comes_lookUp (g := g) (fun errand answer => errand = ask answer)
    fun w => ⟨_, rfl, makes w⟩
  refine looks.bind ?_ ?_
  · rintro errands w e' ⟨_, answer, rfl, rfl, -⟩
    exact ⟨answer, rfl, fun a yields => by cases yields⟩
  · rintro errands w found ⟨_, answer | answer, rfl, rfl, yielded⟩
    · cases yielded
    · cases yielded
      refine comes_require (fun a some => ?_) ⟨_, rfl, fun b yields => by cases yields⟩
      subst some
      exact ⟨_, rfl, fun b yields => by cases yields; rfl⟩

theorem comes_resolveGrant (token : String) :
    Comes svc (resolveGrant svc token) g (Sought (.grant token)) :=
  comes_find (fun _ => .grant rfl) _

theorem comes_loadRepo (repoId : String) :
    Comes svc (loadRepo svc repoId) g (Sought (.repo repoId)) :=
  comes_find (fun _ => .repo rfl) _

theorem comes_loadManifest (repo : Repo) (objectId : String) :
    Comes svc (loadManifest svc repo objectId) g (Sought (.manifest repo.storeRef objectId)) :=
  comes_find (fun _ => .manifest rfl) _

/-- The look-up of a repository's key, if it needs one. -/
theorem comes_loadKey (repo : Repo) (grant : Grant) :
    Comes svc (loadKey svc repo grant.username) g fun errands _ r =>
      (∀ errand ∈ errands, errand.isLookUp = true) ∧ ∀ key, r = .ok key →
        ∀ token seen manifest, Lead.Unlocks ⟨token, grant, repo, errands, seen, manifest⟩ key := by
  unfold loadKey
  split
  · rename_i encrypted
    rw [← bind_assoc]
    refine (comes_find (fun _ => .key rfl) _).bind ?_ ?_
    · rintro errands w e ⟨answer, rfl, -⟩
      exact ⟨by simp [Errand.isLookUp], fun key yields => by cases yields⟩
    · rintro errands w material ⟨answer, rfl, was⟩
      obtain rfl := was _ rfl
      split
      · rename_i key cipher
        refine comes_pure ⟨by simp [Errand.isLookUp], fun key' yields token seen manifest => ?_⟩
        cases yields
        exact .locked encrypted rfl cipher
      · exact comes_throw ⟨by simp [Errand.isLookUp], fun key yields => by cases yields⟩
  · rename_i plain
    refine comes_pure ⟨by simp, fun key yields token seen manifest => ?_⟩
    cases yields
    exact .plain (Bool.eq_false_iff.2 plain) rfl

/-- The check that an object is there looks its manifest up. -/
theorem comes_checkObject (repo : Repo) (objectId : String) :
    Comes svc (checkObject svc repo objectId) g fun errands _ r =>
      ∃ answer, errands = [.manifest repo.storeRef objectId answer] ∧
        ∀ u, r = .ok u → ∃ manifest, answer = .ok (some manifest) := by
  let asks (errand : Errand) (there : Except Failure Bool) : Prop :=
    ∃ answer : Except Failure (Option Manifest),
      errand = .manifest repo.storeRef objectId answer ∧ there = answer.map Option.isSome
  refine (comes_lookUp asks fun w => ⟨_, ⟨_, rfl, rfl⟩, .manifest rfl⟩).bind ?_ ?_
  · rintro errands w e ⟨_, _, rfl, ⟨answer, rfl, -⟩, -⟩
    exact ⟨answer, rfl, fun u yields => by cases yields⟩
  · rintro errands w there ⟨_, _, rfl, ⟨answer, rfl, rfl⟩, yielded⟩
    obtain e | found := answer
    · cases yielded
    · cases yielded
      split
      · exact comes_throw ⟨_, rfl, fun u yields => by cases yields⟩
      · rename_i isThere
        refine comes_pure ⟨_, rfl, fun u _ => ?_⟩
        obtain ⟨manifest, rfl⟩ : ∃ manifest, found = some manifest := by
          simpa [Option.ne_none_iff_exists'] using isThere
        exact ⟨manifest, rfl⟩

theorem comes_grantedBlock (manifest : Manifest) (text : String) :
    Comes svc (grantedBlock manifest text) g fun errands _ r =>
      errands = [] ∧ ∀ id, r = .ok id → manifest.contains id = true := by
  unfold grantedBlock
  split
  · exact comes_throw ⟨rfl, fun id yields => by cases yields⟩
  · split
    · rename_i id contains
      refine comes_pure ⟨rfl, fun id' yields => ?_⟩
      cases yields
      exact contains
    · exact comes_throw ⟨rfl, fun id yields => by cases yields⟩

/-- The size of a block takes one look at it. -/
theorem comes_blockSize (ref : StoreRef) (id : BlockId) :
    Comes svc (blockSize svc ref id) g fun errands _ r =>
      match r with
      | .ok size => ∃ told, errands = [.stat ref id (.ok told)] ∧ size = told % UInt64.size
      | .error e =>
        e = .blockUnavailable ∧ ∃ failure, errands = [.stat ref id (.error failure)] := by
  unfold Comes blockSize
  rw [run_bind_of_gives (gives_get g)]
  generalize asked : svc.store.stat ref id g.world = found
  obtain ⟨e | size, w⟩ := found
  · exact ⟨_, _, _, .one (.stat asked), rfl, rfl, e, rfl⟩
  · exact ⟨_, _, _, .one (.stat asked), rfl, size, rfl, rfl⟩

theorem comes_archivePath (token : String) :
    Comes svc (archivePath svc token) g fun errands w r =>
      errands = [] ∧ ∀ path, r = .ok path → svc.archives.path? token w = some path := by
  have gets : Comes svc (get : Access World (Gateway World)) g fun errands w r =>
      errands = [] ∧ ∀ g', r = .ok g' → g'.world = w :=
    ⟨_, _, _, .nil _, rfl, rfl, fun g' yields => by cases yields; rfl⟩
  refine gets.bind ?_ ?_
  · rintro errands w e ⟨rfl, -⟩
    exact ⟨rfl, fun path yields => by cases yields⟩
  · rintro errands w g' ⟨rfl, same⟩
    obtain rfl := same _ rfl
    refine comes_require (fun path found => ⟨rfl, fun path' yields => ?_⟩)
      ⟨rfl, fun path yields => by cases yields⟩
    cases yields
    exact found

/-! ## The end -/

variable {conn : Option ConnectionId} {act : Access World (Response (Delivering Handle File))}
  {post : List Errand → World → Exit Handle File → Prop}

/-- The steps run errands and then come to an end. -/
def EndsIn (svc : Services World Handle File) (conn : Option ConnectionId)
    (act : Access World (Response (Delivering Handle File))) (g : Gateway World)
    (post : List Errand → World → Exit Handle File → Prop) : Prop :=
  ∃ errands w exit, svc.Runs g.world errands w ∧
    act.run g = (exit.access svc conn).run (g.withWorld w) ∧ post errands w exit

theorem Comes.endsIn {first : Access World α}
    {f : α → Access World (Response (Delivering Handle File))}
    {mid : List Errand → World → Except AccessError α → Prop} (comes : Comes svc first g mid)
    (refused : ∀ errands w e, mid errands w (.error e) → post errands w (.refused e))
    (rest : ∀ errands w a, mid errands w (.ok a) →
      EndsIn svc conn (f a) (g.withWorld w) fun more => post (errands ++ more)) :
    EndsIn svc conn (first >>= f) g post := by
  obtain ⟨errands, w, e | a, runs, ran, held⟩ := comes
  · refine ⟨errands, w, .refused e, runs, ?_, refused _ _ _ held⟩
    rw [run_bind, ran]
    rfl
  · obtain ⟨more, w', exit, runs', ran', held'⟩ := rest _ _ _ held
    refine ⟨errands ++ more, w', exit, runs.append runs', ?_, held'⟩
    rw [run_bind, ran]
    exact ran'

/-- Here the steps end. -/
theorem endsIn_exit (exit : Exit Handle File) (holds : post [] g.world exit) :
    EndsIn svc conn (exit.access svc conn) g post :=
  ⟨[], g.world, exit, .nil _, rfl, holds⟩

theorem endsIn_throw_bind {f : α → Access World (Response (Delivering Handle File))}
    {e : AccessError} (holds : post [] g.world (.refused e)) :
    EndsIn svc conn (throw e >>= f) g post :=
  ⟨[], g.world, .refused e, .nil _, rfl, holds⟩

theorem endsIn_ite {c : Prop} [Decidable c]
    {yes no : Access World (Response (Delivering Handle File))}
    (then_ : c → EndsIn svc conn yes g post) (else_ : ¬c → EndsIn svc conn no g post) :
    EndsIn svc conn (if c then yes else no) g post := by
  split
  · exact then_ ‹_›
  · exact else_ ‹_›

theorem endsIn_get {f : Gateway World → Access World (Response (Delivering Handle File))}
    (ends : EndsIn svc conn (f g) g post) : EndsIn svc conn (get >>= f) g post := by
  obtain ⟨errands, w, exit, runs, ran, held⟩ := ends
  exact ⟨errands, w, exit, runs, by rw [run_bind_of_gives (gives_get g), ran], held⟩

/-! ## The deliveries -/

section Deliveries

variable {request : Request} {token : String}

theorem ends_deliverFile (name : String) {l : Lead} {key : Option CipherKey} (own : l.token = token)
    (unlocks : l.Unlocks key) (allowed : l.grant.operation.isFileAccess = true)
    (noCopy : hasCachedCopy request.headers = false) :
    EndsIn svc request.connection
      (deliverFile svc ⟨request, name, l.grant, l.repo, l.manifest⟩ key) g fun errands w =>
        svc.Ends .file request token w (l.lookUps ++ errands) := by
  unfold deliverFile
  refine endsIn_ite (fun bare => ?_) fun starts => ?_
  · refine endsIn_exit (.bare 200 _) ?_
    rw [List.append_nil]
    rcases Bool.or_eq_true_iff.1 bare with head | isEmpty
    · exact .headOnly _ rfl own unlocks (by simpa [FileRequest.headOnly] using head) (.inl rfl)
    · exact .blockless _ rfl own unlocks isEmpty
  · obtain ⟨method, blocks⟩ : request.method ≠ .head ∧ l.manifest.isEmpty = false := by
      simpa [FileRequest.headOnly] using starts
    refine endsIn_exit (.session 200 _ _) ?_
    rw [List.append_nil]
    exact .session _ rfl (.file own unlocks allowed blocks method) noCopy

theorem ends_deliverRange (name : String) {l : Lead} {header : String} (own : l.token = token)
    (unlocks : l.Unlocks none) (allowed : l.grant.operation.isFileAccess = true)
    (noCopy : hasCachedCopy request.headers = false) (asked : request.range = some header) :
    EndsIn svc request.connection
      (deliverRange svc ⟨request, name, l.grant, l.repo, l.manifest⟩ header) g fun errands w =>
        svc.Ends .file request token w (l.lookUps ++ errands) := by
  unfold deliverRange
  refine endsIn_ite (fun isEmpty => ?_) fun blocks => ?_
  · refine endsIn_exit (.bare 200 _) ?_
    rw [List.append_nil]
    exact .blockless _ rfl own unlocks isEmpty
  · split
    · refine endsIn_exit (.refused _) ?_
      rw [List.append_nil]
      exact .refused _ unlocks.isLookUp
    · rename_i r parsed
      refine endsIn_ite (fun head => ?_) fun method => ?_
      · refine endsIn_exit (.bare 206 _) ?_
        rw [List.append_nil]
        exact .headOnly _ rfl own unlocks (by simpa [FileRequest.headOnly] using head) (.inr rfl)
      · refine endsIn_exit (.session 206 _ _) ?_
        rw [List.append_nil]
        have method : request.method ≠ .head := by simpa [FileRequest.headOnly] using method
        exact .session _ rfl (.range own unlocks allowed (Bool.eq_false_iff.2 blocks) method asked
          parsed) noCopy

/-- How a request for a file ends. -/
theorem ends_file (request : Request) (token name : String) (g : Gateway World) :
    EndsIn svc request.connection (file svc request token name) g fun errands w =>
      svc.Ends .file request token w errands := by
  unfold file
  refine (comes_resolveGrant token).endsIn ?_ ?_
  · rintro errands w e ⟨answer, rfl, -⟩
    exact .refused e (by simp [Errand.isLookUp])
  rintro errands w grant ⟨answer, rfl, was⟩
  obtain rfl := was _ rfl
  refine endsIn_ite (fun _ => ?_) fun notFile => ?_
  · exact endsIn_throw_bind (.refused _ (by simp [Errand.isLookUp]))
  refine endsIn_ite (fun copy => ?_) fun noCopy => ?_
  · exact endsIn_exit (.notModified .file) (.cached _ (by decide) copy)
  have allowed : grant.operation.isFileAccess = true := by simpa using notFile
  refine (comes_loadRepo grant.repoId).endsIn ?_ ?_
  · rintro errands w e ⟨answer, rfl, -⟩
    exact .refused e (by simp [Errand.isLookUp])
  rintro errands w repo ⟨answer, rfl, was⟩
  obtain rfl := was _ rfl
  refine (comes_loadKey repo grant).endsIn ?_ ?_
  · rintro errands w e ⟨lookUps, -⟩
    exact .refused e (by simpa [Errand.isLookUp] using lookUps)
  rintro unlocking w key ⟨lookUps, opens⟩
  refine (comes_checkObject repo grant.objectId).endsIn ?_ ?_
  · rintro errands w e ⟨answer, rfl, -⟩
    exact .refused e (by simpa [Errand.isLookUp, or_imp, forall_and] using lookUps)
  rintro errands w u ⟨answer, rfl, was⟩
  obtain ⟨seen, rfl⟩ := was u rfl
  refine (comes_loadManifest repo grant.objectId).endsIn ?_ ?_
  · rintro errands w e ⟨answer, rfl, -⟩
    exact .refused e (by simpa [Errand.isLookUp, or_imp, forall_and] using lookUps)
  rintro errands w manifest ⟨answer, rfl, was⟩
  obtain rfl := was _ rfl
  let l : Lead := ⟨token, grant, repo, unlocking, seen, manifest⟩
  have unlocks : l.Unlocks key := opens key rfl token seen manifest
  have whole (errands : List Errand) : l.lookUps ++ errands =
      [.grant token (.ok (some grant))] ++ ([.repo grant.repoId (.ok (some repo))] ++ (unlocking ++
        ([.manifest repo.storeRef grant.objectId (.ok (some seen))] ++
          ([.manifest repo.storeRef grant.objectId (.ok (some manifest))] ++ errands)))) := by
    simp [l, Lead.lookUps]
  simp only [← whole]
  split
  · rename_i header _ asked
    exact ends_deliverRange name rfl unlocks allowed (Bool.eq_false_iff.2 noCopy) asked
  · exact ends_deliverFile name rfl unlocks allowed (Bool.eq_false_iff.2 noCopy)

/-- How a request for a block ends. -/
theorem ends_block (request : Request) (token text : String) (g : Gateway World) :
    EndsIn svc request.connection (block svc request token text) g fun errands w =>
      svc.Ends .block request token w errands := by
  unfold block
  refine (comes_resolveGrant token).endsIn ?_ ?_
  · rintro errands w e ⟨answer, rfl, -⟩
    exact .refused e (by simp [Errand.isLookUp])
  rintro errands w grant ⟨answer, rfl, was⟩
  obtain rfl := was _ rfl
  refine endsIn_ite (fun copy => ?_) fun noCopy => ?_
  · exact endsIn_exit (.notModified .block) (.cached _ (by decide) copy)
  refine (comes_loadRepo grant.repoId).endsIn ?_ ?_
  · rintro errands w e ⟨answer, rfl, -⟩
    exact .refused e (by simp [Errand.isLookUp])
  rintro errands w repo ⟨answer, rfl, was⟩
  obtain rfl := was _ rfl
  refine (comes_checkObject repo grant.objectId).endsIn ?_ ?_
  · rintro errands w e ⟨answer, rfl, -⟩
    exact .refused e (by simp [Errand.isLookUp])
  rintro errands w u ⟨answer, rfl, was⟩
  obtain ⟨seen, rfl⟩ := was u rfl
  refine endsIn_ite (fun _ => ?_) fun scope => ?_
  · exact endsIn_throw_bind (.refused _ (by simp [Errand.isLookUp]))
  have allowed : grant.operation = .downloadBlocks := by simpa using scope
  refine (comes_loadManifest repo grant.objectId).endsIn ?_ ?_
  · rintro errands w e ⟨answer, rfl, -⟩
    exact .refused e (by simp [Errand.isLookUp])
  rintro errands w manifest ⟨answer, rfl, was⟩
  obtain rfl := was _ rfl
  let l : Lead := ⟨token, grant, repo, [], seen, manifest⟩
  refine (comes_grantedBlock manifest text).endsIn ?_ ?_
  · rintro errands w e ⟨rfl, -⟩
    exact .refused e (by simp [Errand.isLookUp])
  rintro errands w id ⟨rfl, contains⟩
  have contains : l.manifest.contains id = true := contains id rfl
  refine (comes_blockSize repo.storeRef id).endsIn ?_ ?_
  · rintro errands w e ⟨rfl, failure, rfl⟩
    exact .unavailable (l := l) rfl rfl rfl contains
  rintro errands w size ⟨told, rfl, counted⟩
  refine endsIn_exit (.session 200 _ _) ?_
  exact .session _ rfl (.block (l := l) rfl rfl allowed contains counted)
    (Bool.eq_false_iff.2 noCopy)

/-- How a request for an archive ends. -/
theorem ends_archive (request : Request) (token : String) (g : Gateway World) :
    EndsIn svc request.connection (archive svc request token) g fun errands w =>
      svc.Ends .archive request token w errands := by
  unfold archive
  refine (comes_resolveGrant token).endsIn ?_ ?_
  · rintro errands w e ⟨answer, rfl, -⟩
    exact .refused e (by simp [Errand.isLookUp])
  rintro errands w grant ⟨answer, rfl, was⟩
  obtain rfl := was _ rfl
  have described : Comes svc
      (require .internalError (ArchiveTarget.parse grant.objectId).toOption) (g.withWorld w)
      fun errands _ r => errands = [] ∧
        ∀ target, r = .ok target → ArchiveTarget.parse grant.objectId = .ok target := by
    refine comes_require (fun target found => ⟨rfl, fun target' yields => ?_⟩)
      ⟨rfl, fun target yields => by cases yields⟩
    cases yields
    cases parsed : ArchiveTarget.parse grant.objectId with
    | error e => simp [parsed, Except.toOption] at found
    | ok target' =>
      rw [parsed] at found
      rw [show target' = target from Option.some.inj found]
  refine described.endsIn ?_ ?_
  · rintro errands w e ⟨rfl, -⟩
    exact .refused e (by simp [Errand.isLookUp])
  rintro errands w target ⟨rfl, described⟩
  have described := described target rfl
  refine (comes_archivePath token).endsIn ?_ ?_
  · rintro errands w e ⟨rfl, -⟩
    exact .refused e (by simp [Errand.isLookUp])
  rintro errands w path ⟨rfl, found⟩
  have found := found path rfl
  refine endsIn_ite (fun copy => ?_) fun noCopy => ?_
  · exact ⟨[.discard token], _, .notModified .archive, .one (.discard token), rfl,
      .collected rfl copy⟩
  refine endsIn_get ?_
  split
  · exact endsIn_exit (.refused _) (.refused _ (by simp [Errand.isLookUp]))
  · rename_i relay opened
    refine endsIn_exit (.session 200 _ _) ?_
    exact .session _ rfl (.archive described found opened) (Bool.eq_false_iff.2 noCopy)

end Deliveries

end Access

end StreamGate
