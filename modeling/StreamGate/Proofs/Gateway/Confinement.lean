import StreamGate.Proofs.Gateway.InMemory
import StreamGate.Proofs.Gateway.SideBySide

/-!
# Confinement of a grant

A token leads to its grant, the grant to a repository, to the user's key to it and to
the manifest of an object, and the manifest to blocks.  A request for a file or for a
block sees nothing else of the catalog and the store.

* `MemoryWorld.Agrees`, `DiskWorld.Agrees`: two worlds hold the same on the way that
  starts at a token.
* `MemoryWorld.Agrees.agree`, `DiskWorld.Agrees.agree`: then the gateways on them agree, as
  `Services.Agree` asks for.
* `Gateway.send_unresolved`, `Gateway.send_outside`: the answers to a token that leads
  nowhere and to a block that is not on the way are fixed.
* `Gateway.grant_confines`: what two clients can see of two such worlds is the same.
-/

namespace StreamGate

/-- The same thing is found in two places. -/
theorem Alike.found {α World World' : Type} {r r' : Except Failure (Option α)}
    {p : α → Prop} {world : World → World' → Prop} {w : World} {w' : World'} (same : r = r')
    (holds : ∀ a, r = .ok (some a) → p a) (worlds : world w w') :
    Alike (Found p) world (r, w) (r', w') := by
  subst same
  cases r with
  | error e => exact .error e
  | ok o => exact .ok ⟨rfl, fun a found => holds a (by rw [found])⟩ worlds

/-! ## Worlds in memory -/

namespace MemoryWorld

/-- What a token leads to. -/
def scope (w : MemoryWorld) (token : String) : Scope where
  granted grant := w.catalog.inner.grants.get? token = some grant
  repo grant repo := w.catalog.inner.grants.get? token = some grant ∧
    w.catalog.inner.repos.get? grant.repoId = some repo
  manifest grant repo manifest := w.catalog.inner.grants.get? token = some grant ∧
    w.catalog.inner.repos.get? grant.repoId = some repo ∧
      w.catalog.inner.manifests.get? (repo.storeRef, grant.objectId) = some manifest

/-- Two worlds hold the same on the way that starts at a token.  What is planned for the
granted object and for its blocks is the same, too. -/
structure Agrees (token : String) (w w' : MemoryWorld) : Prop where
  grant : w.catalog.inner.grants.get? token = w'.catalog.inner.grants.get? token
  repo : ∀ {grant}, (w.scope token).granted grant →
    w.catalog.inner.repos.get? grant.repoId = w'.catalog.inner.repos.get? grant.repoId
  key : ∀ {grant repo}, (w.scope token).repo grant repo →
    w.catalog.inner.keys.get? (repo.repoId, grant.username) =
      w'.catalog.inner.keys.get? (repo.repoId, grant.username)
  manifest : ∀ {grant repo}, (w.scope token).repo grant repo →
    w.catalog.inner.manifests.get? (repo.storeRef, grant.objectId) =
      w'.catalog.inner.manifests.get? (repo.storeRef, grant.objectId)
  left : ∀ {grant}, (w.scope token).granted grant →
    w.catalog.left.get? grant.objectId = w'.catalog.left.get? grant.objectId
  blocks : ∀ {grant repo manifest}, (w.scope token).manifest grant repo manifest →
    ∀ id ∈ manifest.blocks,
      w.blocks.inner.inner.get? repo.storeRef id = w'.blocks.inner.inner.get? repo.storeRef id
  plan : ∀ {grant repo manifest}, (w.scope token).manifest grant repo manifest →
    ∀ id ∈ manifest.blocks, w.blocks.inner.plan.get? id = w'.blocks.inner.plan.get? id

/-- The catalogs of two worlds after look-ups.  The objects that the token leads to are
found equally often from now on. -/
structure CatalogsAfter (token : String) (w w' : MemoryWorld) (c c' : Vanishing MemoryCatalog) :
    Prop where
  records : c.inner = w.catalog.inner
  records' : c'.inner = w'.catalog.inner
  left : ∀ {grant}, (w.scope token).granted grant →
    c.left.get? grant.objectId = c'.left.get? grant.objectId

/-- Two worlds after look-ups and reads. -/
def After (token : String) (w w' v v' : MemoryWorld) : Prop :=
  ((v.blocks.inner.inner.blocks = w.blocks.inner.inner.blocks ∧
      v'.blocks.inner.inner.blocks = w'.blocks.inner.inner.blocks) ∧
    v.blocks.inner.plan = w.blocks.inner.plan ∧ v'.blocks.inner.plan = w'.blocks.inner.plan) ∧
  CatalogsAfter token w w' v.catalog v'.catalog

variable {token : String} {w w' v v' : MemoryWorld}

/-- The world after one more look-up of an object that vanishes. -/
def counted (v : MemoryWorld) (objectId : String) (left : Nat) : MemoryWorld :=
  { v with catalog := { v.catalog with left := v.catalog.left.insert objectId left } }

theorem manifest?_eq (ref : StoreRef) (objectId : String) (v : MemoryWorld) :
    lookUps.manifest? ref objectId v = match v.catalog.left.get? objectId with
      | some 0 => (.ok none, v)
      | some (n + 1) =>
        (.ok (v.catalog.inner.manifests.get? (ref, objectId)), v.counted objectId n)
      | none => (.ok (v.catalog.inner.manifests.get? (ref, objectId)), v) := by
  simp only [lookUps, Catalog.inside, Catalog.vanishing]
  cases v.catalog.left.get? objectId with
  | none => rfl
  | some n =>
    cases n with
    | zero => rfl
    | succ n => rfl

theorem Agrees.after (agrees : w.Agrees token w') : After token w w' w w' :=
  ⟨⟨⟨rfl, rfl⟩, rfl, rfl⟩, rfl, rfl, agrees.left⟩

theorem After.counted (after : After token w w' v v') (objectId : String) (left : Nat) :
    After token w w' (v.counted objectId left) (v'.counted objectId left) := by
  obtain ⟨blocks, records, records', same⟩ := after
  refine ⟨blocks, records, records', fun {grant} granted => ?_⟩
  show (v.catalog.left.insert objectId left).get? grant.objectId =
    (v'.catalog.left.insert objectId left).get? grant.objectId
  rw [Table.get?_insert, Table.get?_insert, same granted]

/-- Manifests are found alike. -/
theorem Agrees.manifest_alike (agrees : w.Agrees token w') {grant : Grant} {repo : Repo}
    (leads : (w.scope token).repo grant repo) (after : After token w w' v v') :
    Alike (Found ((w.scope token).manifest grant repo)) (After token w w')
      (lookUps.manifest? repo.storeRef grant.objectId v)
      (lookUps.manifest? repo.storeRef grant.objectId v') := by
  have found : Found ((w.scope token).manifest grant repo)
      (v.catalog.inner.manifests.get? (repo.storeRef, grant.objectId))
      (v'.catalog.inner.manifests.get? (repo.storeRef, grant.objectId)) := by
    rw [after.2.records, after.2.records']
    exact ⟨agrees.manifest leads, fun manifest found => ⟨leads.1, leads.2, found⟩⟩
  rw [manifest?_eq, manifest?_eq, ← after.2.left leads.1]
  split
  · exact .ok ⟨rfl, fun _ none => by cases none⟩ after
  · exact .ok found (after.counted _ _)
  · exact .ok found after

/-- Gateways in memory agree on what a token leads to if their worlds do. -/
theorem Agrees.agree (agrees : w.Agrees token w') (s : Settings) (countsUsage : Bool)
    (now now' : Instant) :
    (services s countsUsage now).Agree (services s countsUsage now') token (w.scope token)
      (After token w w') (FaultedHandle.Beside Eq) where
  delivery := rfl
  buffer := rfl
  grant {v v'} after := by
    refine .ok (?_ : Found _ (v.catalog.inner.grants.get? token) _) after
    rw [after.2.records, after.2.records']
    exact ⟨agrees.grant, fun _ found => found⟩
  repo {grant v v'} granted after := by
    refine .ok (?_ : Found _ (v.catalog.inner.repos.get? grant.repoId) _) after
    rw [after.2.records, after.2.records']
    exact ⟨agrees.repo granted, fun _ found => ⟨granted, found⟩⟩
  key {grant repo v v'} leads after := by
    refine .ok (?_ : v.catalog.inner.keys.get? (repo.repoId, grant.username) = _) after
    rw [after.2.records, after.2.records']
    exact agrees.key leads
  manifest leads after := agrees.manifest_alike leads after
  store lists :=
    ((((MemoryBlocks.matches_store (agrees.blocks lists)).faulted (agrees.plan lists)).within
      BlockStore.mirrors_metered BlockStore.mirrors_metered).within mirrors_store
        mirrors_store).along keeps_store keeps_store _

end MemoryWorld

/-! ## Worlds on disk -/

namespace DiskWorld

/-- What a token leads to. -/
def scope (w : DiskWorld) (token : String) : Scope where
  granted grant := w.catalog.load .grants token Codec.grant.wire = .ok (some grant)
  repo grant repo := w.catalog.load .grants token Codec.grant.wire = .ok (some grant) ∧
    w.catalog.load .repos grant.repoId Codec.repo.wire = .ok (some repo)
  manifest grant repo manifest :=
    w.catalog.load .grants token Codec.grant.wire = .ok (some grant) ∧
      w.catalog.load .repos grant.repoId Codec.repo.wire = .ok (some repo) ∧
        w.catalog.load .manifests (TreeCatalog.manifestKey repo.storeRef grant.objectId)
          Codec.manifest.wire = .ok (some manifest)

/-- Two worlds hold the same on the way that starts at a token.  A record that cannot be
read is one that cannot be read in the other, for the same reason. -/
structure Agrees (d : Directory) (token : String) (w w' : DiskWorld) : Prop where
  grant : w.catalog.load .grants token Codec.grant.wire =
    w'.catalog.load .grants token Codec.grant.wire
  repo : ∀ {grant}, (w.scope token).granted grant →
    w.catalog.load .repos grant.repoId Codec.repo.wire =
      w'.catalog.load .repos grant.repoId Codec.repo.wire
  key : ∀ {grant repo}, (w.scope token).repo grant repo →
    w.catalog.load .keys (TreeCatalog.materialKey repo.repoId grant.username)
        Codec.keyMaterial.wire =
      w'.catalog.load .keys (TreeCatalog.materialKey repo.repoId grant.username)
        Codec.keyMaterial.wire
  manifest : ∀ {grant repo}, (w.scope token).repo grant repo →
    w.catalog.load .manifests (TreeCatalog.manifestKey repo.storeRef grant.objectId)
        Codec.manifest.wire =
      w'.catalog.load .manifests (TreeCatalog.manifestKey repo.storeRef grant.objectId)
        Codec.manifest.wire
  blocks : ∀ {grant repo manifest}, (w.scope token).manifest grant repo manifest →
    ∀ id ∈ manifest.blocks,
      w.archives.files.SameAt w'.archives.files (d.blockPath repo.storeRef id)

/-- Two worlds after look-ups and reads: nothing has changed. -/
def After (w w' v v' : DiskWorld) : Prop :=
  (v.archives.files = w.archives.files ∧ v'.archives.files = w'.archives.files) ∧
    v.catalog = w.catalog ∧ v'.catalog = w'.catalog

variable {d : Directory} {token : String} {w w' : DiskWorld}

theorem mirrors_store (d : Directory) :
    (store d).Mirrors d.store fun w => w.archives.files :=
  BlockStore.mirrors_inside fun _ _ => rfl

theorem keeps_store (d : Directory) (c : TreeCatalog) :
    (store d).Keeps fun w => w.catalog = c :=
  BlockStore.keeps_inside fun _ _ kept => kept

/-- Gateways on disk agree on what a token leads to if their worlds do. -/
theorem Agrees.agree (agrees : w.Agrees d token w') (s : Settings) (now now' : Instant) :
    (services s d now).Agree (services s d now') token (w.scope token) (After w w')
      (DirectoryHandle.Beside w.archives.files w'.archives.files) where
  delivery := rfl
  buffer := rfl
  grant {v v'} after := by
    refine Alike.found (?_ : v.catalog.load .grants token Codec.grant.wire = _) ?_ after
    · rw [after.2.1, after.2.2]
      exact agrees.grant
    · rw [after.2.1]
      exact fun _ found => found
  repo {grant v v'} granted after := by
    refine Alike.found (?_ : v.catalog.load .repos grant.repoId Codec.repo.wire = _) ?_ after
    · rw [after.2.1, after.2.2]
      exact agrees.repo granted
    · rw [after.2.1]
      exact fun _ found => ⟨granted, found⟩
  key {grant repo v v'} leads after := by
    have looked : Alike (Found fun _ => True) (After w w')
        ((services s d now).catalog.key? repo.repoId grant.username v)
        ((services s d now').catalog.key? repo.repoId grant.username v') := by
      refine Alike.found (?_ : v.catalog.load .keys
        (TreeCatalog.materialKey repo.repoId grant.username) Codec.keyMaterial.wire = _)
        (fun _ _ => trivial) after
      rw [after.2.1, after.2.2]
      exact agrees.key leads
    generalize (services s d now).catalog.key? repo.repoId grant.username v = out at looked ⊢
    generalize (services s d now').catalog.key? repo.repoId grant.username v' = out' at looked ⊢
    cases looked with
    | ok found left => exact .ok found.1 left
    | error e => exact .error e
  manifest {grant repo v v'} leads after := by
    refine Alike.found (?_ : v.catalog.load .manifests
      (TreeCatalog.manifestKey repo.storeRef grant.objectId) Codec.manifest.wire = _) ?_ after
    · rw [after.2.1, after.2.2]
      exact agrees.manifest leads
    · rw [after.2.1]
      exact fun _ found => ⟨leads.1, leads.2, found⟩
  store lists :=
    ((Directory.matches_store (agrees.blocks lists)).within (mirrors_store d)
      (mirrors_store d)).along (keeps_store d) (keeps_store d)
        fun c c' => c = w.catalog ∧ c' = w'.catalog

end DiskWorld

/-! ## Answers without a session -/

namespace Response

variable {State : Type}

/-- What becomes of an answer with a known body, by the method.  A method other than `GET`
and `HEAD` is refused whatever is asked for. -/
def shown (status : Nat) (headers : List Header) (bytes : Bytes) : Method → Response State
  | .get => (⟨status, headers, .known bytes⟩ : Response State).withLength
  | .head => { (⟨status, headers, .known bytes⟩ : Response State).withLength with body := .known [] }
  | .options | .other _ => (bare 405 [Gateway.allowed]).withLength

/-- A request that is refused. -/
def refusal (e : AccessError) : Method → Response State :=
  shown e.status e.headers (Bytes.ofText e.body)

/-- A request for a block that is not in the granted manifest. -/
def foreign (grant : Grant) (request : Request) : Response State :=
  if hasCachedCopy request.headers then shown 304 [] [] request.method
  else if grant.operation ≠ .downloadBlocks then refusal .operationMismatch request.method
  else refusal .blockUnavailable request.method

/-- There is nothing in the answer to a block that is not available. -/
theorem refusal_blockUnavailable {method : Method} (asked : method = .get ∨ method = .head) :
    (refusal .blockUnavailable method : Response State) =
      ⟨400, [("content-length", "0")], .known []⟩ := by
  have empty : Bytes.ofText "" = [] := by decide +kernel
  have body : (refusal .blockUnavailable method : Response State) = shown 400 [] [] method :=
    congrArg (fun bytes => (shown 400 [] bytes method : Response State)) empty
  rw [body]
  rcases asked with rfl | rfl <;> rfl

theorem foreign_of_asked {grant : Grant} {request : Request}
    (asked : request.method = .get ∨ request.method = .head)
    (fresh : hasCachedCopy request.headers = false) (blocks : grant.operation = .downloadBlocks) :
    (foreign grant request : Response State) = ⟨400, [("content-length", "0")], .known []⟩ := by
  have stale : ¬hasCachedCopy request.headers = true := Bool.eq_false_iff.1 fresh
  rw [foreign, if_neg stale, if_neg (not_not_intro blocks)]
  exact refusal_blockUnavailable asked

end Response

variable {World Handle File : Type} {svc : Services World Handle File} {g : Gateway World}
  {token last text : String} {request : Request} {route : Route}

namespace Access

/-- A token that leads nowhere is refused before anything else is looked at. -/
theorem run_bind_unresolved {α : Type}
    (unresolved : (svc.catalog.grant? token g.world).1 = .ok none) (f : Grant → Access World α) :
    ∃ h, (resolveGrant svc token >>= f).run g = (.error .tokenNotFound, h) := by
  have found : svc.catalog.grant? token g.world =
      (.ok none, (svc.catalog.grant? token g.world).2) := Prod.ext unresolved rfl
  refine ⟨g.withWorld (svc.catalog.grant? token g.world).2, ?_⟩
  unfold resolveGrant
  rw [bind_assoc, run_bind_of_gives (gives_lookUp found)]
  rfl

/-- The look-ups of a request for a block come upon these records. -/
def Reaches (svc : Services World Handle File) (token : String) (grant : Grant) (repo : Repo)
    (manifest : Manifest) (w : World) : Prop :=
  ∃ w₁ w₂ w₃ w₄, svc.catalog.grant? token w = (.ok (some grant), w₁) ∧
    svc.catalog.repo? grant.repoId w₁ = (.ok (some repo), w₂) ∧
    svc.catalog.objectExists repo.storeRef grant.objectId w₂ = (.ok true, w₃) ∧
    svc.catalog.manifest? repo.storeRef grant.objectId w₃ = (.ok (some manifest), w₄)

/-- A text names no block of a manifest. -/
def Outside (manifest : Manifest) (text : String) : Prop :=
  ∀ id, BlockId.parse text = .ok id → id ∉ manifest.blocks

theorem run_grantedBlock_outside {α : Type} {manifest : Manifest}
    (outside : Outside manifest text) (f : BlockId → Access World α) :
    (grantedBlock manifest text >>= f).run g = (.error .blockUnavailable, g) := by
  unfold grantedBlock
  split
  · rfl
  · rename_i id parsed
    have unlisted : ¬manifest.contains id := by
      simpa [Manifest.contains] using outside id parsed
    rw [if_neg unlisted]
    rfl

/-- A client that has a copy is told so before anything but its token is looked at. -/
theorem run_block_cached (text : String) {grant : Grant} {w : World}
    (granted : svc.catalog.grant? token g.world = (.ok (some grant), w))
    (cached : hasCachedCopy request.headers = true) :
    ∃ h, (block svc request token text).run g = (.ok (.bare 304 []), h) := by
  unfold block
  rw [run_bind_of_gives (gives_resolveGrant granted)]
  simp only [cached, ↓reduceIte]
  exact ⟨_, rfl⟩

/-- A block outside the granted manifest is refused before the store is asked. -/
theorem run_block_outside {grant : Grant} {repo : Repo} {manifest : Manifest}
    (reaches : Reaches svc token grant repo manifest g.world)
    (fresh : hasCachedCopy request.headers = false) (outside : Outside manifest text) :
    ∃ h, (block svc request token text).run g =
      (.error (if grant.operation ≠ .downloadBlocks then .operationMismatch
        else .blockUnavailable), h) := by
  obtain ⟨w₁, w₂, w₃, w₄, granted, located, present, listed⟩ := reaches
  unfold block
  rw [run_bind_of_gives (gives_resolveGrant granted)]
  simp only [fresh, Bool.false_eq_true, ↓reduceIte]
  rw [run_bind_of_gives (gives_loadRepo (g := g.withWorld w₁) located),
    run_bind_of_gives (gives_checkObject (g := (g.withWorld w₁).withWorld w₂) present)]
  by_cases other : grant.operation ≠ .downloadBlocks
  · rw [if_pos other, if_pos other]
    exact ⟨_, rfl⟩
  · rw [if_neg other, if_neg other]
    refine ⟨g.withWorld w₄, ?_⟩
    rw [run_bind_of_gives
        (gives_loadManifest (g := ((g.withWorld w₁).withWorld w₂).withWorld w₃) listed),
      run_grantedBlock_outside outside]
    rfl

end Access

namespace Gateway

/-- What is fetched with a known body is answered. -/
theorem respond_known (delivered : Delivered route.resource) {status : Nat}
    {headers : List Header} {bytes : Bytes}
    (fetched : ∃ h, fetch svc route request g = (⟨status, headers, .known bytes⟩, h)) :
    ∃ h, respond svc route request g = (.shown status headers bytes request.method, h) := by
  obtain ⟨h, fetched⟩ := fetched
  unfold respond
  rw [delivered.closed, fetched]
  cases method : request.method with
  | get => exact ⟨h, by simp [Response.shown]⟩
  | head => exact ⟨_, by simp [Response.shown, withoutBody]; rfl⟩
  | options => exact ⟨g, rfl⟩
  | other name => exact ⟨g, rfl⟩

theorem settle_refused {act : Access World (Response (Delivering Handle File))} {e : AccessError}
    (refused : ∃ h, act.run g = (.error e, h)) : ∃ h, settle act g = (.ofError e, h) := by
  obtain ⟨h, ran⟩ := refused
  exact ⟨h, by simp only [settle, ran]⟩

theorem settle_answered {act : Access World (Response (Delivering Handle File))}
    {r : Response (Delivering Handle File)} (answered : ∃ h, act.run g = (.ok r, h)) :
    ∃ h, settle act g = (r, h) := by
  obtain ⟨h, ran⟩ := answered
  exact ⟨h, by simp only [settle, ran]⟩

/-- The answer to a token that leads nowhere. -/
theorem send_unresolved (svc : Services World Handle File)
    (routed : Route.ofTarget? request.target = some route) (delivered : Delivered route.resource)
    (decoded : Route.decodeParams route.params = .ok [token, last]) (free : g.Free request)
    (unresolved : (svc.catalog.grant? token g.world).1 = .ok none) :
    ∃ h, send svc request g = (.ready (.refusal .tokenNotFound request.method), h) := by
  obtain ⟨h, same, sent⟩ := send_free svc routed delivered free
  rw [← same] at unresolved
  have refused : ∃ h', fetch svc route request h = (.ofError .tokenNotFound, h') := by
    unfold fetch
    simp only [decoded]
    rcases delivered with isFile | isBlock
    · simp only [isFile]
      exact settle_refused (Access.run_bind_unresolved unresolved _)
    · simp only [isBlock]
      exact settle_refused (Access.run_bind_unresolved unresolved _)
  obtain ⟨h', responded⟩ := respond_known delivered refused
  exact ⟨h', by rw [sent, responded]; rfl⟩

/-- The answer to a block outside the granted manifest. -/
theorem send_outside {grant : Grant} {repo : Repo} {manifest : Manifest}
    (routed : Route.ofTarget? request.target = some route) (isBlock : route.resource = .block)
    (decoded : Route.decodeParams route.params = .ok [token, text]) (free : g.Free request)
    (reaches : Access.Reaches svc token grant repo manifest g.world)
    (outside : Access.Outside manifest text) :
    ∃ h, send svc request g = (.ready (.foreign grant request), h) := by
  have delivered : Delivered route.resource := .inr isBlock
  obtain ⟨h, same, sent⟩ := send_free svc routed delivered free
  rw [← same] at reaches
  have fetched : fetch svc route request h = settle (Access.block svc request token text) h := by
    unfold fetch
    simp only [decoded, isBlock]
  rw [sent]
  unfold Response.foreign
  by_cases cached : hasCachedCopy request.headers = true
  · obtain ⟨_, _, _, _, granted, -⟩ := reaches
    obtain ⟨h', settled⟩ := settle_answered (Access.run_block_cached text granted cached)
    obtain ⟨h'', responded⟩ := respond_known delivered ⟨h', fetched.trans settled⟩
    exact ⟨h'', by rw [responded, if_pos cached]⟩
  · have fresh := Bool.eq_false_iff.2 cached
    obtain ⟨h', settled⟩ := settle_refused (Access.run_block_outside reaches fresh outside)
    obtain ⟨h'', responded⟩ := respond_known delivered ⟨h', fetched.trans settled⟩
    refine ⟨h'', ?_⟩
    rw [responded, if_neg cached]
    split <;> rfl

/-! ## The confinement -/

/-- A request for a file or for a block, on a connection that is free, is confined to what
its token leads to:

* in memory, and on disk, two gateways with the same settings answer it alike if their
  worlds agree on the way that starts at the token, whatever else they hold;
* a token that leads nowhere has one answer;
* a block outside the granted manifest has one answer, whether the store has the block or
  not, and it is an empty refusal if nothing speaks against the request itself. -/
theorem grant_confines (routed : Route.ofTarget? request.target = some route)
    (delivered : Delivered route.resource) (s : Settings) :
    (∀ (countsUsage : Bool) (now now' : Instant) (g g' : Gateway MemoryWorld),
      g.Free request → g'.Free request →
      (∀ token last, Route.decodeParams route.params = .ok [token, last] →
        g.world.Agrees token g'.world) →
      SameAnswer (MemoryWorld.services s countsUsage now) (MemoryWorld.services s countsUsage now')
        request g g') ∧
    (∀ (d : Directory) (now now' : Instant) (g g' : Gateway DiskWorld),
      g.Free request → g'.Free request →
      (∀ token last, Route.decodeParams route.params = .ok [token, last] →
        g.world.Agrees d token g'.world) →
      SameAnswer (DiskWorld.services s d now) (DiskWorld.services s d now') request g g') ∧
    (∀ {World Handle File : Type} (svc : Services World Handle File) (g : Gateway World)
      (token last : String), Route.decodeParams route.params = .ok [token, last] →
      g.Free request → (svc.catalog.grant? token g.world).1 = .ok none →
      ∃ h, send svc request g = (.ready (.refusal .tokenNotFound request.method), h)) ∧
    (∀ {World Handle File : Type} (svc : Services World Handle File) (g : Gateway World)
      (token text : String) (grant : Grant) (repo : Repo) (manifest : Manifest),
      route.resource = .block → Route.decodeParams route.params = .ok [token, text] →
      g.Free request → Access.Reaches svc token grant repo manifest g.world →
      Access.Outside manifest text →
      ∃ r h, send svc request g = (.ready r, h) ∧ r = .foreign grant request ∧
        (request.method = .get ∨ request.method = .head →
          hasCachedCopy request.headers = false → grant.operation = .downloadBlocks →
          r = ⟨400, [("content-length", "0")], .known []⟩)) := by
  refine ⟨?memory, ?disk, ?unresolved, ?outside⟩
  case memory =>
    intro countsUsage now now' g g' free free' agrees
    refine sameAnswer_of_agree routed delivered (fun token last decoded => ?_) free free'
    have agree := agrees token last decoded
    exact ⟨_, _, _, agree.after, agree.agree s countsUsage now now'⟩
  case disk =>
    intro d now now' g g' free free' agrees
    refine sameAnswer_of_agree routed delivered (fun token last decoded => ?_) free free'
    exact ⟨_, _, _, ⟨⟨rfl, rfl⟩, rfl, rfl⟩, (agrees token last decoded).agree s now now'⟩
  case unresolved =>
    intro World Handle File svc g token last decoded free unresolved
    exact send_unresolved svc routed delivered decoded free unresolved
  case outside =>
    intro World Handle File svc g token text grant repo manifest isBlock decoded free reaches outside
    obtain ⟨h, sent⟩ := send_outside routed isBlock decoded free reaches outside
    exact ⟨_, h, sent, rfl, fun asked fresh blocks => Response.foreign_of_asked asked fresh blocks⟩

end Gateway

/-! ## Neighbours -/

namespace Neighbours

/-- A file of two bytes under the token `t`, and maybe one of somebody else under the
token `u`. -/
def records (crowded : Bool) : List CatalogEntry :=
  [.grant "t" ⟨"repo", "object", .downloadBlocks, "user"⟩,
    .repo ⟨"repo", "store-1", 1, false, 0⟩,
    .manifest SlowPair.ref "object" ⟨2, [SlowPair.one]⟩] ++
  if crowded then
    [.grant "u" ⟨"repo", "other", .downloadBlocks, "eve"⟩,
      .manifest SlowPair.ref "other" ⟨1, [SlowPair.two]⟩]
  else []

/-- The blocks of the files. -/
def blocks (crowded : Bool) : MemoryBlocks :=
  if crowded then SlowPair.blocks [7, 8] [9]
  else ({} : MemoryBlocks).put SlowPair.ref SlowPair.one [7, 8]

def memory (crowded : Bool) : MemoryWorld :=
  { MemoryWorld.empty {} {} with
    blocks := { inner := { inner := blocks crowded } }
    catalog := { inner := (records crowded).foldl MemoryCatalog.put {} } }

/-- The blocks of the files, below the directory `d`. -/
def files (crowded : Bool) : FileSystem where
  nodes :=
    ⟨[(["d"], .directory), (["d", "store-1"], .directory), (["d", "store-1", "11"], .directory),
      (["d", "store-1", "11", SlowPair.one.member], .file 0)] ++
      if crowded then
        [(["d", "store-1", "22"], .directory),
          (["d", "store-1", "22", SlowPair.two.member], .file 1)]
      else []⟩
  contents := ⟨[(0, [7, 8]), (1, [9])]⟩
  fresh := 2

def disk (crowded : Bool) : DiskWorld where
  catalog := (records crowded).foldl TreeCatalog.put {}
  archives := ⟨{ directory := "/tmp" }, files crowded⟩

theorem memory_agrees : (memory false).Agrees "t" (memory true) where
  grant := rfl
  repo granted := by
    cases granted
    rfl
  key := by
    rintro grant repo ⟨granted, located⟩
    cases granted
    cases located
    rfl
  manifest := by
    rintro grant repo ⟨granted, located⟩
    cases granted
    cases located
    rfl
  left _ := rfl
  blocks := by
    rintro grant repo manifest ⟨granted, located, listed⟩
    cases granted
    cases located
    cases listed
    decide
  plan _ _ _ := rfl

theorem disk_granted {grant : Grant} (granted : ((disk false).scope "t").granted grant) :
    grant = ⟨"repo", "object", .downloadBlocks, "user"⟩ := by
  have found : (disk false).catalog.load .grants "t" Codec.grant.wire =
      .ok (some ⟨"repo", "object", .downloadBlocks, "user"⟩) := by decide +kernel
  cases granted.symm.trans found
  rfl

theorem disk_repo {grant : Grant} {repo : Repo} (leads : ((disk false).scope "t").repo grant repo) :
    grant = ⟨"repo", "object", .downloadBlocks, "user"⟩ ∧
      repo = ⟨"repo", "store-1", 1, false, 0⟩ := by
  have found : (disk false).catalog.load .repos "repo" Codec.repo.wire =
      .ok (some ⟨"repo", "store-1", 1, false, 0⟩) := by decide +kernel
  obtain ⟨granted, located⟩ := leads
  obtain rfl := disk_granted granted
  cases located.symm.trans found
  exact ⟨rfl, rfl⟩

theorem disk_agrees : (disk false).Agrees ⟨"/d"⟩ "t" (disk true) where
  grant := by decide +kernel
  repo granted := by
    obtain rfl := disk_granted granted
    decide +kernel
  key leads := by
    obtain ⟨rfl, rfl⟩ := disk_repo leads
    decide +kernel
  manifest leads := by
    obtain ⟨rfl, rfl⟩ := disk_repo leads
    decide +kernel
  blocks := by
    rintro grant repo manifest ⟨granted, located, listed⟩ id mem
    have manifest_eq : (disk false).catalog.load .manifests
        (TreeCatalog.manifestKey SlowPair.ref "object") Codec.manifest.wire =
          .ok (some ⟨2, [SlowPair.one]⟩) := by decide +kernel
    obtain ⟨rfl, rfl⟩ := disk_repo ⟨granted, located⟩
    cases listed.symm.trans manifest_eq
    obtain rfl := List.mem_singleton.1 mem
    have found : (files false).find (Directory.blockPath ⟨"/d"⟩ SlowPair.ref SlowPair.one) =
        .ok (.file 0) := by decide +kernel
    have found' : (files true).find (Directory.blockPath ⟨"/d"⟩ SlowPair.ref SlowPair.one) =
        .ok (.file 0) := by decide +kernel
    show FileSystem.SameEnd (files false) (files true)
      ((files false).find (Directory.blockPath ⟨"/d"⟩ SlowPair.ref SlowPair.one))
      ((files true).find (Directory.blockPath ⟨"/d"⟩ SlowPair.ref SlowPair.one))
    rw [found, found']
    exact .ok (.file rfl)

theorem memory_reaches (crowded : Bool) (countsUsage : Bool) (now : Instant) :
    Access.Reaches (MemoryWorld.services {} countsUsage now) "t"
      ⟨"repo", "object", .downloadBlocks, "user"⟩ ⟨"repo", "store-1", 1, false, 0⟩
      ⟨2, [SlowPair.one]⟩ (memory crowded) := by
  refine ⟨memory crowded, memory crowded, memory crowded, memory crowded, ?_⟩
  cases crowded <;> exact ⟨rfl, rfl, rfl, rfl⟩

/-- A request for a block of the file. -/
def own : Request := ⟨.get, "/blks/t/1111111111111111111111111111111111111111", [], some "c"⟩

/-- A request for a block that is not in the file. -/
def foreign (headers : List Header) : Request :=
  ⟨.get, "/blks/t/2222222222222222222222222222222222222222", headers, some "c"⟩

def foreignRoute : Route :=
  ⟨.block, [("token", "t"), ("block_id", "2222222222222222222222222222222222222222")]⟩

theorem routed_foreign (headers : List Header) :
    Route.ofTarget? (foreign headers).target = some foreignRoute := by
  have routed : Route.ofTarget? "/blks/t/2222222222222222222222222222222222222222" =
      some foreignRoute := by decide
  exact routed

theorem decoded_foreign : Route.decodeParams foreignRoute.params =
    .ok ["t", "2222222222222222222222222222222222222222"] := by decide +kernel

theorem outside_foreign : Access.Outside ⟨2, [SlowPair.one]⟩
    "2222222222222222222222222222222222222222" := by
  have parsed : BlockId.parse "2222222222222222222222222222222222222222" =
      .ok SlowPair.two := by decide +kernel
  intro id named
  cases parsed.symm.trans named
  decide

end Neighbours

namespace Gateway

open Neighbours

/-- A granted block, a block of somebody else, and a token that nobody has. -/
theorem grant_confines_of_neighbours :
    let now : Instant := ⟨⟨2024, 1, 1⟩, 0, 0, 0⟩
    let later : Instant := ⟨⟨2024, 1, 2⟩, 0, 0, 0⟩
    let inMemory := MemoryWorld.services {} true now
    let stray : Request := ⟨.head, "/files/v/name", [], none⟩
    SameAnswer inMemory (MemoryWorld.services {} true later) own { world := memory false }
        { world := memory true } ∧
      SameAnswer (DiskWorld.services {} ⟨"/d"⟩ now) (DiskWorld.services {} ⟨"/d"⟩ later) own
        { world := disk false } { world := disk true } ∧
      (∃ h, send inMemory stray { world := memory true } =
        (.ready (.refusal .tokenNotFound .head), h)) ∧
      ∀ crowded, ∃ h, send inMemory (foreign []) { world := memory crowded } =
        (.ready ⟨400, [("content-length", "0")], .known []⟩, h) := by
  intro now later inMemory stray
  have ownRoute : Route.ofTarget? own.target = some ⟨.block,
      [("token", "t"), ("block_id", "1111111111111111111111111111111111111111")]⟩ := by decide
  have strayRoute : Route.ofTarget? stray.target =
      some ⟨.file, [("token", "v"), ("filename", "name")]⟩ := by decide
  have params : Route.decodeParams
      [("token", "t"), ("block_id", "1111111111111111111111111111111111111111")] =
        .ok ["t", "1111111111111111111111111111111111111111"] := by decide +kernel
  have strayParams : Route.decodeParams [("token", "v"), ("filename", "name")] =
      .ok ["v", "name"] := by decide +kernel
  refine ⟨?memory, ?disk, ?unresolved, fun crowded => ?outside⟩
  case memory =>
    refine (grant_confines ownRoute (.inr rfl) {}).1 true now later _ _ (fun _ _ => rfl)
      (fun _ _ => rfl) fun token last decoded => ?_
    cases params.symm.trans decoded
    exact memory_agrees
  case disk =>
    refine (grant_confines ownRoute (.inr rfl) {}).2.1 ⟨"/d"⟩ now later _ _ (fun _ _ => rfl)
      (fun _ _ => rfl) fun token last decoded => ?_
    cases params.symm.trans decoded
    exact disk_agrees
  case unresolved =>
    exact (grant_confines strayRoute (.inl rfl) {}).2.2.1 inMemory _ "v" "name" strayParams
      (fun _ _ => rfl) rfl
  case outside =>
    obtain ⟨r, h, sent, -, answer⟩ := (grant_confines (routed_foreign []) (.inr rfl) {}).2.2.2
      inMemory { world := memory crowded } "t" _ _ _ _ rfl decoded_foreign (fun _ _ => rfl)
      (memory_reaches crowded true now) outside_foreign
    rw [answer (.inl rfl) rfl rfl] at sent
    exact ⟨h, sent⟩

/-- A client that has a copy of what is no block of the file. -/
theorem grant_confines_of_cached :
    let inMemory := MemoryWorld.services {} true ⟨⟨2024, 1, 1⟩, 0, 0, 0⟩
    Access.Outside ⟨2, [SlowPair.one]⟩ "2222222222222222222222222222222222222222" ∧
      ∃ h, send inMemory (foreign [("if-modified-since", "yesterday")]) { world := memory false } =
        (.ready ⟨304, [("content-length", "0")], .known []⟩, h) := by
  intro inMemory
  have free : Gateway.Free { world := memory false }
      (foreign [("if-modified-since", "yesterday")]) := fun _ _ => rfl
  have reaches := memory_reaches false true ⟨⟨2024, 1, 1⟩, 0, 0, 0⟩
  exact ⟨outside_foreign,
    send_outside (routed_foreign _) rfl decoded_foreign free reaches outside_foreign⟩

end Gateway

end StreamGate
