import Mathlib.Logic.Relation
import StreamGate.Proofs.Gateway.Access
import StreamGate.Proofs.Gateway.FileDelivery

/-!
# Answers of the deliveries

Every way in which the three deliveries can answer a `GET` that they do not refuse,
whatever the catalog, the store and the archives say.

* `Services.Installs`: the sources that become sessions, with the lengths announced
  for them.
* `Services.Delivers`: the answers, and `Access.ensures_file`,
  `Access.ensures_block`, `Access.ensures_archive`: there are no others.
-/

namespace StreamGate

variable {World Handle File : Type}

namespace Catalog

/-- A look-up of a catalog turns a world into another. -/
inductive Looks (catalog : Catalog World) (w : World) : World → Prop
  | grant (token : String) : Looks catalog w (catalog.grant? token w).2
  | repo (repoId : String) : Looks catalog w (catalog.repo? repoId w).2
  | manifest (ref : StoreRef) (objectId : String) :
      Looks catalog w (catalog.manifest? ref objectId w).2
  | key (repoId username : String) : Looks catalog w (catalog.key? repoId username w).2

/-- Look-ups, one after another, turn a world into another. -/
def Reaches (catalog : Catalog World) : World → World → Prop :=
  Relation.ReflTransGen catalog.Looks

/-- A manifest is found, perhaps after other look-ups. -/
def Finds (catalog : Catalog World) (w : World) (manifest : Manifest) : Prop :=
  ∃ w₁ w₂ ref objectId, catalog.Reaches w w₁ ∧
    catalog.manifest? ref objectId w₁ = (.ok (some manifest), w₂)

end Catalog

/-- The sources that the gateway installs, with the length that it announces. -/
inductive Services.Installs (svc : Services World Handle File) :
    Delivering Handle File → Nat → Prop
  | wholeFile (store : StoreRef) (manifest : Manifest) (key : Option CipherKey) :
      svc.Installs (.inl (Cursor.wholeFile store manifest key svc.buffer)) manifest.fileSize.toNat
  | range (store : StoreRef) (manifest : Manifest) {header : String} {r : ByteRange}
      (parsed : ByteRange.parse header manifest.fileSize = .ok r) :
      svc.Installs (.inl (Cursor.range store manifest r svc.buffer)) r.length.toNat
  | singleBlock (store : StoreRef) (id : BlockId) {size : Nat} (countable : size < UInt64.size) :
      svc.Installs (.inl (Cursor.singleBlock store id size svc.buffer)) size
  | archive {path token : String} {w : World} {relay : Relay File}
      (opened : Relay.openFile svc.archives.in64Bits path token svc.buffer w = .ok relay) :
      svc.Installs (.inr relay) relay.size

/-- The answers of a delivery to a `GET` that begins in the world `w`. -/
inductive Services.Delivers (svc : Services World Handle File) (w : World) :
    Response (Delivering Handle File) → Prop
  /-- Neither headers nor body: the client has a copy, or there is nothing to cut a
  range from. -/
  | bare (status : Nat) : svc.Delivers w (.bare status [])
  /-- A file without blocks is sent without a session, under its announced size. -/
  | blockless {manifest : Manifest} {headers : List Header} (found : svc.catalog.Finds w manifest)
      (isEmpty : manifest.isEmpty = true)
      (announced : Header.get? headers "content-length" = some (toString manifest.fileSize)) :
      svc.Delivers w (.bare 200 headers)
  /-- A session without bytes is over before the answer goes out. -/
  | atOnce {status : Nat} {headers : List Header}
      (announced : Header.get? headers "content-length" = some (toString 0)) :
      svc.Delivers w ⟨status, headers, .known []⟩
  /-- The body is a session on an installed source. -/
  | streamed {status length : Nat} {headers : List Header} {conn : Option ConnectionId}
      {source : Delivering Handle File} (id : SessionId) (kind : TransferKind)
      (usage : Option UsageEvent) (installed : svc.Installs source length)
      (announced : Header.get? headers "content-length" = some (toString length)) :
      svc.Delivers w ⟨status, headers,
        .streamed conn { id, kind, source, contentLength := length, usage }⟩

namespace Delivery

theorem contentLength_block (d : Delivery) (now : Instant) (id : String) (size : Nat)
    (userAgent : Option String) :
    Header.get? (d.block now id size userAgent) "content-length" = some (toString size) := by
  simp [Header.get?, block, caching, Header.ofText]

theorem contentLength_archive (d : Delivery) (now : Instant) (name : String) (size : Nat) :
    Header.get? (d.archive now name size) "content-length" = some (toString size) := by
  simp [Header.get?, archive, caching]

end Delivery

namespace Access

variable {svc : Services World Handle File} {α β : Type} {pre : Gateway World → Prop}

/-! ## What a step ensures -/

/-- If all is well before a step and it yields a value, then all is well with this
value and the gateway afterwards. -/
def Ensures (pre : Gateway World → Prop) (act : Access World α)
    (post : α → Gateway World → Prop) : Prop :=
  ∀ g a g', pre g → act.Gives g a g' → post a g'

theorem ensures_any (act : Access World α) : Ensures pre act fun _ _ => True :=
  fun _ _ _ _ _ => trivial

theorem Ensures.imp {act : Access World α} {post weaker : α → Gateway World → Prop}
    (ensures : Ensures pre act post) (imp : ∀ a g, post a g → weaker a g) :
    Ensures pre act weaker :=
  fun _ _ _ well gives => imp _ _ (ensures _ _ _ well gives)

/-- What holds in every gateway before a step may be used. -/
theorem ensures_knowing {known : Prop} {act : Access World α} {post : α → Gateway World → Prop}
    (ensures : known → Ensures (fun _ => known) act post) : Ensures (fun _ => known) act post :=
  fun g a g' holds => ensures holds g a g' holds

theorem ensures_bind {act : Access World α} {f : α → Access World β}
    {mid : α → Gateway World → Prop} {post : β → Gateway World → Prop}
    (first : Ensures pre act mid) (rest : ∀ a, Ensures (mid a) (f a) post) :
    Ensures pre (act >>= f) post := by
  intro g b g' well gives
  unfold Gives at gives
  rw [run_bind] at gives
  generalize given : act.run g = answer at gives
  obtain ⟨e | a, g₁⟩ := answer
  · cases gives
  · exact rest a _ _ _ (first _ _ _ well given) gives

theorem ensures_pure {post : α → Gateway World → Prop} {a : α} (holds : ∀ g, pre g → post a g) :
    Ensures pre (pure a) post := by
  intro g b g' well gives
  cases gives
  exact holds g well

theorem ensures_throw {post : α → Gateway World → Prop} (e : AccessError) :
    Ensures pre (throw e) post := by
  intro g a g' _ gives
  cases gives

/-- Nothing comes after a refusal. -/
theorem ensures_throw_bind {post : β → Gateway World → Prop} (e : AccessError)
    (f : α → Access World β) : Ensures pre (throw e >>= f) post := by
  intro g b g' _ gives
  cases gives

theorem ensures_ite {c : Prop} [Decidable c] {yes no : Access World α}
    {post : α → Gateway World → Prop} (then_ : c → Ensures pre yes post)
    (else_ : ¬c → Ensures pre no post) : Ensures pre (if c then yes else no) post := by
  split
  · exact then_ ‹_›
  · exact else_ ‹_›

theorem ensures_require (e : AccessError) (o : Option α) :
    Ensures pre (require e o) fun a g => pre g ∧ o = some a := by
  cases o with
  | none => exact ensures_throw e
  | some a => exact ensures_pure fun g well => ⟨well, rfl⟩

/-! ## Look-ups -/

/-- Since the world `w` there were only look-ups. -/
def Near (svc : Services World Handle File) (w : World) (g : Gateway World) : Prop :=
  svc.catalog.Reaches w g.world

theorem ensures_lookUp {w : World} {f : World → Except Failure α × World}
    (looks : ∀ w', svc.catalog.Looks w' (f w').2) :
    Ensures (Near svc w) (lookUp f) fun a g =>
      Near svc w g ∧ ∃ w₁, svc.catalog.Reaches w w₁ ∧ f w₁ = (.ok a, g.world) := by
  intro g a g' near gives
  unfold Gives lookUp at gives
  rw [run_bind_of_gives (gives_get g)] at gives
  have looked := looks g.world
  generalize found : f g.world = answer at gives looked
  obtain ⟨e | b, w'⟩ := answer
  · cases gives
  · cases gives
    exact ⟨near.tail looked, g.world, near, found⟩

theorem near_resolveGrant {w : World} (token : String) :
    Ensures (Near svc w) (resolveGrant svc token) fun _ => Near svc w := by
  unfold resolveGrant
  refine ensures_bind (ensures_lookUp fun _ => .grant token) fun found => ?_
  exact (ensures_require _ _).imp fun _ _ well => well.1.1

theorem near_loadRepo {w : World} (repoId : String) :
    Ensures (Near svc w) (loadRepo svc repoId) fun _ => Near svc w := by
  unfold loadRepo
  refine ensures_bind (ensures_lookUp fun _ => .repo repoId) fun found => ?_
  exact (ensures_require _ _).imp fun _ _ well => well.1.1

theorem near_loadKey {w : World} (repo : Repo) (username : String) :
    Ensures (Near svc w) (loadKey svc repo username) fun _ => Near svc w := by
  unfold loadKey
  refine ensures_ite (fun _ => ?_) fun _ => ensures_pure fun _ near => near
  refine ensures_bind (ensures_lookUp fun _ => .key repo.repoId username) fun found => ?_
  refine ensures_bind (ensures_require _ _) fun material => ?_
  split
  · exact ensures_pure fun _ well => well.1.1
  · exact ensures_throw _

theorem near_checkObject {w : World} (repo : Repo) (objectId : String) :
    Ensures (Near svc w) (checkObject svc repo objectId) fun _ => Near svc w := by
  unfold checkObject
  refine ensures_bind (ensures_lookUp fun _ => .manifest repo.storeRef objectId) fun found => ?_
  exact ensures_ite (fun _ => ensures_throw _) fun _ => ensures_pure fun _ well => well.1

theorem finds_loadManifest {w : World} (repo : Repo) (objectId : String) :
    Ensures (Near svc w) (loadManifest svc repo objectId) fun m _ => svc.catalog.Finds w m := by
  unfold loadManifest
  refine ensures_bind (ensures_lookUp fun _ => .manifest repo.storeRef objectId) fun found => ?_
  refine (ensures_require _ _).imp fun m g well => ?_
  obtain ⟨⟨-, w₁, reaches, answer⟩, given⟩ := well
  rw [given] at answer
  exact ⟨w₁, _, _, _, reaches, answer⟩

/-! ## The deliveries -/

/-- A session that is started is the body, or it is over at once. -/
theorem ensures_startSession (w : World) (conn : Option ConnectionId) (status : Nat)
    {headers : List Header} (t : Transfer (Delivering Handle File))
    (installed : svc.Installs t.source t.contentLength)
    (announced : Header.get? headers "content-length" = some (toString t.contentLength)) :
    Ensures pre (startSession svc conn status headers t) fun r _ => svc.Delivers w r := by
  intro g r g' _ gives
  unfold Gives startSession at gives
  rw [run_bind_of_gives (gives_get g)] at gives
  unfold Session.intoBody at gives
  dsimp only at gives
  split at gives
  · rename_i empty
    cases gives
    rw [empty] at announced
    exact .atOnce announced
  · cases gives
    exact .streamed _ _ _ installed announced

theorem ensures_notModified (svc : Services World Handle File) (w : World) (kind : TransferKind) :
    Ensures pre (notModified kind) fun r _ => svc.Delivers w r := by
  intro g r g' _ gives
  cases gives
  exact .bare 304

theorem ensures_deliverFile {w : World} (f : FileRequest) (key : Option CipherKey)
    (get : f.request.method = .get) :
    Ensures (fun _ => svc.catalog.Finds w f.manifest) (deliverFile svc f key)
      fun r _ => svc.Delivers w r := by
  have announced := Delivery.contentLength_file svc.delivery svc.now f.name f.grant.operation
    f.manifest.fileSize f.request.userAgent
  unfold deliverFile
  refine ensures_ite (fun blockless => ?_) fun _ => ?_
  · have isEmpty : f.manifest.isEmpty = true := by
      simpa [FileRequest.headOnly, get] using blockless
    exact ensures_pure fun _ found => .blockless found isEmpty announced
  · exact ensures_startSession w _ _ _ (.wholeFile ..) announced

theorem ensures_deliverRange (w : World) (f : FileRequest) (header : String)
    (get : f.request.method = .get) :
    Ensures pre (deliverRange svc f header) fun r _ => svc.Delivers w r := by
  unfold deliverRange
  refine ensures_ite (fun _ => ensures_pure fun _ _ => .bare 200) fun _ => ?_
  split
  · exact ensures_throw _
  · rename_i r parsed
    have notHead : f.headOnly = false := by
      simp [FileRequest.headOnly, get]
    rw [notHead]
    exact ensures_startSession w _ _ _ (.range _ _ parsed) (Delivery.contentLength_range ..)

/-- The answers to a request for a file. -/
theorem ensures_file (w : World) {request : Request} (get : request.method = .get)
    (token name : String) :
    Ensures (Near svc w) (file svc request token name) fun r _ => svc.Delivers w r := by
  unfold file
  refine ensures_bind (near_resolveGrant token) fun grant => ?_
  refine ensures_ite (fun _ => ensures_throw_bind _ _) fun _ => ?_
  refine ensures_ite (fun _ => ensures_notModified svc w _) fun _ => ?_
  refine ensures_bind (near_loadRepo grant.repoId) fun repo => ?_
  refine ensures_bind (near_loadKey repo grant.username) fun key => ?_
  refine ensures_bind (near_checkObject repo grant.objectId) fun _ => ?_
  refine ensures_bind (finds_loadManifest repo grant.objectId) fun manifest => ?_
  split
  · exact ensures_deliverRange w _ _ get
  · exact ensures_deliverFile ⟨request, name, grant, repo, manifest⟩ _ get

/-- The size of a block can be counted. -/
theorem ensures_blockSize (ref : StoreRef) (id : BlockId) :
    Ensures pre (blockSize svc ref id) fun size _ => size < UInt64.size := by
  intro g size g' _ gives
  unfold Gives blockSize at gives
  rw [run_bind_of_gives (gives_get g)] at gives
  generalize svc.store.stat ref id g.world = answer at gives
  obtain ⟨e | size, w⟩ := answer
  · cases gives
  · cases gives
    exact Nat.mod_lt _ (by decide)

/-- The answers to a request for a block. -/
theorem ensures_block (w : World) (request : Request) (token text : String) :
    Ensures pre (block svc request token text) fun r _ => svc.Delivers w r := by
  unfold block
  refine ensures_bind (ensures_any _) fun grant => ?_
  refine ensures_ite (fun _ => ensures_notModified svc w _) fun _ => ?_
  refine ensures_bind (ensures_any _) fun repo => ?_
  refine ensures_bind (ensures_any _) fun _ => ?_
  refine ensures_ite (fun _ => ensures_throw_bind _ _) fun _ => ?_
  refine ensures_bind (ensures_any _) fun manifest => ?_
  refine ensures_bind (ensures_any _) fun id => ?_
  refine ensures_bind (ensures_blockSize repo.storeRef id) fun size => ?_
  refine ensures_knowing fun countable => ?_
  exact ensures_startSession w _ _ _ (.singleBlock _ _ countable) (Delivery.contentLength_block ..)

/-- The answers to a request for an archive. -/
theorem ensures_archive (w : World) (request : Request) (token : String) :
    Ensures pre (archive svc request token) fun r _ => svc.Delivers w r := by
  unfold archive
  refine ensures_bind (ensures_any _) fun grant => ?_
  refine ensures_bind (ensures_any _) fun target => ?_
  refine ensures_bind (ensures_any _) fun path => ?_
  refine ensures_ite (fun _ => ?_) fun _ => ?_
  · refine ensures_bind (ensures_notModified svc w _) fun response => ?_
    intro g r g' delivers gives
    cases gives
    exact delivers
  · refine ensures_bind (ensures_any _) fun g => ?_
    split
    · exact ensures_throw _
    · rename_i relay opened
      exact ensures_startSession w _ _ _ (.archive opened) (Delivery.contentLength_archive ..)

end Access

end StreamGate
