import StreamGate.Archive.Target
import StreamGate.Gateway.Response

/-!
# Delivery

The three ways to get something from the gateway: a file, whole or in ranges; a
stored block; an archive.  Each looks up the grant behind the token, makes its
checks in a fixed order, composes the headers and hands the connection to a
session.  Whatever fails before that is a refusal.
-/

namespace StreamGate

/-- A step of a request: it may change the gateway and may refuse. -/
abbrev Access (World : Type) := ExceptT AccessError (StateM (Gateway World))

namespace Access

variable {World Handle File : Type}

/-- Looks something up.  Failures become internal errors. -/
def lookUp {α : Type} (f : World → Except Failure α × World) : Access World α := do
  let g ← get
  let (r, w) := f g.world
  set (g.withWorld w)
  match r with
  | .ok a => return a
  | .error e => throw (.ofFailure e)

/-- What was looked up, or a refusal if there is none. -/
def require {α : Type} (e : AccessError) : Option α → Access World α
  | some a => return a
  | none => throw e

/-- The answer to a client that has a copy. -/
def notModified (kind : TransferKind) : Access World (Response (Delivering Handle File)) := do
  modify fun g => { g with metrics := g.metrics.notModified kind }
  return .bare 304 []

/-- What a session needs beyond its headers. -/
structure Transfer (State : Type) where
  kind : TransferKind
  source : State
  contentLength : Nat
  usage : Option UsageEvent

/-- Takes the connection over and answers with a session as the body.  A session
without bytes is over before the answer goes out. -/
def startSession (svc : Services World Handle File) (conn : Option ConnectionId) (status : Nat)
    (headers : List Header) (t : Transfer (Delivering Handle File)) :
    Access World (Response (Delivering Handle File)) := do
  let g ← get
  let session : Session (Delivering Handle File) :=
    { id := g.nextSession, kind := t.kind, source := t.source, contentLength := t.contentLength,
      usage := t.usage }
  let g := { g with nextSession := g.nextSession + 1 }.install conn session
  let (left, g) := session.intoBody svc.source (Gateway.host svc.countsUsage conn) 2 g
  set g
  return ⟨status, headers, left.elim (.known []) (.streamed conn)⟩

/-! ## Common checks -/

def resolveGrant (svc : Services World Handle File) (token : String) : Access World Grant := do
  require .tokenNotFound (← lookUp (svc.catalog.grant? token))

def loadRepo (svc : Services World Handle File) (repoId : String) : Access World Repo := do
  require .badRepo (← lookUp (svc.catalog.repo? repoId))

/-- The key to a repository, if it needs one. -/
def loadKey (svc : Services World Handle File) (repo : Repo) (username : String) :
    Access World (Option CipherKey) := do
  if repo.encrypted then
    let material ← require .missingKey (← lookUp (svc.catalog.key? repo.repoId username))
    match material.cipherKey repo.encVersion with
    | .ok key => return some key
    | .error e => throw (.ofFailure e)
  else return none

/-- Refuses unless the granted object has a manifest. -/
def checkObject (svc : Services World Handle File) (repo : Repo) (objectId : String) :
    Access World Unit := do
  if !(← lookUp (svc.catalog.objectExists repo.storeRef objectId)) then throw .invalidFile

/-- The manifest of an object that was there a moment ago. -/
def loadManifest (svc : Services World Handle File) (repo : Repo) (objectId : String) :
    Access World Manifest := do
  require .internalError (← lookUp (svc.catalog.manifest? repo.storeRef objectId))

/-! ## Files -/

/-- What is known about a file when its delivery begins. -/
structure FileRequest where
  request : Request
  name : String
  grant : Grant
  repo : Repo
  manifest : Manifest

namespace FileRequest

def headOnly (f : FileRequest) : Bool := f.request.method = .head

/-- Files and ranges are accounted at the file's full size. -/
def usage (f : FileRequest) : Option UsageEvent :=
  UsageEvent.forTransfer f.grant.operation f.repo.storeId f.grant.username
    f.manifest.fileSize.toNat

end FileRequest

/-- Delivers a whole file. -/
def deliverFile (svc : Services World Handle File) (f : FileRequest) (key : Option CipherKey) :
    Access World (Response (Delivering Handle File)) := do
  let size := f.manifest.fileSize
  let headers := svc.delivery.file svc.now f.name f.grant.operation size f.request.userAgent
  if f.headOnly || f.manifest.isEmpty then return .bare 200 headers
  startSession svc f.request.connection 200 headers
    { kind := .file, contentLength := size.toNat, usage := f.usage
      source := .inl (Cursor.wholeFile f.repo.storeRef f.manifest key svc.buffer) }

/-- Delivers a range of a file that is not encrypted.  There is nothing to cut a
range from in a file without blocks. -/
def deliverRange (svc : Services World Handle File) (f : FileRequest) (header : String) :
    Access World (Response (Delivering Handle File)) := do
  let size := f.manifest.fileSize
  if f.manifest.isEmpty then return .bare 200 []
  match ByteRange.parse header size with
  | .error _ => throw (.rangeNotSatisfiable size)
  | .ok range =>
    let headers :=
      svc.delivery.range svc.now f.name f.grant.operation range size f.request.userAgent
    if f.headOnly then return .bare 206 headers
    startSession svc f.request.connection 206 headers
      { kind := .range, contentLength := range.length.toNat, usage := f.usage
        source := .inl (Cursor.range f.repo.storeRef f.manifest range svc.buffer) }

/-- Delivers a file.  A range of an encrypted file is not cut: such a file goes
out whole. -/
def file (svc : Services World Handle File) (request : Request) (token name : String) :
    Access World (Response (Delivering Handle File)) := do
  let grant ← resolveGrant svc token
  if !grant.operation.isFileAccess then throw .operationMismatch
  if hasCachedCopy request.headers then return ← notModified .file
  let repo ← loadRepo svc grant.repoId
  let key ← loadKey svc repo grant.username
  checkObject svc repo grant.objectId
  let manifest ← loadManifest svc repo grant.objectId
  match key, request.range with
  | none, some header => deliverRange svc ⟨request, name, grant, repo, manifest⟩ header
  | key, _ => deliverFile svc ⟨request, name, grant, repo, manifest⟩ key

/-! ## Blocks -/

/-- The block an id names, if it is part of the granted file. -/
def grantedBlock (manifest : Manifest) (text : String) : Access World BlockId :=
  match BlockId.parse text with
  | .error _ => throw .blockUnavailable
  | .ok id => if manifest.contains id then return id else throw .blockUnavailable

/-- The size of a block in 64 bits; any failure means that it is not available. -/
def blockSize (svc : Services World Handle File) (ref : StoreRef) (id : BlockId) :
    Access World Nat := do
  let g ← get
  let (r, w) := svc.store.stat ref id g.world
  set (g.withWorld w)
  match r with
  | .ok size => return size % UInt64.size
  | .error _ => throw .blockUnavailable

/-- Delivers a block as it is stored. -/
def block (svc : Services World Handle File) (request : Request) (token text : String) :
    Access World (Response (Delivering Handle File)) := do
  let grant ← resolveGrant svc token
  if hasCachedCopy request.headers then return ← notModified .block
  let repo ← loadRepo svc grant.repoId
  checkObject svc repo grant.objectId
  if grant.operation ≠ .downloadBlocks then throw .operationMismatch
  let manifest ← loadManifest svc repo grant.objectId
  let id ← grantedBlock manifest text
  let size ← blockSize svc repo.storeRef id
  startSession svc request.connection 200
    (svc.delivery.block svc.now id.text size request.userAgent)
    { kind := .block, contentLength := size
      usage := UsageEvent.forTransfer grant.operation repo.storeId grant.username size
      source := .inl (Cursor.singleBlock repo.storeRef id size svc.buffer) }

/-! ## Archives -/

/-- The archive of a token. -/
def archivePath (svc : Services World Handle File) (token : String) : Access World String := do
  require .internalError (svc.archives.path? token (← get).world)

/-- Forgets a token. -/
def discard (svc : Services World Handle File) (token : String) : Access World Unit :=
  modify fun g => g.withWorld (svc.archives.discard token g.world)

/-- Delivers an archive. -/
def archive (svc : Services World Handle File) (request : Request) (token : String) :
    Access World (Response (Delivering Handle File)) := do
  let grant ← resolveGrant svc token
  let target ← require .internalError (ArchiveTarget.parse grant.objectId).toOption
  let path ← archivePath svc token
  if hasCachedCopy request.headers then
    let response ← notModified .archive
    discard svc token
    return response
  match Relay.openFile svc.archives.in64Bits path token svc.buffer (← get).world with
  | .error _ => throw .internalError
  | .ok relay =>
    startSession svc request.connection 200
      (svc.delivery.archive svc.now (target.name svc.now.date) relay.size)
      { kind := .archive, contentLength := relay.size
        usage := UsageEvent.forTransfer grant.operation grant.repoId grant.username relay.size
        source := .inr relay }

end Access

end StreamGate
