import StreamGate.Config.SocketAddress
import StreamGate.Storage.Path
import StreamGate.Text.CharClass
import StreamGate.Text.Quoted

/-!
# Settings

What can be configured, with its defaults, and when settings can be used.
Settings come from a file, then from environment variables, then from the
command line; what comes later wins.
-/

namespace StreamGate

/-- Where to listen. -/
structure HttpSettings where
  listenAddress : String := "0.0.0.0:8082"
deriving DecidableEq, Repr

/-- Where blocks and catalog are kept. -/
structure StorageSettings where
  blocksDir : String := "./data/blocks"
  catalogPath : String := "./data/catalog"
  /-- Nothing is kept on disk. -/
  memoryOnly : Bool := false
deriving DecidableEq, Repr

namespace StorageSettings

/-- Storage below one directory. -/
def below (root : String) : StorageSettings :=
  ⟨Path.join root "blocks", Path.join root "catalog", false⟩

/-- Storage for stand-alone use. -/
def standalone : StorageSettings := below "./blockserve_data"

/-- Storage for stand-alone use that keeps nothing on disk. -/
def inMemory : StorageSettings := { standalone with memoryOnly := true }

end StorageSettings

/-- How bodies are sent. -/
structure StreamingSettings where
  /-- The most bytes read per step. -/
  bufferSize : Nat := 65536
  cacheMaxAge : Nat := 3600
  contentSecurityPolicy : String := "sandbox"
deriving DecidableEq, Repr

/-- Where finished archives are. -/
structure ArchiveSettings where
  dir : String := "./data/zip"
deriving DecidableEq, Repr

/-- What is logged, and how. -/
structure LoggingSettings where
  level : String := "info"
  json : Bool := false
deriving DecidableEq, Repr

/-- All settings. -/
structure Settings where
  http : HttpSettings := {}
  storage : StorageSettings := {}
  streaming : StreamingSettings := {}
  archive : ArchiveSettings := {}
  logging : LoggingSettings := {}
deriving DecidableEq, Repr

/-- Why settings cannot be used. -/
inductive InvalidSettings where
  | emptyListenAddress
  | badListenAddress (text : String)
  | zeroBufferSize
deriving DecidableEq, Repr

/-- The reason in words. -/
def InvalidSettings.message (invalid : InvalidSettings) : String :=
  "Invalid configuration: " ++
    match invalid with
    | emptyListenAddress => "http.listen_addr cannot be empty"
    | badListenAddress text => s!"Invalid listen address {Text.quoted text}: invalid socket address syntax"
    | zeroBufferSize => "streaming.buffer_size cannot be 0"

namespace Settings

/-- The address to listen on. -/
def socketAddress (s : Settings) : Except InvalidSettings SocketAddress :=
  match SocketAddress.parse? s.http.listenAddress with
  | some address => .ok address
  | none => .error (.badListenAddress s.http.listenAddress)

/-- Looks at the address first, then at the buffer. -/
def validate (s : Settings) : Except InvalidSettings Unit := do
  if s.http.listenAddress.toList.all Text.isBlank then throw .emptyListenAddress
  let _ ← s.socketAddress
  if s.streaming.bufferSize = 0 then throw .zeroBufferSize

/-- Applies environment variables.  A size that is no number is ignored. -/
def withEnvironment (env : String → Option String) (s : Settings) : Settings :=
  { s with
    http := { s.http with
      listenAddress := (env "BLOCKSERVE_LISTEN_ADDR").getD s.http.listenAddress }
    storage := { s.storage with
      blocksDir := (env "BLOCKSERVE_BLOCKS_DIR").getD s.storage.blocksDir
      catalogPath := (env "BLOCKSERVE_CATALOG_PATH").getD s.storage.catalogPath }
    archive := { s.archive with dir := (env "BLOCKSERVE_ARCHIVE_DIR").getD s.archive.dir }
    streaming := { s.streaming with
      bufferSize := ((env "BLOCKSERVE_BUFFER_SIZE").bind fun v => Decimal.parseWord? v.toList).getD s.streaming.bufferSize } }

/-- What the command line may override. -/
structure Overrides where
  listenAddress : Option String := none
  blocksDir : Option String := none
  memoryOnly : Bool := false
  jsonLogs : Bool := false
deriving DecidableEq, Repr

/-- Applies the command line.  A switch can only turn something on. -/
def withOverrides (o : Overrides) (s : Settings) : Settings :=
  { s with
    http := { s.http with listenAddress := o.listenAddress.getD s.http.listenAddress }
    storage := { s.storage with
      blocksDir := o.blocksDir.getD s.storage.blocksDir
      memoryOnly := o.memoryOnly || s.storage.memoryOnly }
    logging := { s.logging with json := o.jsonLogs || s.logging.json } }

end Settings

end StreamGate
