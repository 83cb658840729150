import StreamGate.Catalog.Tree
import StreamGate.Storage.Disk

/-!
# The catalog on disk

A catalog takes up one directory: a data file with all records, a file with its
parameters, and a place for large records.  What is missing is made when the
catalog is opened.

A data file that is not whole counts as empty.  Parameters too short to be any
are replaced; others have to be the ones in use.
-/

namespace StreamGate

namespace TreeCatalog

/-! ## The data file -/

/-- The tree with the given number. -/
def treeOfIndex (n : Nat) : Except Wire.Fault TreeName :=
  match TreeName.all[n]? with
  | some tree => .ok tree
  | none => .error (.badVariant n TreeName.all.length)

/-- A tree as a number of four bytes. -/
def treeFormat : Wire.Format TreeName := (Wire.Format.nat 4).refine treeOfIndex TreeName.all.idxOf

/-- All records, each with its tree and its key. -/
def imageFormat : Wire.Format (List ((TreeName × String) × Bytes)) :=
  ((treeFormat.pair Wire.Format.text).pair Wire.Format.bytes).list

/-- The content of the data file. -/
def image (c : TreeCatalog) : Bytes := imageFormat.write c.records.entries

/-- The catalog of a data file. -/
def ofImage (bytes : Bytes) : TreeCatalog :=
  match imageFormat.read bytes with
  | .ok (records, _) => records.foldl (fun c ((tree, key), value) => c.putBytes tree key value) {}
  | .error _ => {}

/-! ## Why a catalog cannot be opened -/

/-- Why a catalog on disk cannot be opened. -/
inductive SetUpFault where
  | io (e : IoError)
  /-- The parameters or a snapshot cannot be read. -/
  | corrupted
  /-- The parameters are no text, as in catalogs of long ago. -/
  | outdated
  /-- It was made with this setting of compression, which is not the one in use. -/
  | compression (used : Bool)
  /-- It was made with segments of this size. -/
  | segmentSize (size : Nat)
  /-- It was made by this version. -/
  | version (major minor : Nat)
deriving DecidableEq, Repr

/-! ## The parameters -/

/-- What a catalog is made with. -/
structure Parameters where
  segmentSize : Nat := 524288
  compressed : Bool := false
  version : Nat × Nat := (0, 34)
deriving DecidableEq, Repr

namespace Parameters

/-- The parameters as they are written. -/
def render (p : Parameters) : String :=
  let (major, minor) := p.version
  s!"segment_size: {p.segmentSize}\nuse_compression: {p.compressed}\nversion: {major}.{minor}\n"

/-- Cuts at the first colon with a blank behind it. -/
def cutAtColon? : List Char → Option (List Char × List Char)
  | ':' :: ' ' :: rest => some ([], rest)
  | c :: rest => (cutAtColon? rest).map fun (before, after) => (c :: before, after)
  | [] => none

/-- The name and the value on a line; what stands behind a further colon is left
out. -/
def entry? (line : List Char) : Option (String × List Char) := do
  let (name, rest) ← cutAtColon? line
  return (String.ofList name, ((cutAtColon? rest).map (·.1)).getD rest)

/-- A line without the carriage return at its end. -/
def withoutReturn (line : Bytes) : Bytes :=
  if line.getLast? = some 13 then line.dropLast else line

/-- The lines of a file.  A carriage return belongs to the line break behind it. -/
def lines (bytes : Bytes) : List Bytes :=
  let pieces := Text.splitOn 10 bytes
  pieces.dropLast.map withoutReturn ++ (pieces.getLast?.filter (!·.isEmpty)).toList

/-- The entry on a line. -/
def entryOf (line : Bytes) : Except SetUpFault (String × List Char) :=
  match Bytes.toText? line with
  | none => .error .outdated
  | some text =>
    match entry? text.toList with
    | none => .error .corrupted
    | some entry => .ok entry

/-- The version that a text gives; numbers behind the second do not count. -/
def version? (text : List Char) : Option (Nat × Nat) :=
  match Text.splitOn '.' text with
  | major :: minor :: _ => return (← Decimal.parseWord? major, ← Decimal.parseWord? minor)
  | _ => none

/-- A truth value. -/
def truth? (text : List Char) : Option Bool :=
  if text = "true".toList then some true
  else if text = "false".toList then some false
  else none

/-- The parameters that entries give; the last entry of a name counts. -/
def ofEntries? (entries : List (String × List Char)) : Option Parameters := do
  let value? (name : String) := entries.reverse.lookup name
  let segmentSize ← Decimal.parseWord? (← value? "segment_size")
  let compressed ← truth? (← value? "use_compression")
  let version ← version? (← value? "version")
  return { segmentSize, compressed, version }

/-- Reads parameters.  The first line that cannot be read decides. -/
def read (bytes : Bytes) : Except SetUpFault Parameters := do
  match ofEntries? (← (lines bytes).mapM entryOf) with
  | some p => return p
  | none => throw .corrupted

/-- A catalog can be used if it was made with the parameters in use. -/
def check (p : Parameters) : Except SetUpFault Unit := do
  let inUse : Parameters := {}
  if p.compressed ≠ inUse.compressed then throw (.compression p.compressed)
  if p.segmentSize ≠ inUse.segmentSize then throw (.segmentSize p.segmentSize)
  if p.version ≠ inUse.version then throw (.version p.version.1 p.version.2)

/-- The parameters are followed by a seal of four bytes, which is not looked at. -/
def sealLength : Nat := 4

end Parameters

/-! ## Opening -/

/-- Why a catalog cannot be opened, in words. -/
def SetUpFault.message : SetUpFault → String
  | io e => s!"IO error: {e.message}"
  | corrupted => "Read corrupted data at file offset None backtrace ()"
  | outdated =>
    "Unsupported: failed to open database that may have been created using a sled version earlier than 0.29"
  | compression used =>
    let inUse := ({} : Parameters).compressed
    s!"Unsupported: cannot change compression values across restarts. old value of use_compression loaded from disk: {used}, currently set value: {inUse}."
  | segmentSize size =>
    s!"Unsupported: cannot change the io buffer size across restarts. please change it back to {size}"
  | version major minor =>
    let (ourMajor, ourMinor) := ({} : Parameters).version
    s!"Unsupported: This database was created using pagecache version {major}.{minor}, but our pagecache version is {ourMajor}.{ourMinor}. Please perform an upgrade using the sled::Db::export and sled::Db::import methods."

def SetUpFault.failure (fault : SetUpFault) : Failure :=
  .storage ("Failed to open Sled: " ++ fault.message)

/-- The directory for large records. -/
def largePath (path : String) : String := Path.join path "blobs"

def parametersPath (path : String) : String := Path.join path "conf"

def dataPath (path : String) : String := Path.join path "db"

variable {m : Type → Type} [Monad m]

/-- Takes the outcome of an operation on files into a set-up. -/
def onFiles {α : Type} (act : m (Except IoError α)) : ExceptT SetUpFault m α :=
  ExceptT.mk do return (← act).mapError .io

/-- Writes the parameters in use. -/
def writeParameters (disk : Disk m) (path : String) : ExceptT SetUpFault m Unit :=
  onFiles <| disk.writeFile (parametersPath path)
    (Bytes.ofText ({} : Parameters).render ++ List.replicate Parameters.sealLength 0)

/-- Looks at the parameters, which are made if they are missing or too short. -/
def checkParameters (disk : Disk m) (path : String) : ExceptT SetUpFault m Unit := do
  match ← disk.readFile (parametersPath path) with
  | .error .notFound => writeParameters disk path
  | .error e => throw (.io e)
  | .ok bytes =>
    if bytes.length ≤ 2 * Parameters.sealLength then writeParameters disk path
    else MonadExcept.ofExcept do
      (← Parameters.read (bytes.take (bytes.length - Parameters.sealLength))).check

/-- A file of this name is taken for a snapshot.  Those still being written do not
count. -/
def isSnapshot (name : String) : Bool :=
  "snap.".toList.isPrefixOf name.toList && !".in___motion".toList.isSuffixOf name.toList

/-- Looks at the latest snapshot.  Catalogs are kept without snapshots, so one that
is there is none of theirs.  A path that ends in a second slash or in a dot hides
the snapshots. -/
def checkSnapshots (disk : Disk m) (path : String) : ExceptT SetUpFault m Unit := do
  let names ← onFiles (disk.list (if path = "" then "." else path))
  match ((names.filter isSnapshot).mergeSort (· ≤ ·)).getLast? with
  | some name =>
    if Path.endsInName path then
      let _ ← onFiles (disk.readFile (Path.join path name))
      throw .corrupted
  | none => return ()

/-- Reads the data file, which is made if it is missing. -/
def readImage (disk : Disk m) (path : String) : ExceptT SetUpFault m TreeCatalog := do
  match ← disk.readFile (dataPath path) with
  | .error .notFound =>
    onFiles (disk.writeFile (dataPath path) [])
    return {}
  | .error e => throw (.io e)
  | .ok bytes => return ofImage bytes

/-- Opens the catalog in a directory. -/
def setUp (disk : Disk m) (path : String) : ExceptT Failure m TreeCatalog :=
  ExceptT.adapt SetUpFault.failure do
    if !(← disk.isThere (largePath path)) then onFiles (disk.makeDirectories (largePath path))
    checkParameters disk path
    let c ← readImage disk path
    checkSnapshots disk path
    return c

/-- Closes a catalog: all its records go into the data file, if that still has its
name. -/
def save (disk : Disk m) (path : String) (c : TreeCatalog) : m (Except IoError Unit) := do
  if !(← disk.isThere (dataPath path)) then return .ok ()
  disk.writeFile (dataPath path) c.image

end TreeCatalog

end StreamGate
