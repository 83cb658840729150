import StreamGate.Storage.FileSystem

/-!
# Disks

What setting the storage up needs of a disk, as a record of operations in some
monad.  `FileSystem.disk` is the disk whose whole state is a `FileSystem`.
-/

namespace StreamGate

/-- The operations on a disk. -/
structure Disk (m : Type → Type) where
  /-- A path leads to something, of whatever kind. -/
  isThere : String → m Bool
  /-- Makes a directory and whatever is missing above it. -/
  makeDirectories : String → m (Except IoError Unit)
  readFile : String → m (Except IoError Bytes)
  /-- Replaces the content of a file, which is made if it is missing. -/
  writeFile : String → Bytes → m (Except IoError Unit)
  /-- The names in a directory, in any order. -/
  list : String → m (Except IoError (List String))

namespace Disk

/-- The whole of a file as text. -/
def readText {m : Type → Type} [Monad m] (disk : Disk m) (path : String) :
    m (Except IoError String) := do
  match ← disk.readFile path with
  | .error e => return .error e
  | .ok bytes =>
    match Bytes.toText? bytes with
    | some text => return .ok text
    | none => return .error .invalidText

end Disk

namespace FileSystem

/-- Makes a change, unless it fails. -/
def attempt (change : FileSystem → Except IoError FileSystem) :
    StateM FileSystem (Except IoError Unit) := fun fs =>
  match change fs with
  | .ok fs => (.ok (), fs)
  | .error e => (.error e, fs)

/-- A file system as a disk. -/
def disk : Disk (StateM FileSystem) where
  isThere path fs := ((fs.find path).toBool, fs)
  makeDirectories path fs := fs.makeDirectories path
  readFile path fs := (fs.readFile path, fs)
  writeFile path bytes := attempt fun fs => fs.writeFile path bytes
  list path fs := (fs.list path, fs)

end FileSystem

end StreamGate
