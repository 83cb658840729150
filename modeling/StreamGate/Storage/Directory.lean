import StreamGate.Storage.BlockStore
import StreamGate.Storage.Disk

/-!
# Blocks on disk

A store that keeps one file per block, at
`<root>/<store id>/<first two digits>/<other digits>`.

A block is written under a temporary name and then renamed, so that its path
never names a file that is only partly written by this put.  `BlockWrite.Step`
holds the single steps of a put, and `Directory.put` runs them in order.
-/

namespace StreamGate

/-- A put part of the way through. -/
structure BlockWrite where
  /-- The directory that will hold the block. -/
  group : String
  temporary : String
  target : String
  /-- The open temporary file. -/
  file : Option FileHandle := none

namespace BlockWrite

/-- A step of a put. -/
inductive Step where
  /-- Makes the directory for the block. -/
  | makeGroup
  /-- Opens the temporary file, empty. -/
  | createTemporary
  /-- Writes some of the data. -/
  | append (bytes : Bytes)
  /-- Waits until the disk has all of it, which nobody else can see. -/
  | sync
  /-- Gives the temporary file the block's name. -/
  | publish

/-- Takes one step. -/
def step (p : BlockWrite) (fs : FileSystem) : Step → Except IoError Unit × BlockWrite × FileSystem
  | .makeGroup =>
    let (r, fs) := fs.makeDirectories p.group
    (r, p, fs)
  | .createTemporary =>
    match fs.create p.temporary with
    | .ok (h, fs) => (.ok (), { p with file := some h }, fs)
    | .error e => (.error e, p, fs)
  | .append bytes =>
    match p.file with
    | none => (.ok (), p, fs)
    | some h =>
      let (h, fs) := fs.write h bytes
      (.ok (), { p with file := some h }, fs)
  | .sync => (.ok (), p, fs)
  | .publish =>
    match fs.rename p.temporary p.target with
    | .ok fs => (.ok (), p, fs)
    | .error e => (.error e, p, fs)

/-- Takes steps until one fails. -/
def run (p : BlockWrite) (fs : FileSystem) : List Step → Except IoError Unit × FileSystem
  | [] => (.ok (), fs)
  | s :: rest =>
    match p.step fs s with
    | (.error e, _, fs) => (.error e, fs)
    | (.ok (), p, fs) => p.run fs rest

/-- The steps of a put whose data is written in pieces. -/
def steps (pieces : List Bytes) : List Step :=
  .makeGroup :: .createTemporary :: (pieces.map .append ++ [.sync, .publish])

end BlockWrite

/-- A block that was opened on disk, with the size it had then. -/
structure DirectoryHandle where
  file : FileHandle
  id : BlockId
  size : Nat

/-- A store in a directory. -/
structure Directory where
  root : String
deriving DecidableEq, Repr

namespace Directory

/-- The failure to make a store's directory. -/
def setUpFailure (root : String) (e : IoError) : Failure :=
  .storage s!"Failed to create {root}: {e.message}"

/-- Sets a store up; its directory is made if it is missing. -/
def setUp {m : Type → Type} [Monad m] (disk : Disk m) (root : String) :
    ExceptT Failure m Directory := do
  match ← disk.makeDirectories root with
  | .ok () => return ⟨root⟩
  | .error e => throw (setUpFailure root e)

/-- The directory of a block's group. -/
def groupPath (d : Directory) (ref : StoreRef) (id : BlockId) : String :=
  Path.join (Path.join d.root ref.storeId) id.group

/-- The path of a block. -/
def blockPath (d : Directory) (ref : StoreRef) (id : BlockId) : String :=
  Path.join (d.groupPath ref id) id.member

/-- The path a block is written to before it gets its own. -/
def temporaryPath (d : Directory) (ref : StoreRef) (id : BlockId) : String :=
  Path.join (d.groupPath ref id) (id.member ++ ".tmp")

/-- A put of a block that has not begun. -/
def beginWrite (d : Directory) (ref : StoreRef) (id : BlockId) : BlockWrite where
  group := d.groupPath ref id
  temporary := d.temporaryPath ref id
  target := d.blockPath ref id

/-- Writes a block. -/
def put (d : Directory) (ref : StoreRef) (id : BlockId) (data : Bytes) (fs : FileSystem) :
    Except Failure Unit × FileSystem :=
  let (r, fs) := (d.beginWrite ref id).run fs (BlockWrite.steps [data])
  (r.mapError fun e => .io e.message, fs)

/-- Writes blocks one after another, up to the first that fails. -/
def putAll (d : Directory) (ref : StoreRef) :
    List Block → FileSystem → Except Failure Unit × FileSystem
  | [], fs => (.ok (), fs)
  | b :: rest, fs =>
    match d.put ref b.id b.data fs with
    | (.ok (), fs) => d.putAll ref rest fs
    | (.error e, fs) => (.error e, fs)

/-- The failure that an error on a block's file means. -/
def failure (ref : StoreRef) (id : BlockId) : IoError → Failure
  | .notFound => .blockNotFound ref.storeId id.text
  | e => .blockRead id.text e.message

/-- The operations on blocks on disk. -/
def store (d : Directory) : BlockStore FileSystem DirectoryHandle where
  stat ref id fs := ((fs.size (d.blockPath ref id)).mapError (failure ref id), fs)
  openBlock ref id fs :=
    (((fs.openFile (d.blockPath ref id)).map fun h => ⟨h, id, fs.nodeSize h.node⟩).mapError
      (failure ref id), fs)
  size h := h.size
  read h want fs :=
    let (r, file) := fs.read h.file want
    (r.mapError fun e => .blockRead h.id.text e.message, { h with file }, fs)
  close _ fs := fs

end Directory

end StreamGate
