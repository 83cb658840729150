import StreamGate.Bytes
import StreamGate.Storage.Path
import StreamGate.Table

/-!
# File systems

A tree of directories and files.  Names lead to files and files hold their
content apart from their names, so a file that is open stays readable when its
name is removed or given to another file.

Paths are walked name by name, and every name but the last has to lead to a
directory that exists.
-/

namespace StreamGate

/-- Why an operation on files failed. -/
inductive IoError where
  | notFound
  | permissionDenied
  | alreadyExists
  | notDirectory
  | isDirectory
  | nameTooLong
  /-- The path holds a NUL byte. -/
  | nulInPath
  /-- A file read as text is not UTF-8. -/
  | invalidText
deriving DecidableEq, Repr

/-- The error in words. -/
def IoError.message : IoError → String
  | notFound => "No such file or directory (os error 2)"
  | permissionDenied => "Permission denied (os error 13)"
  | alreadyExists => "File exists (os error 17)"
  | notDirectory => "Not a directory (os error 20)"
  | isDirectory => "Is a directory (os error 21)"
  | nameTooLong => "File name too long (os error 36)"
  | nulInPath => "file name contained an unexpected NUL byte"
  | invalidText => "stream did not contain valid UTF-8"

/-- What a name leads to. -/
inductive Node where
  | directory
  /-- The file with this number. -/
  | file (number : Nat)
deriving DecidableEq, Repr

/-- A place in the tree: the names from the root. -/
abbrev Place := List String

/-- A tree of directories and files. -/
structure FileSystem where
  nodes : Table Place Node := {}
  /-- The content of every file, named or not. -/
  contents : Table Nat Bytes := {}
  /-- A number no file has. -/
  fresh : Nat := 0
  workingDirectory : Place := []

/-- An open file or directory and the position of the next read or write. -/
structure FileHandle where
  node : Node
  position : Nat := 0
deriving DecidableEq, Repr

namespace FileSystem

/-! ## Walking -/

def node? (fs : FileSystem) (place : Place) : Option Node :=
  if place.isEmpty then some .directory else fs.nodes.get? place

/-- The longest name in bytes. -/
def maxName : Nat := 255

/-- The longest path in bytes. -/
def maxPath : Nat := 4095

/-- Walks from a directory through names; the last name need not exist. -/
def walk (fs : FileSystem) : Place → List String → Except IoError Place
  | here, [] => .ok here
  | here, [name] =>
    if name = ".." then .ok here.dropLast
    else if maxName < name.utf8ByteSize then .error .nameTooLong
    else .ok (here ++ [name])
  | here, name :: rest =>
    if name = ".." then fs.walk here.dropLast rest
    else if maxName < name.utf8ByteSize then .error .nameTooLong
    else match fs.node? (here ++ [name]) with
      | none => .error .notFound
      | some (.file _) => .error .notDirectory
      | some .directory => fs.walk (here ++ [name]) rest

/-- The place a path leads to. -/
def locate (fs : FileSystem) (path : String) : Except IoError Place :=
  let p := Path.parse path
  if path.toList.contains '\x00' then .error .nulInPath
  else if path = "" then .error .notFound
  else if maxPath < path.utf8ByteSize then .error .nameTooLong
  else fs.walk (if p.absolute then [] else fs.workingDirectory) p.names

/-- What a path leads to. -/
def find (fs : FileSystem) (path : String) : Except IoError Node := do
  let place ← fs.locate path
  match fs.node? place with
  | none => .error .notFound
  | some .directory => .ok .directory
  | some (.file n) =>
    if (Path.parse path).endsInDirectory then .error .notDirectory else .ok (.file n)

def content (fs : FileSystem) (number : Nat) : Bytes := (fs.contents.get? number).getD []

/-! ## Looking -/

/-- The size that directories report. -/
def directorySize : Nat := 4096

def nodeSize (fs : FileSystem) : Node → Nat
  | .directory => directorySize
  | .file n => (fs.content n).length

/-- The size of what a path leads to. -/
def size (fs : FileSystem) (path : String) : Except IoError Nat := (fs.find path).map fs.nodeSize

def isFile (fs : FileSystem) (path : String) : Bool :=
  match fs.find path with
  | .ok (.file _) => true
  | _ => false

def isDirectory (fs : FileSystem) (path : String) : Bool :=
  match fs.find path with
  | .ok .directory => true
  | _ => false

/-- Opens for reading.  Directories can be opened but not read. -/
def openFile (fs : FileSystem) (path : String) : Except IoError FileHandle :=
  (fs.find path).map fun node => { node := node }

/-- Reads on, as far as the file reaches now. -/
def read (fs : FileSystem) (h : FileHandle) (want : Nat) :
    Except IoError { bytes : Bytes // bytes.length ≤ want } × FileHandle :=
  match h.node with
  | .directory => (.error .isDirectory, h)
  | .file n =>
    let bytes := ((fs.content n).drop h.position).take want
    (.ok ⟨bytes, List.length_take_le want _⟩, { h with position := h.position + bytes.length })

def readFile (fs : FileSystem) (path : String) : Except IoError Bytes := do
  match ← fs.find path with
  | .directory => .error .isDirectory
  | .file n => .ok (fs.content n)

/-- The names in a directory. -/
def list (fs : FileSystem) (path : String) : Except IoError (List String) := do
  match ← fs.find path with
  | .file _ => .error .notDirectory
  | .directory =>
    let place ← fs.locate path
    .ok <| fs.nodes.keys.filterMap fun p => if p.dropLast = place then p.getLast? else none

/-- The places of all files. -/
def files (fs : FileSystem) : List Place :=
  fs.nodes.entries.filterMap fun (place, node) =>
    match node with
    | .file _ => some place
    | .directory => none

/-- The paths of all files below a directory, from there and in order. -/
def filesBelow (fs : FileSystem) (dir : Place) : List String :=
  let inside := fs.files.filter dir.isPrefixOf
  (inside.map fun p => "/".intercalate (p.drop dir.length)).mergeSort fun a b => a ≤ b

/-! ## Changing -/

def setContent (fs : FileSystem) (number : Nat) (bytes : Bytes) : FileSystem :=
  { fs with contents := fs.contents.insert number bytes }

/-- Opens for writing, empty.  A file that is there keeps its number. -/
def create (fs : FileSystem) (path : String) : Except IoError (FileHandle × FileSystem) := do
  let place ← fs.locate path
  match fs.node? place with
  | some .directory => .error .isDirectory
  | some (.file n) =>
    if (Path.parse path).endsInDirectory then .error .notDirectory
    else .ok (⟨.file n, 0⟩, fs.setContent n [])
  | none =>
    if (Path.parse path).endsInDot then .error .notFound
    else if (Path.parse path).endsInDirectory then .error .isDirectory
    else
      let n := fs.fresh
      .ok (⟨.file n, 0⟩,
        { fs.setContent n [] with nodes := fs.nodes.insert place (.file n), fresh := n + 1 })

/-- `bytes` written into `content` at a position, with zeros in a gap. -/
def overwrite (content : Bytes) (position : Nat) (bytes : Bytes) : Bytes :=
  content.take position ++ List.replicate (position - content.length) 0 ++ bytes
    ++ content.drop (position + bytes.length)

/-- Writes on. -/
def write (fs : FileSystem) (h : FileHandle) (bytes : Bytes) : FileHandle × FileSystem :=
  match h.node with
  | .directory => (h, fs)
  | .file n =>
    ({ h with position := h.position + bytes.length },
      fs.setContent n (overwrite (fs.content n) h.position bytes))

/-- Replaces the content of a file. -/
def writeFile (fs : FileSystem) (path : String) (bytes : Bytes) : Except IoError FileSystem := do
  let (h, fs) ← fs.create path
  return (fs.write h bytes).2

/-- Cuts a file to a length, or fills it up with zeros. -/
def truncate (fs : FileSystem) (path : String) (length : Nat) : Except IoError FileSystem := do
  match ← fs.find path with
  | .directory => .error .isDirectory
  | .file n =>
    let content := fs.content n
    .ok (fs.setContent n (content.take length ++ List.replicate (length - content.length) 0))

/-- Makes a directory at the end of a walk. -/
def makeAt (fs : FileSystem) (start : Place) (names : List String) : Except IoError FileSystem := do
  let place ← fs.walk start names
  match fs.node? place with
  | some _ => .error .alreadyExists
  | none => .ok { fs with nodes := fs.nodes.insert place .directory }

/-- A walk ends at a directory. -/
def isDirectoryAt (fs : FileSystem) (start : Place) (names : List String) : Bool :=
  match fs.walk start names with
  | .ok place => fs.node? place = some .directory
  | .error _ => false

/-- Makes a directory and whatever is missing above it.  The names come last one
first.  What was made stays when a later step fails. -/
def makeAllAt (fs : FileSystem) (start : Place) : List String → Except IoError Unit × FileSystem
  | [] => (.ok (), fs)
  | name :: above =>
    let names := (name :: above).reverse
    match fs.makeAt start names with
    | .ok fs => (.ok (), fs)
    | .error .notFound =>
      match fs.makeAllAt start above with
      | (.error e, fs) => (.error e, fs)
      | (.ok (), fs) =>
        match fs.makeAt start names with
        | .ok fs => (.ok (), fs)
        | .error e => (if fs.isDirectoryAt start names then .ok () else .error e, fs)
    | .error e => (if fs.isDirectoryAt start names then .ok () else .error e, fs)

/-- Walks to a directory that is there. -/
def enter (fs : FileSystem) (start : Place) (names : List String) : Except IoError Unit := do
  let place ← fs.walk start names
  match fs.node? place with
  | some .directory => .ok ()
  | some (.file _) => .error .notDirectory
  | none => .error .notFound

/-- Like `makeAllAt` for a path that ends in a dot, its names in order.  The
directory itself cannot be made through the dot, only what is above it. -/
def makeAboveDot (fs : FileSystem) (start : Place) (names : List String) :
    Except IoError Unit × FileSystem :=
  match fs.enter start names with
  | .error .notFound =>
    match fs.makeAllAt start names.dropLast.reverse with
    | (.error e, fs) => (.error e, fs)
    | (.ok (), fs) => (fs.enter start names, fs)
  | r => (r, fs)

/-- Makes a directory and whatever is missing above it. -/
def makeDirectories (fs : FileSystem) (path : String) : Except IoError Unit × FileSystem :=
  let p := Path.parse path
  let start := if p.absolute then [] else fs.workingDirectory
  if path.toList.contains '\x00' then (.error .nulInPath, fs)
  else if maxPath < path.utf8ByteSize then (.error .nameTooLong, fs)
  else if p.endsInDot then fs.makeAboveDot start p.names
  else fs.makeAllAt start p.names.reverse

/-- Removes the name of a file. -/
def removeFile (fs : FileSystem) (path : String) : Except IoError FileSystem := do
  match ← fs.find path with
  | .directory => .error .isDirectory
  | .file _ => return { fs with nodes := fs.nodes.erase (← fs.locate path) }

/-- Gives a file a new name, in one step; a file of that name is no longer
reached by it. -/
def rename (fs : FileSystem) (source target : String) : Except IoError FileSystem := do
  let node ← fs.find source
  let here ← fs.locate source
  let there ← fs.locate target
  match node, fs.node? there with
  | .directory, _ => .error .isDirectory
  | .file _, some .directory => .error .isDirectory
  | .file n, _ => .ok { fs with nodes := (fs.nodes.erase here).insert there (.file n) }

end FileSystem

end StreamGate
