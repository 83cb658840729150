import StreamGate.Storage.FileSystem

/-!
# Archives under tokens

Finished archives wait in a directory under a progress token.  An archive is
either registered under its token or left in the directory as `<token>.zip`;
registration wins.  Discarding a token forgets its registration, or else takes
the archive left in the directory, and removes the archive's file.

A token is only looked for in the directory if it is a plain name, so it can
never lead out of it.
-/

namespace StreamGate

/-- What the delivery of archives needs: finding an archive by its token,
reading it, and discarding the token. -/
structure ArchiveDesk (World File : Type) where
  path? : (token : String) → World → Option String
  discard : (token : String) → World → World
  /-- Opens an archive; also tells its size. -/
  openFile : (path : String) → World → Except String (File × Nat)
  /-- Reads on. -/
  read : File → (want : Nat) → World →
    Except String { bytes : Bytes // bytes.length ≤ want } × File × World

/-- The same desk as a part of a larger world. -/
def ArchiveDesk.inside {World File Outer : Type} (desk : ArchiveDesk World File)
    (get : Outer → World) (put : World → Outer → Outer) : ArchiveDesk Outer File where
  path? token w := desk.path? token (get w)
  discard token w := put (desk.discard token (get w)) w
  openFile path w := desk.openFile path (get w)
  read file want w :=
    let (r, file, inner) := desk.read file want (get w)
    (r, file, put inner w)

/-- The same desk with sizes told in 64 bits. -/
def ArchiveDesk.in64Bits {World File : Type} (desk : ArchiveDesk World File) :
    ArchiveDesk World File :=
  { desk with
    openFile := fun path w =>
      (desk.openFile path w).map fun (file, size) => (file, size % UInt64.size) }

/-- The registered archives and the directory for the others. -/
structure ArchiveRegistry where
  directory : String
  registered : Table String String := {}

/-- A registry with the file system its archives are in. -/
structure ArchiveStore where
  registry : ArchiveRegistry
  files : FileSystem

namespace ArchiveRegistry

/-- A token that is a plain name: letters, digits, `-` and `_`, at least one. -/
def isPlain (token : String) : Bool :=
  !token.toList.isEmpty && token.toList.all fun c => c.isAlphanum || c = '-' || c = '_'

/-- Registers an archive.  A relative path is taken from the directory. -/
def register (r : ArchiveRegistry) (token path : String) : ArchiveRegistry :=
  { r with registered := r.registered.insert token (Path.join r.directory path) }

/-- The archive left in the directory for a token. -/
def dropped? (r : ArchiveRegistry) (fs : FileSystem) (token : String) : Option String :=
  if isPlain token then
    let path := Path.join r.directory (token ++ ".zip")
    if fs.isFile path then some path else none
  else none

/-- The archive of a token. -/
def path? (r : ArchiveRegistry) (fs : FileSystem) (token : String) : Option String :=
  match r.registered.get? token with
  | some path => some path
  | none => r.dropped? fs token

end ArchiveRegistry

namespace ArchiveStore

/-- Registers an archive. -/
def register (token path : String) (s : ArchiveStore) : ArchiveStore :=
  { s with registry := s.registry.register token path }

/-- The archive of a token. -/
def path? (token : String) (s : ArchiveStore) : Option String := s.registry.path? s.files token

/-- Forgets a token and removes its archive.  A file that cannot be removed
stays. -/
def discard (token : String) (s : ArchiveStore) : ArchiveStore :=
  match s.path? token with
  | none => s
  | some path =>
    { registry := { s.registry with registered := s.registry.registered.erase token }
      files := (s.files.removeFile path).toOption.getD s.files }

/-- The operations on archives in a directory. -/
def desk : ArchiveDesk ArchiveStore FileHandle where
  path? := path?
  discard := discard
  openFile path s :=
    match s.files.openFile path with
    | .ok h => .ok (h, s.files.nodeSize h.node)
    | .error e => .error e.message
  read h want s :=
    let (r, h) := s.files.read h want
    (r.mapError IoError.message, h, s)

end ArchiveStore

end StreamGate
