import StreamGate.Catalog.Memory
import StreamGate.Catalog.Vanishing
import StreamGate.Gateway.Serve
import StreamGate.Storage.FaultPlan
import StreamGate.Storage.Memory
import StreamGate.Storage.Metered
import StreamGate.Storage.SetUp

/-!
# Deployments

The two worlds a gateway runs on.  In the one, blocks and catalog are tables in
memory; in the other, blocks are files below a directory and the catalog is
persistent.  Archives are files in both.

The world in memory is also the one for rehearsals: its store counts what is
done to it and fails where a plan says so, and its objects vanish where another
plan says so.  With both plans empty it is an ordinary store with an ordinary
catalog.
-/

namespace StreamGate

/-- What settings say about headers. -/
def Settings.delivery (s : Settings) : Delivery :=
  ⟨s.streaming.contentSecurityPolicy, s.streaming.cacheMaxAge⟩

/-- Blocks and catalog in memory. -/
structure MemoryWorld where
  blocks : Metered (Faulted MemoryBlocks)
  catalog : Vanishing MemoryCatalog
  archives : ArchiveStore

namespace MemoryWorld

/-- A world without blocks, records and archives. -/
def empty (s : Settings) (files : FileSystem) : MemoryWorld where
  blocks := { inner := { inner := {} } }
  catalog := { inner := {} }
  archives := ⟨{ directory := s.archive.dir }, files⟩

def store : BlockStore MemoryWorld (FaultedHandle MemoryHandle) :=
  MemoryBlocks.store.faulted.metered.inside blocks fun blocks w => { w with blocks }

def lookUps : Catalog MemoryWorld :=
  MemoryCatalog.catalog.vanishing.inside catalog fun catalog w => { w with catalog }

def desk : ArchiveDesk MemoryWorld FileHandle :=
  ArchiveStore.desk.inside archives fun archives w => { w with archives }

/-- The services of a gateway in memory. -/
def services (s : Settings) (countsUsage : Bool) (now : Instant) :
    Services MemoryWorld (FaultedHandle MemoryHandle) FileHandle where
  store := store
  catalog := lookUps
  archives := desk
  delivery := s.delivery
  buffer := s.streaming.bufferSize
  countsUsage := countsUsage
  now := now

end MemoryWorld

/-- Blocks and archives on disk, with a persistent catalog. -/
structure DiskWorld where
  catalog : TreeCatalog
  archives : ArchiveStore

namespace DiskWorld

/-- Sets the storage up in files. -/
def setUp (s : Settings) (files : FileSystem) : Except Failure (Directory × DiskWorld) :=
  match (s.storage.setUp FileSystem.disk).run files with
  | (.error e, _) => .error e
  | (.ok (d, catalog), files) => .ok (d, ⟨catalog, ⟨{ directory := s.archive.dir }, files⟩⟩)

/-- Closes the catalog; what remains are the files. -/
def close (s : Settings) (w : DiskWorld) : FileSystem :=
  (w.catalog.save FileSystem.disk s.storage.catalogPath w.archives.files).2

/-- Changes the files only. -/
def withFiles (files : FileSystem) (w : DiskWorld) : DiskWorld :=
  { w with archives := { w.archives with files } }

def store (d : Directory) : BlockStore DiskWorld DirectoryHandle :=
  d.store.inside (fun w => w.archives.files) withFiles

def lookUps : Catalog DiskWorld :=
  TreeCatalog.catalog.inside catalog fun catalog w => { w with catalog }

def desk : ArchiveDesk DiskWorld FileHandle :=
  ArchiveStore.desk.inside archives fun archives w => { w with archives }

/-- The services of a gateway on disk. -/
def services (s : Settings) (d : Directory) (now : Instant) :
    Services DiskWorld DirectoryHandle FileHandle where
  store := store d
  catalog := lookUps
  archives := desk
  delivery := s.delivery
  buffer := s.streaming.bufferSize
  countsUsage := true
  now := now

end DiskWorld

end StreamGate
