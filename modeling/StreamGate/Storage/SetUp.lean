import StreamGate.Catalog.OnDisk
import StreamGate.Config.Settings
import StreamGate.Storage.Directory

/-!
# Setting the storage up

Storage on disk consists of a directory for blocks and a catalog.
-/

namespace StreamGate

/-- Sets the storage up: first the directory for blocks, then the catalog. -/
def StorageSettings.setUp {m : Type → Type} [Monad m] (disk : Disk m) (s : StorageSettings) :
    ExceptT Failure m (Directory × TreeCatalog) := do
  let blocks ← Directory.setUp disk s.blocksDir
  let catalog ← TreeCatalog.setUp disk s.catalogPath
  return (blocks, catalog)

end StreamGate
