import StreamGate.CommandLine

/-!
# The program

Runs the command line against the real environment and file system.  Nothing
listens for requests here: the address cannot be bound.
-/

open StreamGate

/-- The error that an operation on real files ended with. -/
def ioErrorOf (e : IO.Error) : IoError :=
  match e with
  | .noFileOrDirectory .. => .notFound
  | .alreadyExists .. => .alreadyExists
  | .permissionDenied .. => .permissionDenied
  | .inappropriateType _ code _ => if code = 21 then .isDirectory else .notDirectory
  | _ => .invalidText

/-- Runs an operation on real files. -/
def attempt {α : Type} (act : IO α) : IO (Except IoError α) := do
  try return .ok (← act)
  catch e => return .error (ioErrorOf e)

/-- The variables the program looks at. -/
def variableNames : List String :=
  ["BLOCKSERVE_CONFIG", "BLOCKSERVE_LISTEN_ADDR", "BLOCKSERVE_BLOCKS_DIR",
    "BLOCKSERVE_CATALOG_PATH", "BLOCKSERVE_ARCHIVE_DIR", "BLOCKSERVE_BUFFER_SIZE", "RUST_LOG"]

/-- The real disk. -/
def realDisk : Disk IO where
  isThere path := return (← attempt (IO.FS.realPath path)).toBool
  makeDirectories path := attempt (IO.FS.createDirAll path)
  readFile path := attempt do return (← IO.FS.readBinFile path).toList
  writeFile path bytes := attempt (IO.FS.writeBinFile path ⟨bytes.toArray⟩)
  list path := attempt do return (← (← IO.FS.realPath path).readDir).toList.map (·.fileName)

def main (args : List String) : IO UInt32 := do
  let vars ← variableNames.mapM fun name => do return (name, ← IO.getEnv name)
  let host : CommandLine.Host IO :=
    { env := fun name => (vars.lookup name).join
      disk := realDisk
      bind := fun _ => return .error .permissionDenied }
  let outcome ← CommandLine.run host args
  IO.eprint outcome.stderr
  return outcome.code
