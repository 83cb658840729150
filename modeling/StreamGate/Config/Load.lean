import StreamGate.Config.Settings
import StreamGate.Config.TomlReader
import StreamGate.Storage.FileSystem

/-!
# Loading settings

Settings as a TOML document.  Every section and every field may be missing, and
what is not known is ignored.  A section may also be written as an array of its
fields in order.
-/

namespace StreamGate

/-- Why settings could not be loaded. -/
inductive ConfigError where
  | unreadable (error : IoError)
  | malformed
  | invalid (reason : InvalidSettings)
deriving DecidableEq, Repr

/-- The error in words. -/
def ConfigError.message : ConfigError → String
  | unreadable error => s!"Failed to read config file: {error.message}"
  | malformed => "Failed to parse config file"
  | invalid reason => reason.message

namespace Settings

/-- The fields of a section, one entry per name. -/
def fields? (names : List String) : Option Toml → Option (List (Option Toml))
  | none => some (names.map fun _ => none)
  | some (.table _ entries) => some (names.map fun n => Toml.find? n entries)
  | some (.array items) => some ((List.range names.length).map fun i => items[i]?)
  | some (.tables items) =>
    some ((List.range names.length).map fun i => items[i]?.map (Toml.table .header))
  | some .datetime => some (names.map fun _ => none)
  | some _ => none

/-- A text, or its default. -/
def text? (default : String) : Option Toml → Option String
  | none => some default
  | some (.text s) => some s
  | _ => none

/-- A switch, or its default. -/
def flag? (default : Bool) : Option Toml → Option Bool
  | none => some default
  | some (.boolean b) => some b
  | _ => none

/-- A natural number, or its default. -/
def nat? (default : Nat) : Option Toml → Option Nat
  | none => some default
  | some (.integer n) => if 0 ≤ n then some n.toNat else none
  | _ => none

def http? (part : Option Toml) : Option HttpSettings :=
  match fields? ["listen_addr"] part with
  | some [address] => do return ⟨← text? ({} : HttpSettings).listenAddress address⟩
  | _ => none

def storage? (part : Option Toml) : Option StorageSettings :=
  match fields? ["blocks_dir", "catalog_path", "memory_only"] part with
  | some [blocks, catalog, memory] => do
    let default : StorageSettings := {}
    return ⟨← text? default.blocksDir blocks, ← text? default.catalogPath catalog,
      ← flag? default.memoryOnly memory⟩
  | _ => none

def streaming? (part : Option Toml) : Option StreamingSettings :=
  match fields? ["buffer_size", "cache_max_age_secs", "content_security_policy"] part with
  | some [buffer, age, policy] => do
    let default : StreamingSettings := {}
    return ⟨← nat? default.bufferSize buffer, ← nat? default.cacheMaxAge age,
      ← text? default.contentSecurityPolicy policy⟩
  | _ => none

def archive? (part : Option Toml) : Option ArchiveSettings :=
  match fields? ["dir"] part with
  | some [dir] => do return ⟨← text? ({} : ArchiveSettings).dir dir⟩
  | _ => none

def logging? (part : Option Toml) : Option LoggingSettings :=
  match fields? ["level", "json"] part with
  | some [level, json] => do
    let default : LoggingSettings := {}
    return ⟨← text? default.level level, ← flag? default.json json⟩
  | _ => none

/-- The settings that a document holds. -/
def ofEntries? (es : Toml.Entries) : Option Settings := do
  return {
    http := ← http? (Toml.find? "http" es)
    storage := ← storage? (Toml.find? "storage" es)
    streaming := ← streaming? (Toml.find? "streaming" es)
    archive := ← archive? (Toml.find? "archive" es)
    logging := ← logging? (Toml.find? "logging" es) }

/-- Reads and checks the settings in a text. -/
def ofText (text : String) : Except ConfigError Settings :=
  match (Toml.parse? text).bind ofEntries? with
  | none => .error .malformed
  | some s =>
    match s.validate with
    | .ok () => .ok s
    | .error reason => .error (.invalid reason)

/-- Reads and checks the settings in a file that was read. -/
def ofFile : Except IoError String → Except ConfigError Settings
  | .ok text => ofText text
  | .error e => .error (.unreadable e)

end Settings

end StreamGate
