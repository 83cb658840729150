import StreamGate.Clock
import StreamGate.Json.Value

/-!
# What an archive holds

The object id of an archive grant is a JSON record that names one directory or
lists files.  It decides the name under which the archive is saved.
-/

namespace StreamGate

/-- What an archive holds. -/
inductive ArchiveTarget where
  /-- One directory, by its name. -/
  | directory (name : String)
  /-- A selection of files. -/
  | fileList
deriving DecidableEq, Repr

namespace ArchiveTarget

/-- Why an object id describes no archive. -/
inductive Fault where
  /-- It is not a record of the right shape. -/
  | malformed
  /-- It names neither a directory nor files. -/
  | undescribed
deriving DecidableEq, Repr

def Fault.message : Fault → String
  | malformed => "malformed archive description"
  | undescribed => "neither dir_name nor file_list present"

/-- A part that may be missing or null. -/
def present : Option Json → Option Json
  | some .null => none
  | part => part

/-- The directory name of a record: absent, or a text. -/
def directory? (part : Option Json) : Except Fault (Option String) :=
  match present part with
  | none => .ok none
  | some tree =>
    match tree.text? with
    | some name => .ok (some name)
    | none => .error .malformed

/-- The file list of a record of `size` characters: absent, or any value within
the nesting limit. -/
def hasList (size : Nat) (part : Option Json) : Except Fault Bool :=
  match present part with
  | none => .ok false
  | some tree => if tree.hasValue size (Json.depthLimit - 1) then .ok true else .error .malformed

/-- What an object id describes.  A directory name wins over a file list. -/
def parse (objectId : String) : Except Fault ArchiveTarget :=
  match (Json.parse? objectId).bind (Json.fields? ["dir_name", "file_list"]) with
  | some [namePart, listPart] => do
    let name ← directory? namePart
    let listed ← hasList objectId.length listPart
    match name with
    | some name => return .directory name
    | none => if listed then return .fileList else throw .undescribed
  | _ => .error .malformed

/-- The name of the archive, without its ending. -/
def name (today : Date) : ArchiveTarget → String
  | directory name => name
  | fileList => "documents-export-" ++ today.iso

end ArchiveTarget

end StreamGate
