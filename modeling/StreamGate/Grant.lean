import StreamGate.Cipher.Key
import StreamGate.Block.Manifest

/-!
# Grants and repositories

An access token stands for a grant: what may be done with which object of which
repository, and by whom.  A repository says where its blocks are and whether
they are encrypted.
-/

namespace StreamGate

/-- What a grant allows. -/
inductive Operation where
  | view
  | download
  | downloadLink
  | downloadBlocks
  | downloadDirLink
  | downloadMultiLink
deriving DecidableEq, Repr

namespace Operation

/-- All operations, in the order of their numbers. -/
def all : List Operation :=
  [view, download, downloadLink, downloadBlocks, downloadDirLink, downloadMultiLink]

/-- The name a grant is written with. -/
def name : Operation → String
  | view => "view"
  | download => "download"
  | downloadLink => "download-link"
  | downloadBlocks => "downloadblks"
  | downloadDirLink => "download-dir-link"
  | downloadMultiLink => "download-multi-link"

/-- The name of the alternative itself, for logs. -/
def label : Operation → String
  | view => "View"
  | download => "Download"
  | downloadLink => "DownloadLink"
  | downloadBlocks => "DownloadBlocks"
  | downloadDirLink => "DownloadDirLink"
  | downloadMultiLink => "DownloadMultiLink"

def ofName? (text : String) : Option Operation := all.find? (·.name == text)

/-- The operation's number in a stored record. -/
def index : Operation → Nat
  | view => 0
  | download => 1
  | downloadLink => 2
  | downloadBlocks => 3
  | downloadDirLink => 4
  | downloadMultiLink => 5

def ofIndex? (n : Nat) : Option Operation := all[n]?

@[simp] theorem ofIndex?_index (op : Operation) : ofIndex? op.index = some op := by
  cases op <;> rfl

/-- The grant is for one file, whole or in ranges. -/
def isFileAccess : Operation → Bool
  | view | download | downloadLink => true
  | _ => false

/-- The grant came from a shared link rather than from a signed-in user. -/
def isLink : Operation → Bool
  | downloadLink | downloadDirLink | downloadMultiLink => true
  | _ => false

end Operation

/-- What an access token stands for. -/
structure Grant where
  repoId : String
  objectId : String
  operation : Operation
  username : String
deriving DecidableEq, Repr

/-- Where a repository keeps its blocks, and how. -/
structure Repo where
  repoId : String
  storeId : String
  version : UInt32
  encrypted : Bool
  encVersion : UInt32
deriving DecidableEq, Repr

/-- The store a repository refers to. -/
def Repo.storeRef (repo : Repo) : StoreRef := ⟨repo.storeId, repo.version⟩

/-- A user's key to an encrypted repository, in hexadecimal. -/
structure KeyMaterial where
  keyHex : String
  ivHex : String
deriving DecidableEq

namespace KeyMaterial

/-- The cipher key for a repository of the given encryption version. -/
def cipherKey (material : KeyMaterial) (version : UInt32) : Except Failure CipherKey :=
  CipherKey.ofHex version material.keyHex material.ivHex

/-- How key material shows itself. -/
def redacted : String := "KeyMaterial([REDACTED])"

end KeyMaterial

end StreamGate
