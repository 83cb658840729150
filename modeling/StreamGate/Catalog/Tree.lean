import StreamGate.Catalog.Lookup
import StreamGate.Record.Codec
import StreamGate.Table

/-!
# The persistent catalog

Records are stored in four trees, maps from texts to bytes, in their binary
form.  A key that has several parts is written as one text with slashes between
the parts.
-/

namespace StreamGate

/-- The trees of a catalog. -/
inductive TreeName where
  | grants
  | repos
  | manifests
  | keys
deriving DecidableEq, Repr

namespace TreeName

def name : TreeName → String
  | grants => "grants"
  | repos => "repos"
  | manifests => "manifests"
  | keys => "decrypt_keys"

/-- All trees, in the order of their numbers. -/
def all : List TreeName := [grants, repos, manifests, keys]

def ofName? (text : String) : Option TreeName := all.find? (·.name == text)

end TreeName

/-- Stored records, under tree and key. -/
structure TreeCatalog where
  records : Table (TreeName × String) Bytes := {}

namespace TreeCatalog

def manifestKey (ref : StoreRef) (objectId : String) : String :=
  s!"{ref.storeId}/{ref.version}/{objectId}"

def materialKey (repoId username : String) : String := s!"{repoId}/{username}"

/-- The bytes stored under a key. -/
def get? (c : TreeCatalog) (tree : TreeName) (key : String) : Option Bytes :=
  c.records.get? (tree, key)

/-- Stores bytes under a key. -/
def putBytes (c : TreeCatalog) (tree : TreeName) (key : String) (bytes : Bytes) : TreeCatalog :=
  ⟨c.records.insert (tree, key) bytes⟩

/-- Where and as what a record is stored. -/
def stored : CatalogEntry → TreeName × String × Bytes
  | .grant token grant => (.grants, token, Codec.grant.wire.write grant)
  | .repo repo => (.repos, repo.repoId, Codec.repo.wire.write repo)
  | .manifest store objectId manifest =>
    (.manifests, manifestKey store objectId, Codec.manifest.wire.write manifest)
  | .key repoId username material =>
    (.keys, materialKey repoId username, Codec.keyMaterial.wire.write material)

/-- Puts a record in; an earlier one under the same key is replaced. -/
def put (c : TreeCatalog) (entry : CatalogEntry) : TreeCatalog :=
  let (tree, key, bytes) := stored entry
  c.putBytes tree key bytes

/-- Forgets a token; says whether it was known. -/
def revoke (c : TreeCatalog) (token : String) : Bool × TreeCatalog :=
  ((c.get? .grants token).isSome, ⟨c.records.erase (.grants, token)⟩)

/-- Reads a record back. -/
def load {α : Type} (c : TreeCatalog) (tree : TreeName) (key : String) (format : Wire.Format α) :
    Except Failure (Option α) :=
  match c.get? tree key with
  | none => .ok none
  | some bytes => (Wire.decode format bytes).map some

/-- The look-ups, which fail on bytes that are no record. -/
def catalog : Catalog TreeCatalog where
  grant? token c := (c.load .grants token Codec.grant.wire, c)
  repo? repoId c := (c.load .repos repoId Codec.repo.wire, c)
  manifest? ref objectId c := (c.load .manifests (manifestKey ref objectId) Codec.manifest.wire, c)
  key? repoId username c := (c.load .keys (materialKey repoId username) Codec.keyMaterial.wire, c)

end TreeCatalog

end StreamGate
