import StreamGate.Catalog.Lookup
import StreamGate.Table

/-!
# The catalog in memory

One table per kind of record, under keys that keep their parts apart.
-/

namespace StreamGate

/-- Records in memory. -/
structure MemoryCatalog where
  grants : Table String Grant := {}
  repos : Table String Repo := {}
  manifests : Table (StoreRef × String) Manifest := {}
  keys : Table (String × String) KeyMaterial := {}

namespace MemoryCatalog

/-- Puts a record in; an earlier one under the same key is replaced. -/
def put (c : MemoryCatalog) : CatalogEntry → MemoryCatalog
  | .grant token grant => { c with grants := c.grants.insert token grant }
  | .repo repo => { c with repos := c.repos.insert repo.repoId repo }
  | .manifest store objectId manifest =>
    { c with manifests := c.manifests.insert (store, objectId) manifest }
  | .key repoId username material => { c with keys := c.keys.insert (repoId, username) material }

/-- Forgets a token; says whether it was known. -/
def revoke (c : MemoryCatalog) (token : String) : Bool × MemoryCatalog :=
  (c.grants.contains token, { c with grants := c.grants.erase token })

/-- The look-ups, which never fail. -/
def catalog : Catalog MemoryCatalog where
  grant? token c := (.ok (c.grants.get? token), c)
  repo? repoId c := (.ok (c.repos.get? repoId), c)
  manifest? ref objectId c := (.ok (c.manifests.get? (ref, objectId)), c)
  key? repoId username c := (.ok (c.keys.get? (repoId, username)), c)

end MemoryCatalog

end StreamGate
