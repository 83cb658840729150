import StreamGate.Grant

/-!
# Catalogs

What the gateway looks up: grants by token, repositories, manifests of objects
in a store, and the keys users have unlocked.  Like a block store, a catalog is a
record of operations on a world.
-/

namespace StreamGate

/-- The look-ups of a catalog. -/
structure Catalog (World : Type) where
  grant? : (token : String) → World → Except Failure (Option Grant) × World
  repo? : (repoId : String) → World → Except Failure (Option Repo) × World
  manifest? : StoreRef → (objectId : String) → World → Except Failure (Option Manifest) × World
  key? : (repoId username : String) → World → Except Failure (Option KeyMaterial) × World

namespace Catalog

variable {World : Type}

/-- An object has a manifest. -/
def objectExists (c : Catalog World) (ref : StoreRef) (objectId : String) (w : World) :
    Except Failure Bool × World :=
  let (r, w) := c.manifest? ref objectId w
  (r.map Option.isSome, w)

/-- The same catalog as a part of a larger world. -/
def inside {Outer : Type} (c : Catalog World) (get : Outer → World) (put : World → Outer → Outer) :
    Catalog Outer where
  grant? token w :=
    let (r, inner) := c.grant? token (get w)
    (r, put inner w)
  repo? repoId w :=
    let (r, inner) := c.repo? repoId (get w)
    (r, put inner w)
  manifest? ref objectId w :=
    let (r, inner) := c.manifest? ref objectId (get w)
    (r, put inner w)
  key? repoId username w :=
    let (r, inner) := c.key? repoId username (get w)
    (r, put inner w)

end Catalog

/-- A record to be put into a catalog. -/
inductive CatalogEntry where
  | grant (token : String) (grant : Grant)
  | repo (repo : Repo)
  | manifest (store : StoreRef) (objectId : String) (manifest : Manifest)
  | key (repoId username : String) (material : KeyMaterial)

end StreamGate
