import StreamGate.Block.Stored
import StreamGate.Proofs.Gateway.Access
import StreamGate.Proofs.Storage.Serving

/-!
# Files on offer

An `Offer` is a file as it was cut and stored, with the grant and the repository
under which it is delivered.  Its pieces are stored under any ids: they may be named
by their plain content, by what is stored of them, or otherwise.  `Services.Offers`
says that a gateway finds all of this under a token, as long as the store keeps its
word.

The checks of a request for such a file all pass: `Services.Offers.run_file`.
-/

namespace StreamGate

/-- A file that was cut into blocks and stored, under a grant. -/
structure Offer where
  grant : Grant
  repo : Repo
  /-- The key to the repository, if it is encrypted. -/
  key : Option CipherKey
  file : Bytes
  blockSize : Nat
  /-- The ids of the pieces, in their order. -/
  ids : List BlockId

namespace Offer

/-- The pieces that the file was cut into. -/
def parts (o : Offer) : List Bytes := o.file.pieces o.blockSize

/-- The manifest of the file: its size, and the ids of its pieces. -/
def manifest (o : Offer) : Manifest := ⟨UInt64.ofNat o.file.length, o.ids⟩

/-- The form in which a piece is stored. -/
def stored (o : Offer) (part : Bytes) : Bytes := ((Block.ofContent part).stored o.key).data

/-- A request for the file, once all of it is found. -/
def fileRequest (o : Offer) (request : Request) (name : String) : Access.FileRequest :=
  ⟨request, name, o.grant, o.repo, o.manifest⟩

end Offer

variable {World Handle File : Type}

/-- A look-up finds a record, and the store stays as good as it was. -/
def Shelf.Finds {α : Type} (shelf : Shelf World Handle)
    (f : World → Except Failure (Option α) × World) (a : α) : Prop :=
  ∀ {w}, shelf.good [] w → ∃ w', f w = (.ok (some a), w') ∧ shelf.good [] w'

/-- The repository is not encrypted, or the user has unlocked it with the key. -/
def Services.Unlocks (svc : Services World Handle File) (shelf : Shelf World Handle) (o : Offer) :
    Prop :=
  match o.key with
  | none => o.repo.encrypted = false
  | some k => o.repo.encrypted = true ∧ ∃ material : KeyMaterial,
    shelf.Finds (svc.catalog.key? o.repo.repoId o.grant.username) material ∧
      material.cipherKey o.repo.encVersion = .ok k

/-- A gateway finds the file under a token, and its store holds the pieces in
their stored form. -/
structure Services.Offers (svc : Services World Handle File) (shelf : Shelf World Handle)
    (token : String) (o : Offer) : Prop where
  isFileAccess : o.grant.operation.isFileAccess = true
  grant : shelf.Finds (svc.catalog.grant? token) o.grant
  repo : shelf.Finds (svc.catalog.repo? o.grant.repoId) o.repo
  key : svc.Unlocks shelf o
  manifest : shelf.Finds (svc.catalog.manifest? o.repo.storeRef o.grant.objectId) o.manifest
  honest : svc.store.Honest shelf o.repo.storeRef o.manifest.blocks
  measured : svc.store.Measured shelf o.repo.storeRef o.manifest.blocks
  sized : svc.store.Sized shelf o.repo.storeRef o.manifest.blocks
  stored : o.ids.map shelf.content = o.parts.map o.stored
  reliable : shelf.Reliable

namespace Services.Offers

variable {svc : Services World Handle File} {shelf : Shelf World Handle} {token : String}
  {o : Offer} {g : Gateway World}

/-! ## The checks -/

theorem withWorld_withWorld (w w' : World) (g : Gateway World) :
    (g.withWorld w).withWorld w' = g.withWorld w' := rfl

/-- A check goes well, and the store stays as good as it was. -/
def Passes {α : Type} (shelf : Shelf World Handle) (act : Access World α) (g : Gateway World)
    (a : α) : Prop :=
  ∃ w, act.Gives g a (g.withWorld w) ∧ shelf.good [] w

theorem passes_resolveGrant (offers : svc.Offers shelf token o) (good : shelf.good [] g.world) :
    Passes shelf (Access.resolveGrant svc token) g o.grant := by
  obtain ⟨w, found, good'⟩ := offers.grant good
  exact ⟨w, Access.gives_resolveGrant found, good'⟩

theorem passes_loadRepo (offers : svc.Offers shelf token o) (good : shelf.good [] g.world) :
    Passes shelf (Access.loadRepo svc o.grant.repoId) g o.repo := by
  obtain ⟨w, found, good'⟩ := offers.repo good
  exact ⟨w, Access.gives_loadRepo found, good'⟩

theorem passes_loadKey (offers : svc.Offers shelf token o) (good : shelf.good [] g.world) :
    Passes shelf (Access.loadKey svc o.repo o.grant.username) g o.key := by
  have hkey := offers.key
  unfold Services.Unlocks at hkey
  unfold Passes Access.Gives Access.loadKey
  cases key : o.key with
  | none =>
    rw [key] at hkey
    simp only [hkey]
    exact ⟨g.world, rfl, good⟩
  | some k =>
    rw [key] at hkey
    obtain ⟨encrypted, material, finds, hmaterial⟩ := hkey
    obtain ⟨w, found, good'⟩ := finds good
    refine ⟨w, ?_, good'⟩
    simp only [encrypted, ↓reduceIte]
    rw [Access.run_bind_of_gives (Access.gives_lookUp found),
      Access.run_bind_of_gives Access.gives_require, hmaterial]
    rfl

theorem passes_checkObject (offers : svc.Offers shelf token o) (good : shelf.good [] g.world) :
    Passes shelf (Access.checkObject svc o.repo o.grant.objectId) g () := by
  obtain ⟨w, found, good'⟩ := offers.manifest good
  have exists' : svc.catalog.objectExists o.repo.storeRef o.grant.objectId g.world =
      (.ok true, w) := by
    simp only [Catalog.objectExists, found]
    rfl
  exact ⟨w, Access.gives_checkObject exists', good'⟩

theorem passes_loadManifest (offers : svc.Offers shelf token o) (good : shelf.good [] g.world) :
    Passes shelf (Access.loadManifest svc o.repo o.grant.objectId) g o.manifest := by
  obtain ⟨w, found, good'⟩ := offers.manifest good
  exact ⟨w, Access.gives_loadManifest found, good'⟩

/-- The part of a delivery that depends on what was found. -/
def deliver (svc : Services World Handle File) (o : Offer) (request : Request) (name : String) :
    Access World (Response (Delivering Handle File)) :=
  match o.key, request.range with
  | none, some header => Access.deliverRange svc (o.fileRequest request name) header
  | key, _ => Access.deliverFile svc (o.fileRequest request name) key

/-- A request for a file on offer passes all checks. -/
theorem run_file (offers : svc.Offers shelf token o) (good : shelf.good [] g.world)
    {request : Request} (fresh : hasCachedCopy request.headers = false) (name : String) :
    ∃ w, shelf.good [] w ∧ (Access.file svc request token name).run g =
      (deliver svc o request name).run (g.withWorld w) := by
  obtain ⟨w₁, given₁, good₁⟩ := offers.passes_resolveGrant good
  obtain ⟨w₂, given₂, good₂⟩ := offers.passes_loadRepo (g := g.withWorld w₁) good₁
  obtain ⟨w₃, given₃, good₃⟩ := offers.passes_loadKey (g := g.withWorld w₂) good₂
  obtain ⟨w₄, given₄, good₄⟩ := offers.passes_checkObject (g := g.withWorld w₃) good₃
  obtain ⟨w₅, given₅, good₅⟩ := offers.passes_loadManifest (g := g.withWorld w₄) good₄
  refine ⟨w₅, good₅, ?_⟩
  unfold Access.file
  rw [Access.run_bind_of_gives given₁]
  simp only [offers.isFileAccess, fresh, Bool.not_true, Bool.false_eq_true, ↓reduceIte]
  rw [Access.run_bind_of_gives given₂, withWorld_withWorld, Access.run_bind_of_gives given₃,
    withWorld_withWorld, Access.run_bind_of_gives given₄, withWorld_withWorld,
    Access.run_bind_of_gives given₅, withWorld_withWorld]
  rfl

end Services.Offers

end StreamGate
