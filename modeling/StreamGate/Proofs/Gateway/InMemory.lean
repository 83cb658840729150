import StreamGate.Gateway.Deployment
import StreamGate.Proofs.Gateway.Offer
import StreamGate.Proofs.Storage.KeptFiles

/-!
# Files on offer in memory

A gateway in memory offers a file once its blocks, its manifest and the records
for its token are put in: `MemoryWorld.offers`.  Putting all its blocks in stores
every piece under its id, whatever was there before, unless two different ones
share an id: `Offer.map_get?_putAll`.

Reads may come in small pieces, as long as none is cut to nothing.
-/

namespace StreamGate

/-! ## Storing a file -/

namespace Offer

/-- The pieces of the file as they are stored. -/
def blocks (o : Offer) : List Block := List.zipWith Block.mk o.ids (o.parts.map o.stored)

/-- A file that is cut and stored as it is has its pieces named by their content. -/
theorem split_eq {o : Offer} (pos : o.blockSize ≠ 0) (plain : o.key = none)
    (named : o.ids = o.parts.map BlockId.ofContent) :
    SplitFile.split o.file o.blockSize = .ok ⟨o.manifest, o.blocks⟩ := by
  have ids : (o.parts.map Block.ofContent).map Block.id = o.ids := by
    rw [named, List.map_map]
    rfl
  have blocks : o.blocks = o.parts.map Block.ofContent := by
    have stored : o.stored = id := by
      funext part
      rw [stored, plain]
      rfl
    rw [Offer.blocks, stored, List.map_id, named, List.zipWith_map_left, List.zipWith_self]
    rfl
  unfold SplitFile.split
  rw [if_neg pos, blocks]
  simp only [manifest, ← ids]
  rfl

variable {o : Offer}

theorem map_id_blocks (paired : o.ids.length = o.parts.length) : o.blocks.map Block.id = o.ids :=
  List.ext_getElem (by simp [blocks, paired]) fun i _ _ => by simp [blocks]

theorem map_data_blocks (paired : o.ids.length = o.parts.length) :
    o.blocks.map Block.data = o.parts.map o.stored :=
  List.ext_getElem (by simp [blocks, paired]) fun i _ _ => by simp [blocks]

/-- Every piece is stored under its id, unless two different ones share one. -/
theorem map_get?_putAll (paired : o.ids.length = o.parts.length)
    (alone : Block.NoCollision o.blocks) (m : MemoryBlocks) (ref : StoreRef) :
    o.ids.map ((m.putAll ref o.blocks).get? ref) =
      o.parts.map fun part => some (o.stored part) := by
  have kept : ∀ b ∈ o.blocks, (m.putAll ref o.blocks).get? ref b.id = some b.data := fun b mem =>
    MemoryBlocks.get?_putAll_of_mem alone mem m
  calc o.ids.map ((m.putAll ref o.blocks).get? ref)
      = o.blocks.map fun b => (m.putAll ref o.blocks).get? ref b.id := by
        rw [← map_id_blocks paired, List.map_map]
        rfl
    _ = o.blocks.map fun b => some b.data := List.map_congr_left kept
    _ = (o.blocks.map Block.data).map some := (List.map_map ..).symm
    _ = o.parts.map fun part => some (o.stored part) := by
        rw [map_data_blocks paired, List.map_map]
        rfl

end Offer

/-! ## The world in memory -/

/-- A plan that only cuts reads short, and none to nothing. -/
def FaultPlan.OnlySlows (plan : FaultPlan) : Prop :=
  ∀ id fault, plan.get? id = some fault → fault.maxRead ≠ some 0 ∧ fault.failAfter = none ∧
    fault.openSize = none ∧ fault.statFails = false

theorem FaultPlan.onlySlows_empty : OnlySlows {} := by
  intro id fault found
  cases found

namespace MemoryWorld

/-- Everything that belongs to a file on offer is there. -/
structure Stocks (w : MemoryWorld) (token : String) (o : Offer) : Prop where
  grant : w.catalog.inner.grants.get? token = some o.grant
  repo : w.catalog.inner.repos.get? o.grant.repoId = some o.repo
  manifest : w.catalog.inner.manifests.get? (o.repo.storeRef, o.grant.objectId) = some o.manifest
  stays : w.catalog.left.get? o.grant.objectId = none
  key : match o.key with
    | none => o.repo.encrypted = false
    | some k => o.repo.encrypted = true ∧ ∃ material : KeyMaterial,
      w.catalog.inner.keys.get? (o.repo.repoId, o.grant.username) = some material ∧
        material.cipherKey o.repo.encVersion = .ok k
  blocks : o.ids.map (w.blocks.inner.inner.get? o.repo.storeRef) =
    o.parts.map fun part => some (o.stored part)
  onlySlows : w.blocks.inner.plan.OnlySlows

variable {w : MemoryWorld} {token : String} {o : Offer}

/-- Puts a file in: its blocks, its manifest, the records for its token, and what
the user has unlocked the repository with. -/
def putIn (w : MemoryWorld) (token : String) (o : Offer) (material : KeyMaterial) :
    MemoryWorld where
  blocks :=
    { w.blocks with
      inner :=
        { w.blocks.inner with
          inner := w.blocks.inner.inner.putAll o.repo.storeRef o.blocks } }
  catalog :=
    { w.catalog with
      inner := (((w.catalog.inner.put (.grant token o.grant)).put (.repo o.repo)).put
        (.manifest o.repo.storeRef o.grant.objectId o.manifest)).put
          (.key o.repo.repoId o.grant.username material) }
  archives := w.archives

/-- What was put in is there. -/
theorem stocks_putIn (w : MemoryWorld) (token : String) (o : Offer) (material : KeyMaterial)
    (paired : o.ids.length = o.parts.length)
    (alone : Block.NoCollision o.blocks) (repoId : o.grant.repoId = o.repo.repoId)
    (key : match o.key with
      | none => o.repo.encrypted = false
      | some k => o.repo.encrypted = true ∧ material.cipherKey o.repo.encVersion = .ok k)
    (stays : w.catalog.left.get? o.grant.objectId = none)
    (onlySlows : w.blocks.inner.plan.OnlySlows) : (w.putIn token o material).Stocks token o where
  grant := by simp [putIn, MemoryCatalog.put, Table.get?_insert]
  repo := by simp [putIn, MemoryCatalog.put, Table.get?_insert, repoId]
  manifest := by simp [putIn, MemoryCatalog.put, Table.get?_insert]
  stays := stays
  key := by
    cases hkey : o.key with
    | none =>
      rw [hkey] at key
      exact key
    | some k =>
      rw [hkey] at key
      refine ⟨key.1, material, ?_, key.2⟩
      simp [putIn, MemoryCatalog.put, Table.get?_insert]
  blocks := Offer.map_get?_putAll paired alone w.blocks.inner.inner o.repo.storeRef
  onlySlows := onlySlows

/-- The bytes stored under an id. -/
def content (w : MemoryWorld) (o : Offer) (id : BlockId) : Bytes :=
  (w.blocks.inner.inner.get? o.repo.storeRef id).getD []

/-- The shelf of a world in memory: its blocks stay, and so does its catalog. -/
def shelf (w : MemoryWorld) (o : Offer) : Shelf MemoryWorld (FaultedHandle MemoryHandle) :=
  ((((MemoryBlocks.shelf o.repo.storeRef o.manifest.blocks (w.content o)).faulted
    w.blocks.inner.plan).within Metered.inner).within blocks).along
      fun w' => w'.catalog = w.catalog

theorem map_content (stocks : w.Stocks token o) :
    o.ids.map (w.content o) = o.parts.map o.stored := by
  have found := congrArg (List.map fun data => data.getD []) stocks.blocks
  rw [List.map_map, List.map_map] at found
  exact found

/-- Under every id of the file something is stored. -/
theorem get?_of_mem (stocks : w.Stocks token o) {id : BlockId} (mem : id ∈ o.ids) :
    w.blocks.inner.inner.get? o.repo.storeRef id = some (w.content o id) := by
  have held : w.blocks.inner.inner.get? o.repo.storeRef id ∈
      o.parts.map fun part => some (o.stored part) := stocks.blocks ▸ List.mem_map_of_mem mem
  obtain ⟨part, -, held⟩ := List.mem_map.1 held
  rw [content, ← held, Option.getD_some]

theorem keeps_store (c : Vanishing MemoryCatalog) :
    store.Keeps fun w : MemoryWorld => w.catalog = c :=
  BlockStore.keeps_inside fun _ _ h => h

theorem mirrors_store : store.Mirrors MemoryBlocks.store.faulted.metered blocks :=
  BlockStore.mirrors_inside fun _ _ => rfl

theorem good_shelf (stocks : w.Stocks token o) : (w.shelf o).good [] w := by
  exact ⟨⟨fun id mem => get?_of_mem stocks mem, rfl⟩, rfl⟩

/-- A look-up that a catalog in memory answers. -/
theorem finds {α : Type} {f : MemoryWorld → Except Failure (Option α) × MemoryWorld} {a : α}
    (answers : ∀ w', w'.catalog = w.catalog →
      (f w').1 = .ok (some a) ∧ (f w').2.blocks = w'.blocks ∧ (f w').2.catalog = w.catalog) :
    (w.shelf o).Finds f a := by
  intro w' good
  obtain ⟨found, hblocks, hcatalog⟩ := answers w' good.2
  refine ⟨(f w').2, Prod.ext found rfl, ?_, hcatalog⟩
  show ((MemoryBlocks.shelf _ _ _).faulted _).good [] (f w').2.blocks.inner
  rw [hblocks]
  exact good.1

/-- A gateway in memory offers what its world has in stock. -/
theorem offers (stocks : w.Stocks token o) (s : Settings) (countsUsage : Bool) (now : Instant)
    (isFileAccess : o.grant.operation.isFileAccess = true) :
    (services s countsUsage now).Offers (w.shelf o) token o where
  isFileAccess := isFileAccess
  grant := finds fun w' h => by
    refine ⟨?_, rfl, h⟩
    show Except.ok (w'.catalog.inner.grants.get? token) = _
    rw [h, stocks.grant]
  repo := finds fun w' h => by
    refine ⟨?_, rfl, h⟩
    show Except.ok (w'.catalog.inner.repos.get? o.grant.repoId) = _
    rw [h, stocks.repo]
  key := by
    have hkey := stocks.key
    unfold Services.Unlocks
    cases key : o.key with
    | none =>
      rw [key] at hkey
      exact hkey
    | some k =>
      rw [key] at hkey
      obtain ⟨encrypted, material, found, hmaterial⟩ := hkey
      refine ⟨encrypted, material, finds fun w' h => ?_, hmaterial⟩
      refine ⟨?_, rfl, h⟩
      show Except.ok (w'.catalog.inner.keys.get? (o.repo.repoId, o.grant.username)) = _
      rw [h, found]
  manifest := finds fun w' h => by
    have looked :
        (services s countsUsage now).catalog.manifest? o.repo.storeRef o.grant.objectId w' =
        (.ok (w.catalog.inner.manifests.get? (o.repo.storeRef, o.grant.objectId)),
          { w' with catalog := w.catalog }) := by
      simp only [services, lookUps, Catalog.inside, Catalog.vanishing, h, stocks.stays]
      rfl
    rw [looked, stocks.manifest]
    exact ⟨rfl, rfl, rfl⟩
  honest := (((MemoryBlocks.honest_store.faulted fun id fault h =>
    (stocks.onlySlows id fault h).1).within BlockStore.mirrors_metered).within mirrors_store).along
      (keeps_store _)
  measured := (((MemoryBlocks.measured_store.faulted fun id _ fault h =>
    (stocks.onlySlows id fault h).2.2.2).within BlockStore.mirrors_metered).within
      mirrors_store).along (keeps_store _)
  sized := (((MemoryBlocks.sized_store.faulted fun id _ fault h =>
    (stocks.onlySlows id fault h).2.2.1).within BlockStore.mirrors_metered).within
      mirrors_store).along
  stored := map_content stocks
  reliable := MemoryBlocks.reliable_shelf.faulted fun id fault h =>
    (stocks.onlySlows id fault h).2.1

end MemoryWorld

end StreamGate
