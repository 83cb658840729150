import StreamGate.Storage.BlockStore
import StreamGate.Table

/-!
# Blocks in memory

A store that keeps its blocks in a table under store id and block id; the format version of a
store is not part of the key.  A handle keeps the content the block had when it
was opened.
-/

namespace StreamGate

/-- Blocks in memory, with the number of look-ups served. -/
structure MemoryBlocks where
  blocks : Table (String × BlockId) Bytes := {}
  opens : Nat := 0
  stats : Nat := 0

/-- What is left to read of an open block. -/
structure MemoryHandle where
  size : Nat
  rest : Bytes

namespace MemoryBlocks

def get? (m : MemoryBlocks) (ref : StoreRef) (id : BlockId) : Option Bytes :=
  m.blocks.get? (ref.storeId, id)

/-- Stores a block under a given id. -/
def put (m : MemoryBlocks) (ref : StoreRef) (id : BlockId) (data : Bytes) : MemoryBlocks :=
  { m with blocks := m.blocks.insert (ref.storeId, id) data }

/-- Stores a block under the hash of its content. -/
def putContent (m : MemoryBlocks) (ref : StoreRef) (data : Bytes) : BlockId × MemoryBlocks :=
  let id := BlockId.ofContent data
  (id, m.put ref id data)

/-- Stores the blocks of a file. -/
def putAll (m : MemoryBlocks) (ref : StoreRef) (blocks : List Block) : MemoryBlocks :=
  blocks.foldl (fun m b => m.put ref b.id b.data) m

/-- Cuts a file into blocks and stores them. -/
def putFile (m : MemoryBlocks) (ref : StoreRef) (data : Bytes) (size : Nat) :
    Except Failure (Manifest × MemoryBlocks) := do
  let file ← SplitFile.split data size
  return (file.manifest, m.putAll ref file.blocks)

def lookup (m : MemoryBlocks) (ref : StoreRef) (id : BlockId) : Except Failure Bytes :=
  match m.get? ref id with
  | some data => .ok data
  | none => .error (.blockNotFound ref.storeId id.text)

/-- The operations on blocks in memory.  Failed look-ups of a size are counted,
failed opens are not. -/
def store : BlockStore MemoryBlocks MemoryHandle where
  stat ref id m := ((m.lookup ref id).map List.length, { m with stats := m.stats + 1 })
  openBlock ref id m :=
    match m.lookup ref id with
    | .ok data => (.ok ⟨data.length, data⟩, { m with opens := m.opens + 1 })
    | .error e => (.error e, m)
  size h := h.size
  read h want m :=
    (.ok ⟨h.rest.take want, List.length_take_le want h.rest⟩, { h with rest := h.rest.drop want }, m)
  close _ m := m

end MemoryBlocks

end StreamGate
