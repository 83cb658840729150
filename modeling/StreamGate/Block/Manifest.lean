import StreamGate.Block.Id

/-!
# Manifests, blocks and splitting

A file is stored as blocks, and its manifest lists them in order together with
the file's size.  Cutting a file yields both.

Blocks are held by a store, which a repository refers to by its id and the
version of its format.
-/

namespace StreamGate

/-- The store a repository keeps its blocks in. -/
structure StoreRef where
  storeId : String
  version : UInt32
deriving DecidableEq, Repr

/-- The reference as one text. -/
def StoreRef.display (store : StoreRef) : String := s!"{store.storeId}@v{store.version}"

/-- What a file is made of. -/
structure Manifest where
  fileSize : UInt64
  blocks : List BlockId
deriving DecidableEq

namespace Manifest

/-- The manifest of a file of no bytes. -/
def empty : Manifest := ⟨0, []⟩

/-- A manifest without blocks, whatever size it claims. -/
def isEmpty (m : Manifest) : Bool := m.blocks.isEmpty

def contains (m : Manifest) (id : BlockId) : Bool := m.blocks.contains id

end Manifest

/-- A stored byte string with its name. -/
structure Block where
  id : BlockId
  data : Bytes
deriving DecidableEq

namespace Block

/-- The block named by its content. -/
def ofContent (data : Bytes) : Block := ⟨BlockId.ofContent data, data⟩

/-- The name is the hash of the content.  A name given elsewhere cannot be
checked and counts as wrong. -/
def verify (b : Block) : Bool := b.id.isContentHash && BlockId.ofContent b.data == b.id

end Block

/-- A file cut into blocks, with its manifest. -/
structure SplitFile where
  manifest : Manifest
  blocks : List Block
deriving DecidableEq

/-- Cuts a file into blocks of `size` bytes; the last block may be shorter. -/
def SplitFile.split (data : Bytes) (size : Nat) : Except Failure SplitFile :=
  if size = 0 then .error (.manifest "block size must be greater than zero")
  else
    let blocks := (data.pieces size).map Block.ofContent
    .ok ⟨⟨UInt64.ofNat data.length, blocks.map Block.id⟩, blocks⟩

end StreamGate
