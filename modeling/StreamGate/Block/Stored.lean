import StreamGate.Block.Manifest
import StreamGate.Cipher.Key

/-!
# Stored blocks

The form in which a file's blocks are stored.  In an encrypted repository every
block is encrypted on its own, and the manifest keeps the plain size.  A block that
was cut from a file keeps its name, but names are free: nothing is decided by how an
encrypted block is named.
-/

namespace StreamGate

/-- The stored form of a block, encrypted if there is a key. -/
def Block.stored (key : Option CipherKey) (b : Block) : Block :=
  match key with
  | none => b
  | some k => { b with data := k.encrypt b.data }

/-- A file in its stored form. -/
def SplitFile.stored (key : Option CipherKey) (file : SplitFile) : SplitFile :=
  { file with blocks := file.blocks.map (Block.stored key) }

end StreamGate
