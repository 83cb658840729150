import StreamGate.Cipher.BlockCipher
import StreamGate.Cipher.Padding

/-!
# Cipher block chaining

Each block is combined with the ciphertext block before it, the first one with
the initial vector.  `encryptBlocks` and `decryptBlocks` work on whole blocks and
thread the chain; `encrypt` adds the padding.
-/

namespace StreamGate.Cbc

/-- Encrypts whole blocks. -/
def encryptBlocks (cipher : BlockCipher) : (chain : CipherBlock) → List CipherBlock → List CipherBlock
  | _, [] => []
  | chain, plain :: rest =>
    let block := cipher.encrypt (CipherBlock.xor plain chain)
    block :: encryptBlocks cipher block rest

/-- Decrypts whole blocks. -/
def decryptBlocks (cipher : BlockCipher) : (chain : CipherBlock) → List CipherBlock → List CipherBlock
  | _, [] => []
  | chain, block :: rest =>
    CipherBlock.xor (cipher.decrypt block) chain :: decryptBlocks cipher block rest

/-- The ciphertext block that the block after `blocks` is combined with. -/
def lastChain : (chain : CipherBlock) → (blocks : List CipherBlock) → CipherBlock
  | chain, [] => chain
  | _, block :: rest => lastChain block rest

/-- Encrypts a padded byte string. -/
def encrypt (cipher : BlockCipher) (iv : CipherBlock) (plain : Bytes) : Bytes :=
  CipherBlock.toBytesAll (encryptBlocks cipher iv (CipherBlock.ofBytesAll (Padding.pad plain)))

@[simp] theorem length_encryptBlocks (cipher : BlockCipher) (chain : CipherBlock)
    (blocks : List CipherBlock) : (encryptBlocks cipher chain blocks).length = blocks.length := by
  induction blocks generalizing chain with
  | nil => rfl
  | cons b rest ih => simp [encryptBlocks, ih]

@[simp] theorem length_decryptBlocks (cipher : BlockCipher) (chain : CipherBlock)
    (blocks : List CipherBlock) : (decryptBlocks cipher chain blocks).length = blocks.length := by
  induction blocks generalizing chain with
  | nil => rfl
  | cons b rest ih => simp [decryptBlocks, ih]

/-- Decryption of a sequence of blocks splits anywhere. -/
theorem decryptBlocks_append (cipher : BlockCipher) (chain : CipherBlock) (a b : List CipherBlock) :
    decryptBlocks cipher chain (a ++ b)
      = decryptBlocks cipher chain a ++ decryptBlocks cipher (lastChain chain a) b := by
  induction a generalizing chain with
  | nil => rfl
  | cons x rest ih => simp [decryptBlocks, lastChain, ih x]

end StreamGate.Cbc
