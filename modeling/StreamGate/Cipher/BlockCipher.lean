import StreamGate.Bytes

/-!
# Block ciphers

A cipher on blocks of sixteen bytes, as a pair of maps.  Everything built on
top of one (chaining, padding, the incremental decryptor) takes the cipher as
an argument, so it depends only on the two maps, never on their inner workings.
-/

namespace StreamGate

/-- Sixteen bytes, the unit a cipher works on. -/
abbrev CipherBlock := Vector UInt8 16

namespace CipherBlock

/-- The block that sixteen bytes make. -/
def ofBytes (bytes : Bytes) (h : bytes.length = 16) : CipherBlock := ⟨bytes.toArray, by simpa using h⟩

@[simp] theorem toList_ofBytes (bytes : Bytes) (h : bytes.length = 16) :
    (ofBytes bytes h).toList = bytes := rfl

@[simp] theorem ofBytes_toList (block : CipherBlock) (h : block.toList.length = 16) :
    ofBytes block.toList h = block := by
  simp [ofBytes, Vector.toList]

/-- Byte-wise exclusive or. -/
def xor (a b : CipherBlock) : CipherBlock := a.zipWith (· ^^^ ·) b

theorem xor_xor_cancel (a b : CipherBlock) : xor (xor a b) b = a := by
  ext i h
  simp only [xor, Vector.getElem_zipWith]
  rw [UInt8.xor_assoc, UInt8.xor_self, UInt8.xor_zero]

/-- The whole blocks at the start of a byte string.  What is left over, fewer
than sixteen bytes, is dropped. -/
def ofBytesAll (bytes : Bytes) : List CipherBlock :=
  if h : 16 ≤ bytes.length then
    ofBytes (bytes.take 16) (by simp [h]) :: ofBytesAll (bytes.drop 16)
  else []
termination_by bytes.length
decreasing_by simp only [List.length_drop]; omega

/-- The bytes of a list of blocks. -/
def toBytesAll (blocks : List CipherBlock) : Bytes := blocks.flatMap Vector.toList

end CipherBlock

/-- A cipher under one key. -/
structure BlockCipher where
  encrypt : CipherBlock → CipherBlock
  decrypt : CipherBlock → CipherBlock

/-- The two directions undo each other. -/
structure BlockCipher.Inverse (cipher : BlockCipher) : Prop where
  decrypt_encrypt : ∀ block, cipher.decrypt (cipher.encrypt block) = block
  encrypt_decrypt : ∀ block, cipher.encrypt (cipher.decrypt block) = block

end StreamGate
