import StreamGate.Bytes.Hex
import StreamGate.Cipher.Aes
import StreamGate.Cipher.Cbc
import StreamGate.Failure
import StreamGate.Text.Quoted

/-!
# Cipher keys

The key and initial vector of an encrypted repository.  A key is built from
bytes of exactly the right length, or read from hexadecimal text, where longer
material is cut to length.

`CipherKey.encrypt` is the stored form of a block: padded, chained from the
key's initial vector.
-/

namespace StreamGate

/-- The two ciphers in use. -/
inductive CipherSuite where
  | aes128
  | aes256
deriving DecidableEq, Repr

namespace CipherSuite

/-- The suite of a repository's encryption version.  Every version but the
first uses the longer key. -/
def ofVersion (version : UInt32) : CipherSuite := if version = 1 then aes128 else aes256

/-- The length of a key in bytes. -/
def keyLength : CipherSuite → Nat
  | aes128 => 16
  | aes256 => 32

def name : CipherSuite → String
  | aes128 => "Aes128Cbc"
  | aes256 => "Aes256Cbc"

/-- The block cipher of a suite under a key. -/
def cipher : CipherSuite → Bytes → BlockCipher
  | aes128 => Aes.aes128
  | aes256 => Aes.aes256

/-- The block cipher of a suite and the block that its chain starts from.  Key and initial
vector have to have the lengths of the suite. -/
def keyed? (suite : CipherSuite) (key iv : Bytes) : Option (BlockCipher × CipherBlock) :=
  if key.length = suite.keyLength then
    if h : iv.length = 16 then some (suite.cipher key, CipherBlock.ofBytes iv h) else none
  else none

/-- What the cipher says to material of another length. -/
def lengthMessage : String := "Invalid Length"

end CipherSuite

/-- A key of the right length with its initial vector. -/
structure CipherKey where
  suite : CipherSuite
  key : Bytes
  iv : Bytes
  length_key : key.length = suite.keyLength
  length_iv : iv.length = 16

namespace CipherKey

/-- The key made of bytes of exactly the right lengths; the key is measured
before the initial vector. -/
def ofBytes (suite : CipherSuite) (key iv : Bytes) : Except Failure CipherKey :=
  if hk : key.length = suite.keyLength then
    if hi : iv.length = 16 then .ok ⟨suite, key, iv, hk, hi⟩
    else .error (.invalidKeyLength 16 iv.length)
  else .error (.invalidKeyLength suite.keyLength key.length)

/-- A hexadecimal fault in words. -/
def hexFaultMessage : Hex.Fault → String
  | .oddLength => "Odd number of digits"
  | .badDigit code position =>
    s!"Invalid character {Text.quotedChar (Char.ofNat code.toNat)} at position {position}"

/-- The failure that a hexadecimal fault in key material causes. -/
def hexFailure (fault : Hex.Fault) : Failure :=
  .decryption s!"invalid hex key material: {hexFaultMessage fault}"

/-- The bytes a hexadecimal text writes. -/
def decodeHex (text : String) : Except Failure Bytes :=
  match Hex.decode text with
  | .ok bytes => .ok bytes
  | .error fault => .error (hexFailure fault)

/-- The key written in hexadecimal.  Both texts are read first; then the key
and the initial vector must be long enough, and what is too long is cut. -/
def ofHex (version : UInt32) (keyHex ivHex : String) : Except Failure CipherKey := do
  let suite := CipherSuite.ofVersion version
  let key ← decodeHex keyHex
  let iv ← decodeHex ivHex
  if key.length < suite.keyLength then
    throw (.invalidKeyLength suite.keyLength key.length)
  if iv.length < 16 then
    throw (.invalidKeyLength 16 iv.length)
  ofBytes suite (key.take suite.keyLength) (iv.take 16)

/-- The initial vector as a block. -/
def ivBlock (k : CipherKey) : CipherBlock := CipherBlock.ofBytes k.iv k.length_iv

/-- The block cipher under this key. -/
def cipher (k : CipherKey) : BlockCipher := k.suite.cipher k.key

/-- How a key shows itself: its suite, never its bytes. -/
def redacted (k : CipherKey) : String := s!"CipherKey({k.suite.name}, [REDACTED])"

/-- The stored form of a plaintext block. -/
def encrypt (k : CipherKey) (plain : Bytes) : Bytes := Cbc.encrypt k.cipher k.ivBlock plain

/-- The cipher accepts the material of every key. -/
theorem keyed?_eq (k : CipherKey) : k.suite.keyed? k.key k.iv = some (k.cipher, k.ivBlock) := by
  rw [CipherSuite.keyed?, if_pos k.length_key, dif_pos k.length_iv]
  rfl

/-- The stored form of a plaintext block, unless the cipher refuses the key. -/
def encryptChecked (k : CipherKey) (plain : Bytes) : Except Failure Bytes :=
  match k.suite.keyed? k.key k.iv with
  | some (cipher, iv) => .ok (Cbc.encrypt cipher iv plain)
  | none => .error (.encryption CipherSuite.lengthMessage)

theorem encryptChecked_eq (k : CipherKey) (plain : Bytes) :
    k.encryptChecked plain = .ok (k.encrypt plain) := by
  rw [encryptChecked, keyed?_eq]
  rfl

end CipherKey

end StreamGate
