import StreamGate.Cipher.Key

/-!
# Incremental decryption

A decryptor takes the ciphertext of one block in pieces of any length and hands
out plaintext as soon as it is certain.  It always keeps the last one to
sixteen bytes back, because only the end of the input tells which cipher block
carries the padding.

`CipherKey.decrypt` is the one-shot form: one piece, then the end.
-/

namespace StreamGate

/-- The decryption of one stored block, part of the way through. -/
structure Decryptor where
  cipher : BlockCipher
  /-- The ciphertext block before the pending bytes. -/
  chain : CipherBlock
  /-- Ciphertext that is not decrypted yet. -/
  pending : Bytes

namespace Decryptor

/-- A decryptor at the start of a block. -/
def start (key : CipherKey) : Decryptor := ⟨key.cipher, key.ivBlock, []⟩

/-- A decryptor at the start of a block, unless the cipher refuses the key. -/
def startChecked (key : CipherKey) : Except Failure Decryptor :=
  match key.suite.keyed? key.key key.iv with
  | some (cipher, iv) => .ok ⟨cipher, iv, []⟩
  | none => .error (.decryption CipherSuite.lengthMessage)

theorem startChecked_eq (key : CipherKey) : startChecked key = .ok (start key) := by
  rw [startChecked, key.keyed?_eq]
  rfl

/-- How many of `n` pending bytes can be decrypted while at least one has to
stay. -/
def ready (n : Nat) : Nat := (n - 1) / 16 * 16

/-- Takes in a piece of ciphertext and hands out the plaintext that has become
certain. -/
def update (d : Decryptor) (piece : Bytes) : Bytes × Decryptor :=
  let input := d.pending ++ piece
  let blocks := CipherBlock.ofBytesAll (input.take (ready input.length))
  (CipherBlock.toBytesAll (Cbc.decryptBlocks d.cipher d.chain blocks),
    { d with chain := Cbc.lastChain d.chain blocks, pending := input.drop (ready input.length) })

/-- The plaintext of the last block, once no ciphertext will follow. -/
def finish (d : Decryptor) : Except Failure Bytes :=
  if h : d.pending.length = 16 then
    let last := CipherBlock.xor (d.cipher.decrypt (CipherBlock.ofBytes d.pending h)) d.chain
    match Padding.unpad? last.toList with
    | some plain => .ok plain
    | none => .error (.decryption "bad padding: Unpad Error")
  else .error (.decryption s!"wrong final block length: {d.pending.length}")

/-! ## With an output -/

/-- Takes in a piece of ciphertext and appends to an output what has become certain.  The
answer is the number of bytes that were ready. -/
def feed (d : Decryptor) (piece out : Bytes) : Nat × Bytes × Decryptor :=
  let (plain, next) := d.update piece
  (ready (d.pending.length + piece.length), out ++ plain, next)

/-- Takes in pieces of ciphertext one after the other. -/
def feedAll (d : Decryptor) (pieces : List Bytes) : Bytes × Decryptor :=
  pieces.foldl (fun (out, d) piece => (d.feed piece out).2) ([], d)

/-- Appends the plaintext of the last block.  The answer is its length. -/
def close (d : Decryptor) (out : Bytes) : Except Failure Nat × Bytes :=
  match d.finish with
  | .ok last => (.ok last.length, out ++ last)
  | .error e => (.error e, out)

end Decryptor

/-- The plaintext of a stored block. -/
def CipherKey.decrypt (k : CipherKey) (stored : Bytes) : Except Failure Bytes := do
  let (plain, d) := (Decryptor.start k).update stored
  let last ← d.finish
  return plain ++ last

end StreamGate
