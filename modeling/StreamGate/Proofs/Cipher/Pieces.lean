import StreamGate.Proofs.Cipher.Decryption

/-!
# Decryption piece by piece

A stored block may be fed to a decryptor in pieces of any length, empty ones included.
Afterwards the decryptor is where one update with the whole of it would have brought it, so it
ends as decryption in one go does.

* `Decryptor.feedAll_eq`: pieces one after the other are as good as their concatenation.
* `Decryptor.lags_feedAll`: what has been handed out by then, and what is kept.
* `Decryptor.pieces_as_whole`: both, with the end of the decryption.
-/

namespace StreamGate.Decryptor

/-! ## Feeding -/

theorem feed_eq (d : Decryptor) (piece out : Bytes) :
    d.feed piece out =
      (ready (d.pending.length + piece.length), out ++ (d.update piece).1, (d.update piece).2) :=
  rfl

theorem feedAll_concat (d : Decryptor) (pieces : List Bytes) (piece : Bytes) :
    d.feedAll (pieces ++ [piece]) =
      ((d.feedAll pieces).2.feed piece (d.feedAll pieces).1).2 := by
  rw [feedAll, List.foldl_append]
  rfl

/-- Pieces one after the other are as good as their concatenation. -/
theorem feedAll_eq (k : CipherKey) (pieces : List Bytes) :
    (start k).feedAll pieces = (start k).update pieces.flatten := by
  induction pieces using List.reverseRecOn with
  | nil => rw [List.flatten_nil, update_start_nil]; rfl
  | append_singleton pieces piece ih =>
    rw [feedAll_concat, ih, List.flatten_append, List.flatten_singleton, update_append]
    rfl

/-- The answer of a feed is the number of bytes that it appends. -/
theorem feed_counts (d : Decryptor) (piece out : Bytes) :
    ∃ plain, (d.feed piece out).2.1 = out ++ plain ∧ (d.feed piece out).1 = plain.length := by
  refine ⟨(d.update piece).1, rfl, ?_⟩
  rw [feed_eq, length_update]

/-! ## What is kept -/

/-- A decryptor has read some bytes and handed out others.  It has decrypted all whole blocks
that are followed by a byte at least, and keeps the rest. -/
structure Lags (k : CipherKey) (read out : Bytes) (d : Decryptor) : Prop where
  handed : out = CipherBlock.toBytesAll (Cbc.decryptBlocks k.cipher k.ivBlock
    (CipherBlock.ofBytesAll (read.take (16 * ((read.length - 1) / 16)))))
  kept : d.pending = read.drop (16 * ((read.length - 1) / 16))
  /-- One to sixteen bytes are kept, once there are any. -/
  length_kept : read ≠ [] → 1 ≤ d.pending.length ∧ d.pending.length ≤ 16

theorem lags_update (k : CipherKey) (read : Bytes) :
    Lags k read ((start k).update read).1 ((start k).update read).2 := by
  have count : ready read.length = 16 * ((read.length - 1) / 16) := Nat.mul_comm ..
  refine ⟨?_, ?_, fun some => ?_⟩
  · rw [← count]
    rfl
  · rw [← count]
    rfl
  · have positive := List.length_pos_iff.2 some
    rw [length_pending_update]
    simp only [start, List.length_nil, Nat.zero_add, count]
    omega

theorem lags_feedAll (k : CipherKey) (pieces : List Bytes) :
    Lags k pieces.flatten ((start k).feedAll pieces).1 ((start k).feedAll pieces).2 := by
  rw [feedAll_eq]
  exact lags_update k pieces.flatten

/-! ## The end -/

/-- Where decryption in one go leaves an output that holds what the updates appended. -/
def closing (out : Bytes) : Except Failure Bytes → Except Failure Nat × Bytes
  | .ok plain => (.ok (plain.length - out.length), plain)
  | .error e => (.error e, out)

theorem close_update (k : CipherKey) (stored : Bytes) :
    ((start k).update stored).2.close ((start k).update stored).1 =
      closing ((start k).update stored).1 (k.decrypt stored) := by
  unfold close CipherKey.decrypt
  cases finished : ((start k).update stored).2.finish with
  | error e => simp only [bind, Except.bind, finished, closing]
  | ok last =>
    simp only [bind, Except.bind, finished, pure, Except.pure, closing, List.length_append,
      Nat.add_sub_cancel_left]

/-- What becomes of a stored block that is fed to a fresh decryptor in pieces, however it is
cut.

* The decryptor and the output are those of one update with the whole block.
* The end of the decryption is that of decryption in one go: the same plaintext, or the same
  failure with the output as the updates left it.
* The output holds the decryption of all whole blocks that are followed by a byte at least, and
  the rest is kept.
* One more piece is answered with the number of bytes that it appends. -/
theorem pieces_as_whole (k : CipherKey) (pieces : List Bytes) :
    ∃ fresh, startChecked k = .ok fresh ∧
      let stored := pieces.flatten
      let out := (fresh.feedAll pieces).1
      let d := (fresh.feedAll pieces).2
      (out, d) = (fresh.feed stored []).2 ∧
        d.close out = closing out (k.decrypt stored) ∧
        Lags k stored out d ∧
        ∀ piece, ∃ plain, (d.feed piece out).2.1 = out ++ plain ∧
          (d.feed piece out).1 = plain.length := by
  refine ⟨start k, startChecked_eq k, feedAll_eq k pieces, ?_, lags_feedAll k pieces,
    fun piece => feed_counts _ piece _⟩
  show ((start k).feedAll pieces).2.close ((start k).feedAll pieces).1 = _
  rw [feedAll_eq]
  exact close_update k pieces.flatten

end StreamGate.Decryptor
