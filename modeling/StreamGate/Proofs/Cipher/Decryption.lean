import StreamGate.Cipher.Decryptor
import StreamGate.Proofs.Cipher.AesInverse

/-!
# Decryption of stored blocks

A stored block may be given to a decryptor in pieces, and what is stored comes
back.

* Whole blocks as bytes: `ofBytesAll` and `toBytesAll` are inverse to each
  other on whole blocks and split at block boundaries.
* Chaining: `decryptBlocks_encryptBlocks` undoes one block after the other.
* Padding: `unpad?_append_replicate` takes off what `pad` puts on.
* Pieces: `Decryptor.update_append` says that two pieces in a row are as good
  as one.
* The stored form: `CipherKey.decrypt_encrypt`.
* Lengths: how much is certain after some bytes (`CipherKey.length_early`), and how much
  longer a block is than its plaintext (`CipherKey.length_of_decrypt`).
-/

namespace StreamGate

/-! ## Whole blocks as bytes -/

namespace CipherBlock

@[simp] theorem toBytesAll_nil : toBytesAll [] = [] := rfl

@[simp] theorem toBytesAll_cons (b : CipherBlock) (bs : List CipherBlock) :
    toBytesAll (b :: bs) = b.toList ++ toBytesAll bs := rfl

@[simp] theorem toBytesAll_append (as bs : List CipherBlock) :
    toBytesAll (as ++ bs) = toBytesAll as ++ toBytesAll bs := by
  simp [toBytesAll]

@[simp] theorem length_toBytesAll (bs : List CipherBlock) :
    (toBytesAll bs).length = 16 * bs.length := by
  induction bs with
  | nil => rfl
  | cons b bs ih =>
    rw [toBytesAll_cons, List.length_append, ih, Vector.length_toList, List.length_cons]
    omega

/-- A whole block at the start is the first block. -/
theorem ofBytesAll_append_of_length {a : Bytes} (ha : a.length = 16) (b : Bytes) :
    ofBytesAll (a ++ b) = ofBytes a ha :: ofBytesAll b := by
  have hlen : 16 ≤ (a ++ b).length := by
    rw [List.length_append]
    omega
  have htake : (a ++ b).take 16 = a := List.take_left' ha
  have hdrop : (a ++ b).drop 16 = b := List.drop_left' ha
  rw [ofBytesAll, dif_pos hlen]
  simp only [htake, hdrop]

theorem ofBytesAll_toBytesAll_append (bs : List CipherBlock) (rest : Bytes) :
    ofBytesAll (toBytesAll bs ++ rest) = bs ++ ofBytesAll rest := by
  induction bs with
  | nil => rfl
  | cons b bs ih =>
    rw [toBytesAll_cons, List.append_assoc, ofBytesAll_append_of_length b.length_toList, ih,
      ofBytes_toList, List.cons_append]

@[simp] theorem ofBytesAll_nil : ofBytesAll [] = [] := by
  rw [ofBytesAll]
  rfl

theorem ofBytesAll_of_length {a : Bytes} (ha : a.length = 16) : ofBytesAll a = [ofBytes a ha] := by
  have h := ofBytesAll_append_of_length ha []
  rwa [List.append_nil, ofBytesAll_nil] at h

@[simp] theorem ofBytesAll_toBytesAll (bs : List CipherBlock) :
    ofBytesAll (toBytesAll bs) = bs := by
  have h := ofBytesAll_toBytesAll_append bs []
  rwa [List.append_nil, ofBytesAll_nil, List.append_nil] at h

/-- Bytes that are whole blocks are those of their blocks. -/
theorem toBytesAll_ofBytesAll (bytes : Bytes) (h : bytes.length % 16 = 0) :
    toBytesAll (ofBytesAll bytes) = bytes := by
  fun_induction ofBytesAll bytes with
  | case1 bytes hlen ih =>
    have hdrop : (bytes.drop 16).length % 16 = 0 := by
      rw [List.length_drop]
      omega
    rw [toBytesAll_cons, toList_ofBytes, ih hdrop, List.take_append_drop]
  | case2 bytes hlen =>
    have hnil : bytes = [] := List.eq_nil_of_length_eq_zero (by omega)
    rw [hnil, toBytesAll_nil]

theorem ofBytesAll_append (a b : Bytes) (ha : a.length % 16 = 0) :
    ofBytesAll (a ++ b) = ofBytesAll a ++ ofBytesAll b := by
  conv => lhs; rw [← toBytesAll_ofBytesAll a ha]
  exact ofBytesAll_toBytesAll_append _ b

end CipherBlock

/-! ## Chaining -/

namespace Cbc

@[simp] theorem lastChain_append (chain : CipherBlock) (a b : List CipherBlock) :
    lastChain chain (a ++ b) = lastChain (lastChain chain a) b := by
  induction a generalizing chain with
  | nil => rfl
  | cons x rest ih => simp [lastChain, ih]

theorem encryptBlocks_append (cipher : BlockCipher) (chain : CipherBlock)
    (a b : List CipherBlock) :
    encryptBlocks cipher chain (a ++ b) =
      encryptBlocks cipher chain a ++
        encryptBlocks cipher (lastChain chain (encryptBlocks cipher chain a)) b := by
  induction a generalizing chain with
  | nil => rfl
  | cons x rest ih => simp [encryptBlocks, lastChain, ih]

theorem decryptBlocks_encryptBlocks {cipher : BlockCipher} (inverse : cipher.Inverse)
    (chain : CipherBlock) (blocks : List CipherBlock) :
    decryptBlocks cipher chain (encryptBlocks cipher chain blocks) = blocks := by
  induction blocks generalizing chain with
  | nil => rfl
  | cons b rest ih =>
    rw [encryptBlocks, decryptBlocks, inverse.decrypt_encrypt, CipherBlock.xor_xor_cancel, ih]

end Cbc

/-! ## Padding -/

namespace Padding

theorem unpad?_append_replicate (bytes : Bytes) {n : Nat} (hpos : 1 ≤ n) (hle : n ≤ 16) :
    unpad? (bytes ++ List.replicate n (UInt8.ofNat n)) = some bytes := by
  have hlast : (bytes ++ List.replicate n (UInt8.ofNat n)).getLast? = some (UInt8.ofNat n) := by
    rw [List.getLast?_append_of_ne_nil _ (by simp; omega), List.getLast?_replicate,
      if_neg (by omega)]
  have hnat : (UInt8.ofNat n).toNat = n := by
    rw [UInt8.toNat_ofNat']
    omega
  have hsize : (bytes ++ List.replicate n (UInt8.ofNat n)).length - n = bytes.length := by
    rw [List.length_append, List.length_replicate]
    omega
  have hn : n ≤ (bytes ++ List.replicate n (UInt8.ofNat n)).length := by
    rw [List.length_append, List.length_replicate]
    omega
  simp only [unpad?, hlast, hnat, hsize, List.drop_left, List.take_left, hpos, hn, and_self,
    ↓reduceIte]

/-- The blocks of a padded plaintext: whole blocks of the plaintext, and one
block with what is left of it and the padding. -/
theorem ofBytesAll_pad (plain : Bytes) :
    ∃ (init : List CipherBlock) (block : CipherBlock) (last : Bytes),
      CipherBlock.ofBytesAll (pad plain) = init ++ [block] ∧
        plain = CipherBlock.toBytesAll init ++ last ∧ unpad? block.toList = some last := by
  generalize hlast : plain.drop (plain.length / 16 * 16) = last
  have hlen : last.length = plain.length % 16 := by
    rw [← hlast, List.length_drop]
    omega
  have hamount : 16 - last.length = amount plain.length := by
    rw [hlen, amount]
  have hfull : (last ++ List.replicate (amount plain.length)
      (UInt8.ofNat (amount plain.length))).length = 16 := by
    rw [List.length_append, List.length_replicate]
    omega
  have hinit : (plain.take (plain.length / 16 * 16)).length % 16 = 0 := by
    rw [List.length_take]
    omega
  refine ⟨CipherBlock.ofBytesAll (plain.take (plain.length / 16 * 16)),
    CipherBlock.ofBytes _ hfull, last, ?_, ?_, ?_⟩
  · rw [← CipherBlock.ofBytesAll_of_length hfull, ← CipherBlock.ofBytesAll_append _ _ hinit,
      ← List.append_assoc, ← hlast, List.take_append_drop, pad]
  · rw [CipherBlock.toBytesAll_ofBytesAll _ hinit, ← hlast, List.take_append_drop]
  · exact unpad?_append_replicate last (amount_pos _) (amount_le _)

end Padding

/-! ## Pieces -/

namespace Decryptor

theorem ready_le (n : Nat) : ready n ≤ n := by
  unfold ready
  omega

theorem ready_mod (n : Nat) : ready n % 16 = 0 := by
  unfold ready
  omega

/-- What is ready of the rest and a further piece. -/
theorem ready_add (n m : Nat) : ready (n + m) = ready n + ready (n - ready n + m) := by
  unfold ready
  omega

/-- Two pieces in a row give what the two give as one piece: the first makes the front of the
whole certain, and what it leaves pending waits for the second. -/
theorem update_append (d : Decryptor) (a b : Bytes) :
    d.update (a ++ b) =
      ((d.update a).1 ++ ((d.update a).2.update b).1, ((d.update a).2.update b).2) := by
  simp only [update, ← List.append_assoc]
  generalize d.pending ++ a = input
  obtain ⟨front, back, rfl, hfront⟩ :
      ∃ front back, input = front ++ back ∧ front.length = ready input.length :=
    ⟨_, _, (List.take_append_drop (ready input.length) input).symm,
      List.length_take_of_le (ready_le _)⟩
  have hready : ready (front ++ back ++ b).length = front.length + ready (back ++ b).length := by
    rw [List.length_append, ready_add, ← hfront]
    simp only [List.length_append, Nat.add_sub_cancel_left]
  have hmod : front.length % 16 = 0 := hfront ▸ ready_mod _
  rw [hready, ← hfront, List.take_left, List.drop_left, List.append_assoc, List.take_append,
    List.drop_append, List.take_of_length_le (by omega), List.drop_of_length_le (by omega),
    Nat.add_sub_cancel_left, List.nil_append, CipherBlock.ofBytesAll_append _ _ hmod,
    Cbc.decryptBlocks_append, CipherBlock.toBytesAll_append, Cbc.lastChain_append]

@[simp] theorem update_start_nil (k : CipherKey) : (start k).update [] = ([], start k) := by
  simp [update, start, ready, Cbc.decryptBlocks, Cbc.lastChain]

/-- What a decryptor has handed out and what it keeps after whole blocks: the
last one is kept back. -/
theorem update_start_toBytesAll (k : CipherKey) (init : List CipherBlock) (last : CipherBlock) :
    (start k).update (CipherBlock.toBytesAll (init ++ [last])) =
      (CipherBlock.toBytesAll (Cbc.decryptBlocks k.cipher k.ivBlock init),
        ⟨k.cipher, Cbc.lastChain k.ivBlock init, last.toList⟩) := by
  have hready : ready (CipherBlock.toBytesAll (init ++ [last])).length =
      (CipherBlock.toBytesAll init).length := by
    simp only [CipherBlock.length_toBytesAll, List.length_append, List.length_singleton, ready]
    omega
  simp only [update, start, List.nil_append]
  rw [hready, CipherBlock.toBytesAll_append, List.take_left, List.drop_left,
    CipherBlock.ofBytesAll_toBytesAll, CipherBlock.toBytesAll_cons, CipherBlock.toBytesAll_nil,
    List.append_nil]

/-- The end of a decryption that kept one block. -/
theorem finish_block (cipher : BlockCipher) (chain block : CipherBlock) :
    finish ⟨cipher, chain, block.toList⟩ =
      match Padding.unpad? (CipherBlock.xor (cipher.decrypt block) chain).toList with
      | some plain => .ok plain
      | none => .error (.decryption "bad padding: Unpad Error") := by
  let answer (last : CipherBlock) : Except Failure Bytes :=
    match Padding.unpad? (CipherBlock.xor (cipher.decrypt last) chain).toList with
    | some plain => .ok plain
    | none => .error (.decryption "bad padding: Unpad Error")
  have finished : finish ⟨cipher, chain, block.toList⟩ =
      answer (CipherBlock.ofBytes block.toList block.length_toList) := dif_pos block.length_toList
  exact finished.trans (congrArg answer (CipherBlock.ofBytes_toList block _))

end Decryptor

/-! ## The stored form -/

namespace CipherKey

/-- The cipher under every key can be undone. -/
theorem cipher_inverse (k : CipherKey) : k.cipher.Inverse := by
  unfold cipher
  cases k.suite with
  | aes128 => exact Aes.withRoundKeys_inverse (Aes.roundKeys 4 10 k.key)
  | aes256 => exact Aes.withRoundKeys_inverse (Aes.roundKeys 8 14 k.key)

/-- The one-shot form, by the pieces of an incremental one. -/
theorem decrypt_eq_ok_iff {k : CipherKey} {stored plain : Bytes} :
    k.decrypt stored = .ok plain ↔
      ∃ last, ((Decryptor.start k).update stored).2.finish = .ok last ∧
        plain = ((Decryptor.start k).update stored).1 ++ last := by
  unfold decrypt
  cases h : ((Decryptor.start k).update stored).2.finish with
  | error e => simp [bind, Except.bind, h]
  | ok last => simp [bind, Except.bind, h, pure, Except.pure, eq_comm]

/-- What a decryptor hands out before the end of a block is the start of its
plaintext. -/
theorem update_prefix_of_decrypt {k : CipherKey} {read rest plain : Bytes}
    (h : k.decrypt (read ++ rest) = .ok plain) :
    ∃ more, plain = ((Decryptor.start k).update read).1 ++ more := by
  obtain ⟨last, -, hplain⟩ := decrypt_eq_ok_iff.1 h
  rw [Decryptor.update_append, List.append_assoc] at hplain
  exact ⟨_, hplain⟩

/-- Nothing decrypts to a plaintext unless there is something to decrypt. -/
theorem ne_nil_of_decrypt {k : CipherKey} {stored plain : Bytes}
    (h : k.decrypt stored = .ok plain) : stored ≠ [] := by
  rintro rfl
  obtain ⟨last, hfinish, -⟩ := decrypt_eq_ok_iff.1 h
  simp [Decryptor.update, Decryptor.start, Decryptor.finish] at hfinish

/-- What was stored of a plaintext decrypts to it. -/
theorem decrypt_encrypt (k : CipherKey) (plain : Bytes) :
    k.decrypt (k.encrypt plain) = .ok plain := by
  obtain ⟨init, block, last, hblocks, hplain, hunpad⟩ := Padding.ofBytesAll_pad plain
  have hupdate := Decryptor.update_start_toBytesAll k
    (Cbc.encryptBlocks k.cipher k.ivBlock init)
    (k.cipher.encrypt (CipherBlock.xor block
      (Cbc.lastChain k.ivBlock (Cbc.encryptBlocks k.cipher k.ivBlock init))))
  have hstored : k.encrypt plain = CipherBlock.toBytesAll
      (Cbc.encryptBlocks k.cipher k.ivBlock init ++
        [k.cipher.encrypt (CipherBlock.xor block
          (Cbc.lastChain k.ivBlock (Cbc.encryptBlocks k.cipher k.ivBlock init)))]) := by
    rw [encrypt, Cbc.encrypt, hblocks, Cbc.encryptBlocks_append]
    rfl
  rw [← hstored, Cbc.decryptBlocks_encryptBlocks k.cipher_inverse] at hupdate
  refine decrypt_eq_ok_iff.2 ⟨last, ?_, ?_⟩
  · rw [hupdate, Decryptor.finish_block, k.cipher_inverse.decrypt_encrypt,
      CipherBlock.xor_xor_cancel, hunpad]
  · rw [hupdate, hplain]

end CipherKey

/-! ## Lengths -/

/-- Padding is never empty. -/
theorem Padding.length_of_unpad? {block plain : Bytes} (unpadded : unpad? block = some plain) :
    plain.length < block.length := by
  unfold unpad? at unpadded
  split at unpadded
  · cases unpadded
  · dsimp only at unpadded
    split at unpadded
    · rename_i fits
      cases unpadded
      rw [List.length_take]
      omega
    · cases unpadded

namespace Decryptor

theorem ready_mono {m n : Nat} (le : m ≤ n) : ready m ≤ ready n := by
  unfold ready
  exact Nat.mul_le_mul_right 16 (Nat.div_le_div_right (Nat.sub_le_sub_right le 1))

/-- What an update hands out is what was ready. -/
theorem length_update (d : Decryptor) (piece : Bytes) :
    (d.update piece).1.length = ready (d.pending.length + piece.length) := by
  have whole : ((d.pending ++ piece).take (ready (d.pending ++ piece).length)).length % 16 = 0 := by
    rw [List.length_take_of_le (ready_le _)]
    exact ready_mod _
  have blocks := congrArg List.length (CipherBlock.toBytesAll_ofBytesAll _ whole)
  rw [CipherBlock.length_toBytesAll, List.length_take_of_le (ready_le _)] at blocks
  simp only [update, CipherBlock.length_toBytesAll, Cbc.length_decryptBlocks]
  rw [blocks, List.length_append]

theorem length_pending_update (d : Decryptor) (piece : Bytes) :
    (d.update piece).2.pending.length =
      d.pending.length + piece.length - ready (d.pending.length + piece.length) := by
  simp only [update, List.length_drop, List.length_append]

/-- The end of a decryption is a part of the one block that was kept back. -/
theorem length_of_finish {d : Decryptor} {last : Bytes} (finished : d.finish = .ok last) :
    d.pending.length = 16 ∧ last.length < 16 := by
  unfold finish at finished
  split at finished
  · rename_i kept
    refine ⟨kept, ?_⟩
    dsimp only at finished
    split at finished
    · rename_i plain unpadded
      cases finished
      have shorter := Padding.length_of_unpad? unpadded
      rwa [Vector.length_toList] at shorter
    · cases finished
  · cases finished

end Decryptor

namespace CipherKey

/-- The plaintext that is certain once `read` was read. -/
def early (k : CipherKey) (read : Bytes) : Bytes := ((Decryptor.start k).update read).1

variable {k : CipherKey} {read rest stored plain : Bytes}

theorem length_early (k : CipherKey) (read : Bytes) :
    (k.early read).length = Decryptor.ready read.length := by
  rw [early, Decryptor.length_update]
  simp [Decryptor.start]

theorem early_nil (k : CipherKey) : k.early [] = [] := by
  rw [early, Decryptor.update_start_nil]

theorem early_append (k : CipherKey) (read piece : Bytes) :
    k.early (read ++ piece) =
      k.early read ++ (((Decryptor.start k).update read).2.update piece).1 := by
  rw [early, Decryptor.update_append]
  rfl

/-- A block that decrypts ends in one block of padding, at least in part. -/
theorem length_of_decrypt (opened : k.decrypt stored = .ok plain) :
    stored.length % 16 = 0 ∧ plain.length < stored.length ∧ stored.length ≤ plain.length + 16 := by
  obtain ⟨last, finished, rfl⟩ := decrypt_eq_ok_iff.1 opened
  obtain ⟨kept, short⟩ := Decryptor.length_of_finish finished
  rw [Decryptor.length_pending_update] at kept
  rw [List.length_append, Decryptor.length_update]
  simp only [Decryptor.start, List.length_nil, Nat.zero_add] at kept ⊢
  have mod := Decryptor.ready_mod stored.length
  omega

end CipherKey

end StreamGate
