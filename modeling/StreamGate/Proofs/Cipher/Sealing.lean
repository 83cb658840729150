import StreamGate.Proofs.Cipher.Decryption

/-!
# Which ciphertexts there are

Decryption inverts encryption in both directions: a byte string decrypts to a plaintext exactly
if it is the stored form of that plaintext.  All others are refused, and `CipherKey.Refused`
says which they are and in which words.

* `Padding.unpad?_eq_some_iff`: a block has padding to take off exactly if it ends in padding.
* `Cbc.encryptBlocks_decryptBlocks`: what is decrypted can be encrypted again.
* `CipherKey.decrypt_toBytesAll`: decryption of whole blocks.
* `CipherKey.decrypts_only_encrypted`: all of it together.
-/

namespace StreamGate

/-! ## Padding -/

namespace Padding

/-- A block ends in padding: one to sixteen bytes that each hold their number. -/
def Ends (block plain : Bytes) : Prop :=
  ∃ n, 1 ≤ n ∧ n ≤ 16 ∧ block = plain ++ List.replicate n (UInt8.ofNat n)

/-- Padding is taken off a block exactly if it ends in padding. -/
theorem unpad?_eq_some_iff {block plain : Bytes} (whole : block.length = 16) :
    unpad? block = some plain ↔ Ends block plain := by
  constructor
  · intro unpadded
    unfold unpad? at unpadded
    split at unpadded
    · cases unpadded
    · rename_i last _
      simp only [Option.ite_none_right_eq_some, Option.some.injEq] at unpadded
      obtain ⟨⟨positive, fits, same⟩, rfl⟩ := unpadded
      refine ⟨last.toNat, positive, by omega, ?_⟩
      rw [UInt8.ofNat_toNat, ← same, List.take_append_drop]
  · rintro ⟨n, positive, fits, rfl⟩
    exact unpad?_append_replicate plain positive fits

/-- Padding depends on what is left behind the whole blocks. -/
theorem pad_append {a : Bytes} (whole : a.length % 16 = 0) (b : Bytes) :
    pad (a ++ b) = a ++ pad b := by
  have same : amount (a ++ b).length = amount b.length := by
    rw [List.length_append]
    unfold amount
    omega
  rw [pad, same, pad, List.append_assoc]

/-- A block that ends in padding is the padded form of what is before it. -/
theorem Ends.pad_eq {block plain : Bytes} (ends : Ends block plain) (whole : block.length = 16) :
    pad plain = block := by
  obtain ⟨n, positive, fits, rfl⟩ := ends
  rw [List.length_append, List.length_replicate] at whole
  have same : amount plain.length = n := by
    unfold amount
    omega
  rw [pad, same]

end Padding

/-! ## Whole blocks -/

namespace CipherBlock

/-- Bytes that are whole blocks, at least one of them. -/
theorem eq_toBytesAll {bytes : Bytes} (nonempty : bytes ≠ []) (whole : bytes.length % 16 = 0) :
    ∃ init last, bytes = toBytesAll (init ++ [last]) := by
  have back := toBytesAll_ofBytesAll bytes whole
  rcases List.eq_nil_or_concat (ofBytesAll bytes) with none | ⟨init, last, blocks⟩
  · rw [none, toBytesAll_nil] at back
    exact absurd back.symm nonempty
  · exact ⟨init, last, by rw [← List.concat_eq_append, ← blocks, back]⟩

theorem length_ofBytesAll {bytes : Bytes} (whole : bytes.length % 16 = 0) :
    (ofBytesAll bytes).length = bytes.length / 16 := by
  have length := congrArg List.length (toBytesAll_ofBytesAll bytes whole)
  rw [length_toBytesAll] at length
  omega

end CipherBlock

namespace Cbc

/-- What is decrypted can be encrypted again. -/
theorem encryptBlocks_decryptBlocks {cipher : BlockCipher} (inverse : cipher.Inverse)
    (chain : CipherBlock) (blocks : List CipherBlock) :
    encryptBlocks cipher chain (decryptBlocks cipher chain blocks) = blocks := by
  induction blocks generalizing chain with
  | nil => rfl
  | cons b rest ih =>
    rw [decryptBlocks, encryptBlocks, CipherBlock.xor_xor_cancel, inverse.encrypt_decrypt, ih]

end Cbc

/-! ## Stored blocks -/

namespace CipherKey

variable {k : CipherKey}

/-- The plaintext of the last block of a ciphertext, with its padding. -/
def lastPlain (k : CipherKey) (init : List CipherBlock) (last : CipherBlock) : Bytes :=
  (CipherBlock.xor (k.cipher.decrypt last) (Cbc.lastChain k.ivBlock init)).toList

theorem length_lastPlain (k : CipherKey) (init : List CipherBlock) (last : CipherBlock) :
    (k.lastPlain init last).length = 16 := Vector.length_toList

/-- Decryption of whole blocks comes down to the padding of the last one. -/
theorem decrypt_toBytesAll (k : CipherKey) (init : List CipherBlock) (last : CipherBlock) :
    k.decrypt (CipherBlock.toBytesAll (init ++ [last])) =
      match Padding.unpad? (k.lastPlain init last) with
      | some rest =>
        .ok (CipherBlock.toBytesAll (Cbc.decryptBlocks k.cipher k.ivBlock init) ++ rest)
      | none => .error (.decryption "bad padding: Unpad Error") := by
  rw [decrypt, Decryptor.update_start_toBytesAll]
  simp only [Decryptor.finish_block, lastPlain]
  cases Padding.unpad? _ <;> rfl

/-- What is not made of whole blocks, one at least, leaves no last block to decrypt. -/
theorem decrypt_of_ragged {stored : Bytes} (ragged : stored = [] ∨ stored.length % 16 ≠ 0) :
    k.decrypt stored =
      .error (.decryption s!"wrong final block length: {stored.length % 16}") := by
  have kept : ((Decryptor.start k).update stored).2.pending.length = stored.length % 16 := by
    rw [Decryptor.length_pending_update]
    simp only [Decryptor.start, List.length_nil, Nat.zero_add, Decryptor.ready]
    rcases ragged with rfl | ragged
    · rfl
    · omega
  have refused : ((Decryptor.start k).update stored).2.finish = _ := dif_neg (by omega)
  rw [kept] at refused
  simp only [decrypt, bind, Except.bind, refused]

/-- The stored form of a plaintext is as long as the plaintext with its padding. -/
theorem length_encrypt (k : CipherKey) (plain : Bytes) :
    (k.encrypt plain).length = 16 * (plain.length / 16 + 1) := by
  have whole : (Padding.pad plain).length % 16 = 0 := by
    rw [Padding.length_pad]
    omega
  rw [encrypt, Cbc.encrypt, CipherBlock.length_toBytesAll, Cbc.length_encryptBlocks,
    CipherBlock.length_ofBytesAll whole, Padding.length_pad]
  omega

/-- The blocks of a padded plaintext are those that its ciphertext decrypts to. -/
theorem encrypt_of_pad {plain : Bytes} {blocks : List CipherBlock}
    (padded : Padding.pad plain =
      CipherBlock.toBytesAll (Cbc.decryptBlocks k.cipher k.ivBlock blocks)) :
    k.encrypt plain = CipherBlock.toBytesAll blocks := by
  rw [encrypt, Cbc.encrypt, padded, CipherBlock.ofBytesAll_toBytesAll,
    Cbc.encryptBlocks_decryptBlocks k.cipher_inverse]

/-- What decrypts to a plaintext is the stored form of it. -/
theorem encrypt_of_decrypt {stored plain : Bytes} (opened : k.decrypt stored = .ok plain) :
    k.encrypt plain = stored := by
  by_cases ragged : stored = [] ∨ stored.length % 16 ≠ 0
  · rw [decrypt_of_ragged ragged] at opened
    cases opened
  · rw [not_or, not_not] at ragged
    obtain ⟨init, last, rfl⟩ := CipherBlock.eq_toBytesAll ragged.1 ragged.2
    apply encrypt_of_pad
    rw [decrypt_toBytesAll] at opened
    cases unpadded : Padding.unpad? (k.lastPlain init last) with
    | none =>
      rw [unpadded] at opened
      cases opened
    | some rest =>
      rw [unpadded] at opened
      cases opened
      have length := k.length_lastPlain init last
      have ends := (Padding.unpad?_eq_some_iff length).1 unpadded
      have whole : (CipherBlock.toBytesAll
          (Cbc.decryptBlocks k.cipher k.ivBlock init)).length % 16 = 0 := by
        rw [CipherBlock.length_toBytesAll]
        omega
      rw [Padding.pad_append whole, ends.pad_eq length, Cbc.decryptBlocks_append,
        CipherBlock.toBytesAll_append]
      exact congrArg _ (List.append_nil _).symm

/-- What is stored is the stored form of no plaintext, and is refused in these words. -/
inductive Refused (k : CipherKey) : Bytes → String → Prop
  /-- There is nothing, or not only whole blocks. -/
  | ragged {stored : Bytes} (ragged : stored = [] ∨ stored.length % 16 ≠ 0) :
      Refused k stored s!"wrong final block length: {stored.length % 16}"
  /-- The last block does not end in padding. -/
  | unpadded {init : List CipherBlock} {last : CipherBlock}
      (bad : ∀ plain, ¬ Padding.Ends (k.lastPlain init last) plain) :
      Refused k (CipherBlock.toBytesAll (init ++ [last])) "bad padding: Unpad Error"

theorem Refused.decrypt_eq {stored : Bytes} {detail : String} (refused : k.Refused stored detail) :
    k.decrypt stored = .error (.decryption detail) := by
  cases refused with
  | ragged ragged => exact decrypt_of_ragged ragged
  | @unpadded init last bad =>
    have none : Padding.unpad? (k.lastPlain init last) = none :=
      Option.eq_none_iff_forall_ne_some.2 fun plain unpadded =>
        bad plain ((Padding.unpad?_eq_some_iff (k.length_lastPlain init last)).1 unpadded)
    rw [decrypt_toBytesAll, none]

/-- A byte string has a plaintext or is refused. -/
theorem decrypts_or_refused (k : CipherKey) (stored : Bytes) :
    (∃ plain, k.decrypt stored = .ok plain) ∨ ∃ detail, k.Refused stored detail := by
  by_cases ragged : stored = [] ∨ stored.length % 16 ≠ 0
  · exact .inr ⟨_, .ragged ragged⟩
  · rw [not_or, not_not] at ragged
    obtain ⟨init, last, rfl⟩ := CipherBlock.eq_toBytesAll ragged.1 ragged.2
    by_cases padded : ∃ plain, Padding.Ends (k.lastPlain init last) plain
    · obtain ⟨rest, ends⟩ := padded
      refine .inl
        ⟨CipherBlock.toBytesAll (Cbc.decryptBlocks k.cipher k.ivBlock init) ++ rest, ?_⟩
      rw [decrypt_toBytesAll,
        (Padding.unpad?_eq_some_iff (k.length_lastPlain init last)).2 ends]
    · exact .inr ⟨_, .unpadded (not_exists.1 padded)⟩

/-- Decryption inverts encryption and accepts nothing else.

* Every plaintext has a stored form, of whole blocks with one byte of padding at least.
* A byte string decrypts to a plaintext exactly if it is the stored form of it.
* A byte string is the stored form of a plaintext or it is refused: because it is not made of
  whole blocks, one at least, or because its last block does not end in padding.
* Nothing else is refused, and in no other words. -/
theorem decrypts_only_encrypted (k : CipherKey) :
    (∀ plain, ∃ stored, k.encryptChecked plain = .ok stored ∧
      stored.length = 16 * (plain.length / 16 + 1)) ∧
    (∀ plain stored, k.decrypt stored = .ok plain ↔ k.encryptChecked plain = .ok stored) ∧
    (∀ stored, (∃ plain, k.encryptChecked plain = .ok stored) ∨
      ∃ detail, k.Refused stored detail) ∧
    (∀ stored e, k.decrypt stored = .error e ↔
      ∃ detail, e = .decryption detail ∧ k.Refused stored detail) := by
  have inverts : ∀ plain stored,
      k.decrypt stored = .ok plain ↔ k.encryptChecked plain = .ok stored := by
    intro plain stored
    rw [encryptChecked_eq, Except.ok.injEq]
    refine ⟨encrypt_of_decrypt, fun sealed => ?_⟩
    rw [← sealed, decrypt_encrypt]
  refine ⟨fun plain => ⟨_, k.encryptChecked_eq plain, k.length_encrypt plain⟩, inverts,
    fun stored => ?_, fun stored e => ⟨fun failed => ?_, ?_⟩⟩
  · exact (k.decrypts_or_refused stored).imp_left fun ⟨plain, opened⟩ =>
      ⟨plain, (inverts plain stored).1 opened⟩
  · rcases k.decrypts_or_refused stored with ⟨plain, opened⟩ | ⟨detail, refused⟩
    · rw [failed] at opened
      cases opened
    · rw [refused.decrypt_eq] at failed
      cases failed
      exact ⟨detail, rfl, refused⟩
  · rintro ⟨detail, rfl, refused⟩
    exact refused.decrypt_eq

end CipherKey

end StreamGate
