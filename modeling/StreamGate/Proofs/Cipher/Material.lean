import StreamGate.Cipher.Decryptor
import StreamGate.Proofs.Bytes.Hexadecimal

/-!
# Keys from hexadecimal text

Key material is two texts, one for the key and one for the initial vector.  Both are read
before either is measured, and of each the front is used, as much of it as the cipher needs.
So nothing that is written behind that, and no letter's case, makes any difference.

* `CipherKey.Made`: what is made of key material, with one case for each thing that can be
  wrong with it.
* `CipherKey.ofHex_eq_iff`: that is what is made of it.
* `CipherKey.front_decides`: both together, and what follows for blocks under such keys.
-/

namespace StreamGate.CipherKey

open Hex (Spells SameButCase)

/-- What is made of key material for a suite.  Of what is wrong with it, the first counts. -/
inductive Made (suite : CipherSuite) (keyHex ivHex : String) : Except Failure CipherKey → Prop
  | keyNotHex {fault : Hex.Fault} (found : fault.Found (Bytes.ofText keyHex)) :
    Made suite keyHex ivHex (.error (hexFailure fault))
  | ivNotHex {k : Bytes} {fault : Hex.Fault} (key : Spells k keyHex)
    (found : fault.Found (Bytes.ofText ivHex)) : Made suite keyHex ivHex (.error (hexFailure fault))
  | keyShort {k i : Bytes} (key : Spells k keyHex) (iv : Spells i ivHex)
    (short : k.length < suite.keyLength) :
    Made suite keyHex ivHex (.error (.invalidKeyLength suite.keyLength k.length))
  | ivShort {k i : Bytes} (key : Spells k keyHex) (iv : Spells i ivHex)
    (long : suite.keyLength ≤ k.length) (short : i.length < 16) :
    Made suite keyHex ivHex (.error (.invalidKeyLength 16 i.length))
  | whole {k i : Bytes} {made : CipherKey} (key : Spells k keyHex) (iv : Spells i ivHex)
    (longKey : suite.keyLength ≤ k.length) (longIv : 16 ≤ i.length)
    (built : ofBytes suite (k.take suite.keyLength) (i.take 16) = .ok made) :
    Made suite keyHex ivHex (.ok made)

variable {suite : CipherSuite} {version : UInt32} {keyHex ivHex text : String} {k i : Bytes}

theorem decodeHex_of_spells (spells : Spells k text) : decodeHex text = .ok k := by
  rw [decodeHex, Hex.decode_eq_ok_iff.2 spells]

theorem decodeHex_of_found {fault : Hex.Fault} (found : fault.Found (Bytes.ofText text)) :
    decodeHex text = .error (hexFailure fault) := by
  rw [decodeHex, Hex.decode_eq_error_iff.2 found]

/-- Every text writes bytes, or there is something wrong with it. -/
theorem spells_or_found (text : String) :
    (∃ bytes, Spells bytes text) ∨ ∃ fault : Hex.Fault, fault.Found (Bytes.ofText text) := by
  cases read : Hex.decode text with
  | ok bytes => exact .inl ⟨bytes, Hex.decode_eq_ok_iff.1 read⟩
  | error fault => exact .inr ⟨fault, Hex.decode_eq_error_iff.1 read⟩

/-- A key is built of the fronts of what is long enough. -/
theorem ofBytes_take (longKey : suite.keyLength ≤ k.length) (longIv : 16 ≤ i.length) :
    ∃ made, ofBytes suite (k.take suite.keyLength) (i.take 16) = .ok made := by
  have key : (k.take suite.keyLength).length = suite.keyLength := List.length_take_of_le longKey
  have iv : (i.take 16).length = 16 := List.length_take_of_le longIv
  exact ⟨_, by rw [ofBytes, dif_pos key, dif_pos iv]⟩

/-- What two texts that are hexadecimal come to. -/
theorem ofHex_of_spells (key : Spells k keyHex) (iv : Spells i ivHex) :
    ofHex version keyHex ivHex =
      let suite := CipherSuite.ofVersion version
      if k.length < suite.keyLength then .error (.invalidKeyLength suite.keyLength k.length)
      else if i.length < 16 then .error (.invalidKeyLength 16 i.length)
      else ofBytes suite (k.take suite.keyLength) (i.take 16) := by
  unfold ofHex
  rw [decodeHex_of_spells key, decodeHex_of_spells iv]
  simp only [bind, Except.bind]
  split_ifs <;> rfl

/-- Something is made of any key material. -/
theorem exists_made (suite : CipherSuite) (keyHex ivHex : String) :
    ∃ r, Made suite keyHex ivHex r := by
  rcases spells_or_found keyHex with ⟨k, key⟩ | ⟨fault, found⟩
  · rcases spells_or_found ivHex with ⟨i, iv⟩ | ⟨fault, found⟩
    · rcases Nat.lt_or_ge k.length suite.keyLength with shortKey | longKey
      · exact ⟨_, .keyShort key iv shortKey⟩
      · rcases Nat.lt_or_ge i.length 16 with shortIv | longIv
        · exact ⟨_, .ivShort key iv longKey shortIv⟩
        · obtain ⟨made, built⟩ := ofBytes_take longKey longIv
          exact ⟨_, .whole key iv longKey longIv built⟩
    · exact ⟨_, .ivNotHex key found⟩
  · exact ⟨_, .keyNotHex found⟩

theorem Made.eq {r : Except Failure CipherKey} (made : Made (.ofVersion version) keyHex ivHex r) :
    ofHex version keyHex ivHex = r := by
  cases made with
  | keyNotHex found =>
    unfold ofHex
    rw [decodeHex_of_found found]
    rfl
  | ivNotHex key found =>
    unfold ofHex
    rw [decodeHex_of_spells key, decodeHex_of_found found]
    rfl
  | keyShort key iv short =>
    rw [ofHex_of_spells key iv]
    exact if_pos short
  | ivShort key iv long short =>
    rw [ofHex_of_spells key iv]
    exact (if_neg (Nat.not_lt_of_le long)).trans (if_pos short)
  | whole key iv longKey longIv built =>
    rw [ofHex_of_spells key iv]
    exact (if_neg (Nat.not_lt_of_le longKey)).trans
      ((if_neg (Nat.not_lt_of_le longIv)).trans built)

theorem ofHex_eq_iff {r : Except Failure CipherKey} :
    ofHex version keyHex ivHex = r ↔ Made (.ofVersion version) keyHex ivHex r := by
  refine ⟨?_, Made.eq⟩
  rintro rfl
  obtain ⟨r, made⟩ := exists_made (.ofVersion version) keyHex ivHex
  rw [made.eq]
  exact made

/-! ## What makes no difference -/

/-- More digits behind material that is long enough, and letters in the other case, give the
same key. -/
theorem ofHex_of_front {keyTail ivTail keyHex' ivHex' : String} {more more' : Bytes}
    {made : CipherKey} (key : Spells k keyHex) (iv : Spells i ivHex)
    (keyMore : Spells more keyTail) (ivMore : Spells more' ivTail)
    (sameKey : SameButCase keyHex' (keyHex ++ keyTail))
    (sameIv : SameButCase ivHex' (ivHex ++ ivTail))
    (ok : ofHex version keyHex ivHex = .ok made) : ofHex version keyHex' ivHex' = .ok made := by
  cases ofHex_eq_iff.1 ok with
  | @whole k' i' _ key' iv' longKey longIv built =>
    obtain rfl := Hex.spells_inj key key'
    obtain rfl := Hex.spells_inj iv iv'
    have sameFront : ∀ {front behind : Bytes} {n : Nat}, n ≤ front.length →
        (front ++ behind).take n = front.take n := fun long => List.take_append_of_le_length long
    refine (Made.whole ((key.append keyMore).recase sameKey) ((iv.append ivMore).recase sameIv)
      (Nat.le_trans longKey ?_) (Nat.le_trans longIv ?_) ?_).eq
    · rw [List.length_append]
      exact Nat.le_add_right ..
    · rw [List.length_append]
      exact Nat.le_add_right ..
    · rw [sameFront longKey, sameFront longIv, built]

/-- What key material comes to, and how much of it counts.

* Keys of the first version are made of 16 bytes and all others of 32.
* What is made of the material follows from what the texts write.
* If both texts write enough, a key is made.  With more digits behind either text, and letters
  in any case, blocks are encrypted and decrypted as before. -/
theorem front_decides (version : UInt32) (keyHex ivHex : String) :
    (CipherSuite.ofVersion version).keyLength = (if version = 1 then 16 else 32) ∧
      (∀ r, ofHex version keyHex ivHex = r ↔ Made (.ofVersion version) keyHex ivHex r) ∧
      ∀ k i, Spells k keyHex → Spells i ivHex →
        (CipherSuite.ofVersion version).keyLength ≤ k.length → 16 ≤ i.length →
        ∃ made, ofHex version keyHex ivHex = .ok made ∧
          ∀ more more' keyTail ivTail keyHex' ivHex', Spells more keyTail → Spells more' ivTail →
            SameButCase keyHex' (keyHex ++ keyTail) → SameButCase ivHex' (ivHex ++ ivTail) →
            ∃ made', ofHex version keyHex' ivHex' = .ok made' ∧
              ∀ data, made'.encryptChecked data = made.encryptChecked data ∧
                made'.decrypt data = made.decrypt data := by
  refine ⟨?_, fun r => ofHex_eq_iff, fun k i key iv longKey longIv => ?_⟩
  · unfold CipherSuite.ofVersion
    split <;> rfl
  · obtain ⟨made, built⟩ := ofBytes_take longKey longIv
    have ok := (Made.whole key iv longKey longIv built).eq
    refine ⟨made, ok, ?_⟩
    intro more more' keyTail ivTail keyHex' ivHex' keyMore ivMore sameKey sameIv
    exact ⟨made, ofHex_of_front key iv keyMore ivMore sameKey sameIv ok, fun data => ⟨rfl, rfl⟩⟩

/-- A longer key in capital letters. -/
theorem front_decides_of_capitals :
    ∃ made made', ofHex 1 "00112233445566778899aabbccddeeff" "000102030405060708090a0b0c0d0e0f" =
        .ok made ∧
      ofHex 1 "00112233445566778899AABBCCDDEEFFAB" "000102030405060708090A0b0c0d0e0f10" =
        .ok made' ∧
      ∀ data, made'.encryptChecked data = made.encryptChecked data ∧
        made'.decrypt data = made.decrypt data := by
  obtain ⟨made, ok, others⟩ := (front_decides 1 "00112233445566778899aabbccddeeff"
    "000102030405060708090a0b0c0d0e0f").2.2
    [0x00, 0x11, 0x22, 0x33, 0x44, 0x55, 0x66, 0x77, 0x88, 0x99, 0xaa, 0xbb, 0xcc, 0xdd, 0xee, 0xff]
    [0, 1, 2, 3, 4, 5, 6, 7, 8, 9, 10, 11, 12, 13, 14, 15] (by decide) (by decide) (by decide)
    (by decide)
  obtain ⟨made', ok', same⟩ := others [0xab] [0x10] "ab" "10" "00112233445566778899AABBCCDDEEFFAB"
    "000102030405060708090A0b0c0d0e0f10" (by decide) (by decide) (by decide) (by decide)
  exact ⟨made, made', ok, ok', same⟩

end StreamGate.CipherKey
