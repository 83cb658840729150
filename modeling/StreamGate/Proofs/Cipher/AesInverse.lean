import Mathlib.Data.Fintype.EquivFin
import Mathlib.Data.List.FinRange
import StreamGate.Proofs.Cipher.ByteField

/-!
# The cipher undoes itself

Each layer of a round has an inverse layer, so decryption under a list of round
keys undoes encryption under the same list, and the other way round.  Nothing
is asked of the round keys.

* `unsubstitute_substitute`: the substitution box is injective, because the
  field inverse and the affine map are.
* `unshiftRows_shiftRows`: rows come back to their places.
* `unmixColumns_mixColumns`: the two circulant matrices are inverse to each
  other.
* `withRoundKeys_inverse`: the whole cipher.
-/

namespace StreamGate.Aes

/-! ## The substitution box -/

/-- The inverse of the affine map. -/
def affineInverse (b : UInt8) : UInt8 :=
  rotateLeft b 1 ^^^ rotateLeft b 3 ^^^ rotateLeft b 6 ^^^ 0x05

theorem affineInverse_affine (b : UInt8) : affineInverse (affine b) = b := by
  revert b
  exact forall_byte (by decide +kernel)

theorem get_ofFn {α : Type} {n : Nat} (f : Fin n → α) (i : Fin n) : (Vector.ofFn f).get i = f i :=
  Vector.getElem_ofFn i.isLt

theorem substitute_eq (b : UInt8) : substitute b = affine (inverse b) := by
  rw [substitute, sbox, get_ofFn, UInt8.ofNat_toNat]

theorem substitute_injective : Function.Injective substitute := by
  intro a b h
  rw [substitute_eq, substitute_eq] at h
  have hinverse : inverse a = inverse b := by
    rw [← affineInverse_affine (inverse a), h, affineInverse_affine]
  rw [← inverse_inverse a, hinverse, inverse_inverse]

/-- The bytes below 256, in order, are different. -/
theorem ofNat_injective : Function.Injective fun i : Fin 256 => UInt8.ofNat i.val := by
  intro i j h
  have hnat := congrArg UInt8.toNat h
  simp only [UInt8.toNat_ofNat'] at hnat
  exact Fin.ext (by omega)

theorem sbox_toList :
    sbox.toList = List.ofFn fun i : Fin 256 => substitute (UInt8.ofNat i.val) := by
  simp only [sbox, Vector.toList_ofFn, substitute_eq]

theorem sbox_nodup : sbox.toList.Nodup := by
  rw [sbox_toList, List.nodup_ofFn]
  exact substitute_injective.comp ofNat_injective

theorem unsubstitute_substitute (b : UInt8) : unsubstitute (substitute b) = b := by
  have hlt : b.toNat < sbox.toList.length := by
    rw [Vector.length_toList]
    exact b.toNat_lt
  have hget : sbox.toList[b.toNat] = substitute b := by
    simp only [sbox_toList, List.getElem_ofFn, UInt8.ofNat_toNat]
  have hidx := sbox_nodup.idxOf_getElem b.toNat hlt
  rw [unsubstitute, inverseSbox, get_ofFn, UInt8.ofNat_toNat, ← hget, hidx, UInt8.ofNat_toNat]

theorem substitute_surjective : Function.Surjective substitute := by
  have hsurjective : Function.Surjective fun i : Fin 256 =>
      (⟨(substitute (UInt8.ofNat i.val)).toNat, UInt8.toNat_lt _⟩ : Fin 256) := by
    apply Finite.injective_iff_surjective.1
    intro i j h
    rw [Fin.mk.injEq, UInt8.toNat_inj] at h
    exact ofNat_injective (substitute_injective h)
  intro b
  obtain ⟨i, hi⟩ := hsurjective ⟨b.toNat, b.toNat_lt⟩
  rw [Fin.mk.injEq, UInt8.toNat_inj] at hi
  exact ⟨UInt8.ofNat i.val, hi⟩

theorem substitute_unsubstitute (b : UInt8) : substitute (unsubstitute b) = b := by
  obtain ⟨a, ha⟩ := substitute_surjective b
  rw [← ha, unsubstitute_substitute]

/-! ## Rows and columns -/

theorem unshiftRows_shiftRows (s : CipherBlock) : unshiftRows (shiftRows s) = s := by
  apply Vector.ext
  intro i hi
  simp only [unshiftRows, shiftRows, Vector.getElem_ofFn]
  exact getElem_congr_idx (by omega)

theorem shiftRows_unshiftRows (s : CipherBlock) : shiftRows (unshiftRows s) = s := by
  apply Vector.ext
  intro i hi
  simp only [unshiftRows, shiftRows, Vector.getElem_ofFn]
  exact getElem_congr_idx (by omega)

/-- Byte `t` after byte `i` in the column of byte `i`, counted in a circle. -/
def around (s : CipherBlock) (i t : Nat) (hi : i < 16) : UInt8 := s[i - i % 4 + (i + t) % 4]

theorem around_zero (s : CipherBlock) (i : Nat) (hi : i < 16) : around s i 0 hi = s[i] :=
  getElem_congr_idx (by omega)

theorem around_add_four (s : CipherBlock) (i t : Nat) (hi : i < 16) :
    around s i (t + 4) hi = around s i t hi :=
  getElem_congr_idx (by omega)

theorem getElem_mixWith (a b c d : UInt8) (s : CipherBlock) (i : Nat) (hi : i < 16) :
    (mixWith a b c d s)[i] =
      mul a (around s i 0 hi) ^^^ mul b (around s i 1 hi) ^^^ mul c (around s i 2 hi)
        ^^^ mul d (around s i 3 hi) := by
  simp only [mixWith, Vector.getElem_ofFn, around, Nat.add_zero]

theorem around_mixWith (a b c d : UInt8) (s : CipherBlock) (i t : Nat) (hi : i < 16) :
    around (mixWith a b c d s) i t hi =
      mul a (around s i t hi) ^^^ mul b (around s i (t + 1) hi) ^^^ mul c (around s i (t + 2) hi)
        ^^^ mul d (around s i (t + 3) hi) := by
  have shift (n : Nat) : around s (i - i % 4 + (i + t) % 4) n (by omega) = around s i (t + n) hi :=
    getElem_congr_idx (by omega)
  rw [around, getElem_mixWith, shift, shift, shift, shift, Nat.add_zero]

/-- Circulant matrices are multiplied by multiplying their first rows in a
circle. -/
theorem mixWith_mixWith (a b c d a' b' c' d' : UInt8) (s : CipherBlock) :
    mixWith a b c d (mixWith a' b' c' d' s) =
      mixWith (mul a a' ^^^ mul b d' ^^^ mul c c' ^^^ mul d b')
        (mul a b' ^^^ mul b a' ^^^ mul c d' ^^^ mul d c')
        (mul a c' ^^^ mul b b' ^^^ mul c a' ^^^ mul d d')
        (mul a d' ^^^ mul b c' ^^^ mul c b' ^^^ mul d a') s := by
  apply Vector.ext
  intro i hi
  rw [getElem_mixWith, getElem_mixWith]
  simp only [around_mixWith, Nat.zero_add, Nat.reduceAdd]
  rw [around_add_four s i 0, around_add_four s i 1, around_add_four s i 2]
  simp only [mul_xor, xor_mul, mul_assoc]
  ac_rfl

theorem mixWith_one (s : CipherBlock) : mixWith 1 0 0 0 s = s := by
  apply Vector.ext
  intro i hi
  simp [getElem_mixWith, around_zero]

theorem unmixColumns_mixColumns (s : CipherBlock) : unmixColumns (mixColumns s) = s := by
  rw [unmixColumns, mixColumns, mixWith_mixWith]
  exact mixWith_one s

theorem mixColumns_unmixColumns (s : CipherBlock) : mixColumns (unmixColumns s) = s := by
  rw [unmixColumns, mixColumns, mixWith_mixWith]
  exact mixWith_one s

/-! ## Rounds -/

theorem map_unsubstitute_map_substitute (s : CipherBlock) :
    (s.map substitute).map unsubstitute = s := by
  apply Vector.ext
  intro i hi
  rw [Vector.getElem_map, Vector.getElem_map, unsubstitute_substitute]

theorem map_substitute_map_unsubstitute (s : CipherBlock) :
    (s.map unsubstitute).map substitute = s := by
  apply Vector.ext
  intro i hi
  rw [Vector.getElem_map, Vector.getElem_map, substitute_unsubstitute]

theorem decryptRounds_encryptRounds (keys : List CipherBlock) (s : CipherBlock) :
    decryptRounds keys (encryptRounds keys s) = s := by
  fun_induction encryptRounds keys s with
  | case1 s => rfl
  | case2 s last =>
    rw [decryptRounds, CipherBlock.xor_xor_cancel, unshiftRows_shiftRows,
      map_unsubstitute_map_substitute]
  | case3 s key rest h ih =>
    rw [decryptRounds, ih, CipherBlock.xor_xor_cancel, unmixColumns_mixColumns,
      unshiftRows_shiftRows, map_unsubstitute_map_substitute]
    exact h

theorem encryptRounds_decryptRounds (keys : List CipherBlock) (s : CipherBlock) :
    encryptRounds keys (decryptRounds keys s) = s := by
  fun_induction decryptRounds keys s with
  | case1 s => rfl
  | case2 s last =>
    rw [encryptRounds, map_substitute_map_unsubstitute, shiftRows_unshiftRows,
      CipherBlock.xor_xor_cancel]
  | case3 s key rest h ih =>
    rw [encryptRounds, map_substitute_map_unsubstitute, shiftRows_unshiftRows,
      mixColumns_unmixColumns, CipherBlock.xor_xor_cancel, ih]
    exact h

/-- The two directions of the cipher undo each other under any round keys. -/
theorem withRoundKeys_inverse (keys : List CipherBlock) : (withRoundKeys keys).Inverse := by
  cases keys with
  | nil => exact ⟨fun _ => rfl, fun _ => rfl⟩
  | cons first rest =>
    constructor
    · intro block
      simp only [withRoundKeys, decryptRounds_encryptRounds, CipherBlock.xor_xor_cancel]
    · intro block
      simp only [withRoundKeys, CipherBlock.xor_xor_cancel, encryptRounds_decryptRounds]

end StreamGate.Aes
