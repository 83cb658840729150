import StreamGate.Cipher.BlockCipher

/-!
# AES

The AES block cipher for keys of 16 and 32 bytes.  A block is a square of four
columns of four bytes, written column after column, so byte `4 * c + r` stands
in row `r` of column `c`.

The substitution box is computed from its definition: the inverse in the field
of 256 elements, followed by an affine map.
-/

namespace StreamGate.Aes

/-! ## The field of 256 elements -/

/-- Multiplication by the field's generator `x`. -/
def double (b : UInt8) : UInt8 :=
  if b &&& 0x80 = 0 then b <<< 1 else (b <<< 1) ^^^ 0x1b

/-- The sum of `b` times the powers of `x` that the low bits of `a` select. -/
def mulBits : Nat → (a b : UInt8) → UInt8
  | 0, _, _ => 0
  | n + 1, a, b => (if a &&& 1 = 0 then 0 else b) ^^^ mulBits n (a >>> 1) (double b)

/-- The field product. -/
def mul (a b : UInt8) : UInt8 := mulBits 8 a b

/-- The field power. -/
def power (b : UInt8) : Nat → UInt8
  | 0 => 1
  | n + 1 => mul b (power b n)

/-- The field inverse, with zero for zero. -/
def inverse (b : UInt8) : UInt8 := power b 254

/-! ## The substitution box -/

def rotateLeft (b : UInt8) (n : UInt8) : UInt8 := (b <<< n) ||| (b >>> (8 - n))

/-- The affine map of the substitution box. -/
def affine (b : UInt8) : UInt8 :=
  b ^^^ rotateLeft b 1 ^^^ rotateLeft b 2 ^^^ rotateLeft b 3 ^^^ rotateLeft b 4 ^^^ 0x63

/-- The substitution box. -/
def sbox : Vector UInt8 256 := Vector.ofFn fun i => affine (inverse (UInt8.ofNat i.val))

/-- The inverse substitution box: the place where a byte stands in `sbox`. -/
def inverseSbox : Vector UInt8 256 :=
  Vector.ofFn fun i => UInt8.ofNat ((sbox.toList.idxOf (UInt8.ofNat i.val)))

theorem byte_lt (b : UInt8) : b.toNat < 256 := b.toNat_lt

def substitute (b : UInt8) : UInt8 := sbox.get ⟨b.toNat, byte_lt b⟩
def unsubstitute (b : UInt8) : UInt8 := inverseSbox.get ⟨b.toNat, byte_lt b⟩

/-! ## The key schedule -/

/-- Four bytes, one column. -/
abbrev Column := Vector UInt8 4

/-- One new column of the schedule from the column before it and the column one
key length back. -/
def nextColumn (keyColumns : Nat) (columns : Array Column) : Column :=
  let i := columns.size
  let last := columns.back?.getD (Vector.replicate 4 0)
  let old := columns[i - keyColumns]?.getD (Vector.replicate 4 0)
  let mixed : Column :=
    if i % keyColumns = 0 then
      #v[substitute last[1] ^^^ power 2 (i / keyColumns - 1), substitute last[2],
         substitute last[3], substitute last[0]]
    else if keyColumns > 6 ∧ i % keyColumns = 4 then last.map substitute
    else last
  old.zipWith (· ^^^ ·) mixed

/-- Adds columns to the schedule. -/
def extend (keyColumns : Nat) : (count : Nat) → Array Column → Array Column
  | 0, columns => columns
  | n + 1, columns => extend keyColumns n (columns.push (nextColumn keyColumns columns))

/-- The round keys of a key of `4 * keyColumns` bytes, the first one first. -/
def roundKeys (keyColumns rounds : Nat) (key : Bytes) : List CipherBlock :=
  let start : Array Column :=
    Array.ofFn fun (i : Fin keyColumns) =>
      Vector.ofFn fun (r : Fin 4) => key.getD (4 * i.val + r.val) 0
  let columns := extend keyColumns (4 * (rounds + 1) - keyColumns) start
  List.ofFn fun (i : Fin (rounds + 1)) =>
    Vector.ofFn fun (j : Fin 16) =>
      (columns[4 * i.val + j.val / 4]?.getD (Vector.replicate 4 0))[j.val % 4]

/-! ## Rounds -/

/-- Row `r` moves `r` columns to the left. -/
def shiftRows (s : CipherBlock) : CipherBlock :=
  Vector.ofFn fun (i : Fin 16) => s[(i.val + 4 * (i.val % 4)) % 16]

/-- Row `r` moves `r` columns to the right. -/
def unshiftRows (s : CipherBlock) : CipherBlock :=
  Vector.ofFn fun (i : Fin 16) => s[(i.val + 12 * (i.val % 4)) % 16]

/-- Multiplies every column by the circulant matrix with the given first row. -/
def mixWith (a b c d : UInt8) (s : CipherBlock) : CipherBlock :=
  Vector.ofFn fun (i : Fin 16) =>
    let base := i.val - i.val % 4
    mul a s[base + i.val % 4] ^^^ mul b s[base + (i.val + 1) % 4]
      ^^^ mul c s[base + (i.val + 2) % 4] ^^^ mul d s[base + (i.val + 3) % 4]

def mixColumns : CipherBlock → CipherBlock := mixWith 2 3 1 1
def unmixColumns : CipherBlock → CipherBlock := mixWith 14 11 13 9

/-- The rounds after the first key addition; the last one mixes no columns. -/
def encryptRounds : List CipherBlock → CipherBlock → CipherBlock
  | [], s => s
  | [last], s => CipherBlock.xor (shiftRows (s.map substitute)) last
  | key :: rest, s =>
    encryptRounds rest (CipherBlock.xor (mixColumns (shiftRows (s.map substitute))) key)

/-- Undoes `encryptRounds`, innermost round last. -/
def decryptRounds : List CipherBlock → CipherBlock → CipherBlock
  | [], s => s
  | [last], s => (unshiftRows (CipherBlock.xor s last)).map unsubstitute
  | key :: rest, s =>
    (unshiftRows (unmixColumns (CipherBlock.xor (decryptRounds rest s) key))).map unsubstitute

/-- The cipher under given round keys. -/
def withRoundKeys : List CipherBlock → BlockCipher
  | [] => ⟨id, id⟩
  | first :: rest =>
    { encrypt := fun b => encryptRounds rest (CipherBlock.xor b first)
      decrypt := fun b => CipherBlock.xor (decryptRounds rest b) first }

/-- AES with a key of 16 bytes. -/
def aes128 (key : Bytes) : BlockCipher := withRoundKeys (roundKeys 4 10 key)

/-- AES with a key of 32 bytes. -/
def aes256 (key : Bytes) : BlockCipher := withRoundKeys (roundKeys 8 14 key)

end StreamGate.Aes
