/-!
# Byte strings

A byte string is a list of bytes.  This module holds the few views of one
that the rest of the library shares: the text it spells, its pieces of a fixed
length, and the little-endian bytes of a number.

* `Bytes.ofText` and `Bytes.toText?` move between text and its UTF-8 form.
* `Bytes.pieces` cuts a byte string into pieces of a given length, of which
  only the last may be shorter (`flatten_pieces`).
* `Bytes.littleEndian` and `Bytes.toNat` are the two directions of the
  fixed-width number format.
-/

namespace StreamGate

/-- A byte string. -/
abbrev Bytes := List UInt8

namespace Bytes

/-- The UTF-8 bytes of a text. -/
def ofText (text : String) : Bytes := text.toUTF8.toList

/-- The text that a byte string spells, if it is UTF-8. -/
def toText? (bytes : Bytes) : Option String := String.fromUTF8? ⟨bytes.toArray⟩

/-- A text of one-byte characters has as many bytes as characters. -/
theorem utf8ByteSize_ofList {chars : List Char} (h : ∀ c ∈ chars, c.utf8Size = 1) :
    (String.ofList chars).utf8ByteSize = chars.length := by
  rw [← String.size_toByteArray, String.toByteArray_ofList]
  induction chars with
  | nil => rfl
  | cons c rest ih =>
    rw [List.utf8Encode_cons, ByteArray.size_append, ih fun c hc => h c (by simp [hc])]
    simp [h c (by simp), List.utf8Encode, Nat.add_comm]

/-- Cuts a byte string into pieces of `size` bytes; the last piece holds what
is left.  A `size` of zero counts as one. -/
def pieces (size : Nat) (bytes : Bytes) : List Bytes :=
  if bytes.isEmpty then []
  else bytes.take (max 1 size) :: pieces size (bytes.drop (max 1 size))
termination_by bytes.length
decreasing_by
  rename_i h
  have : bytes.length ≠ 0 := by simpa [List.length_eq_zero_iff] using h
  simp only [List.length_drop]
  omega

@[simp] theorem pieces_nil (size : Nat) : pieces size [] = [] := by
  rw [pieces]; rfl

/-- Cutting loses nothing. -/
@[simp] theorem flatten_pieces (size : Nat) (bytes : Bytes) :
    (pieces size bytes).flatten = bytes := by
  fun_induction pieces size bytes with
  | case1 bytes h => simp_all
  | case2 bytes h ih => simp [ih]

/-- The `width` bytes of a number, lowest first. -/
def littleEndian : (width n : Nat) → Bytes
  | 0, _ => []
  | width + 1, n => UInt8.ofNat n :: littleEndian width (n / 256)

@[simp] theorem length_littleEndian (width n : Nat) : (littleEndian width n).length = width := by
  induction width generalizing n with
  | zero => rfl
  | succ width ih => simp [littleEndian, ih]

/-- The number whose bytes, lowest first, are given. -/
def toNat (bytes : Bytes) : Nat := bytes.foldr (fun b n => b.toNat + 256 * n) 0

end Bytes

end StreamGate
