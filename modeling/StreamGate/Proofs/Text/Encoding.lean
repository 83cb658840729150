import Mathlib.Tactic.NormNum
import StreamGate.Bytes

/-!
# Texts as bytes

The bytes of a text are those of its characters, one after the other.  A character of ASCII
is one byte, the one with its number, and the bytes of all other characters lie above ASCII.
So what is asked of single bytes below that can be asked of characters.

* `Bytes.toText?_ofText`: the bytes of a text spell the text.
* `Bytes.ofText_eq_flatMap`: the bytes of a text from those of its characters.
* `Bytes.utf8EncodeChar_of_ascii`, `Bytes.le_of_mem_utf8EncodeChar`: the bytes of a character.
* `Bytes.filter_utf8EncodeChar`: a test that lets all bytes above ASCII pass.
-/

namespace StreamGate.Bytes

theorem toList_loop (bytes : ByteArray) (i : Nat) (seen : List UInt8) :
    ByteArray.toList.loop bytes i seen = seen.reverse ++ bytes.data.toList.drop i := by
  fun_induction ByteArray.toList.loop bytes i seen with
  | case1 i seen here ih =>
    have inside : i < bytes.data.toList.length := here
    have byte : bytes.get! i = bytes.data.toList[i] := getElem!_pos bytes.data i here
    rw [ih, List.drop_eq_getElem_cons inside, byte, List.reverse_cons, List.append_assoc]
    rfl
  | case2 i seen done =>
    rw [List.drop_eq_nil_of_le (Nat.le_of_not_lt done), List.append_nil]

theorem toList_eq (bytes : ByteArray) : bytes.toList = bytes.data.toList := toList_loop bytes 0 []

/-- The bytes of a text spell the text. -/
@[simp] theorem toText?_ofText (text : String) : toText? (ofText text) = some text := by
  have same : (⟨(ofText text).toArray⟩ : ByteArray) = text.toByteArray := by
    rw [ofText, toList_eq]
    rfl
  rw [toText?, same, String.fromUTF8?, dif_pos text.isValidUTF8]
  rfl

@[simp] theorem length_ofText (text : String) : (ofText text).length = text.utf8ByteSize := by
  rw [ofText, toList_eq]
  rfl

/-! ## Character by character -/

/-- The bytes of a text are those of its characters, one after the other. -/
theorem ofText_eq_flatMap (text : String) :
    ofText text = text.toList.flatMap String.utf8EncodeChar := by
  have bytes : text.toByteArray = text.toList.utf8Encode := by
    rw [← String.toByteArray_ofList, String.ofList_toList]
  show text.toByteArray.toList = _
  rw [toList_eq, bytes, List.utf8Encode, List.toList_data_toByteArray]

variable {c : Char}

/-- A character of ASCII is one byte. -/
theorem utf8EncodeChar_of_ascii (ascii : c.toNat < 128) :
    String.utf8EncodeChar c = [UInt8.ofNat c.toNat] := by
  have small : c.val.toNat ≤ 127 := Nat.le_of_lt_succ ascii
  simp only [String.utf8EncodeChar, if_pos small]
  rfl

/-- The bytes of other characters lie above ASCII. -/
theorem le_of_mem_utf8EncodeChar (high : 128 ≤ c.toNat) {b : UInt8}
    (mem : b ∈ String.utf8EncodeChar c) : 128 ≤ b.toNat := by
  have large : ¬ c.val.toNat ≤ 127 := Nat.not_le_of_lt high
  simp only [String.utf8EncodeChar, if_neg large] at mem
  split_ifs at mem
  all_goals
    simp only [List.mem_cons, List.not_mem_nil, or_false] at mem
    rcases mem with rfl | rfl | rfl | rfl
  all_goals
    rw [UInt8.toNat_ofNat']
    omega

/-- A test of bytes that lets everything above ASCII pass keeps a character whole or drops it. -/
theorem filter_utf8EncodeChar {p : UInt8 → Bool} (passes : ∀ b : UInt8, 128 ≤ b.toNat → p b = true)
    {q : Char → Bool} (ascii : c.toNat < 128 → p (UInt8.ofNat c.toNat) = q c)
    (high : 128 ≤ c.toNat → q c = true) :
    (String.utf8EncodeChar c).filter p = if q c then String.utf8EncodeChar c else [] := by
  rcases Nat.lt_or_ge c.toNat 128 with low | above
  · rw [utf8EncodeChar_of_ascii low, List.filter_cons, ascii low, List.filter_nil]
  · rw [if_pos (high above), List.filter_eq_self]
    exact fun b mem => passes b (le_of_mem_utf8EncodeChar above mem)

end StreamGate.Bytes
