import StreamGate.Bytes

/-!
# Hexadecimal text

Bytes written as two hexadecimal digits each, the higher half first.  Writing
uses lower-case digits; reading takes either case.  A text that is not
hexadecimal is refused for one of two reasons, an odd length first.
-/

namespace StreamGate.Hex

/-- The value of a hexadecimal digit, given as a character code. -/
def digitValue? (code : UInt8) : Option UInt8 :=
  if 48 ≤ code ∧ code ≤ 57 then some (code - 48)
  else if 97 ≤ code ∧ code ≤ 102 then some (code - 87)
  else if 65 ≤ code ∧ code ≤ 70 then some (code - 55)
  else none

/-- The digits as they are written. -/
def lowerDigits : List Char :=
  ['0', '1', '2', '3', '4', '5', '6', '7', '8', '9', 'a', 'b', 'c', 'd', 'e', 'f']

/-- The digits as they may be read. -/
def allDigits : List Char := lowerDigits ++ ['A', 'B', 'C', 'D', 'E', 'F']

/-- What can be checked for every digit holds for every digit. -/
theorem forall_mem_allDigits {p : Char → Bool} (h : allDigits.all p = true) :
    ∀ c ∈ allDigits, p c = true :=
  List.all_eq_true.1 h

theorem toLower_mem_lowerDigits {c : Char} (h : c ∈ allDigits) : c.toLower ∈ lowerDigits := by
  have checked := forall_mem_allDigits (p := fun c => lowerDigits.contains c.toLower) (by decide) c h
  exact List.contains_iff_mem.1 checked

theorem utf8Size_of_mem_allDigits {c : Char} (h : c ∈ allDigits) : c.utf8Size = 1 := by
  have checked := forall_mem_allDigits (p := fun c => c.utf8Size == 1) (by decide) c h
  exact beq_iff_eq.1 checked

theorem digitChar_mem_lowerDigits : ∀ n < 16, Nat.digitChar n ∈ lowerDigits := by decide

/-- The two digits of a byte. -/
def digits (b : UInt8) : List Char :=
  [Nat.digitChar (b.toNat / 16), Nat.digitChar (b.toNat % 16)]

/-- A byte string in lower-case hexadecimal. -/
def encode (bytes : Bytes) : String := String.ofList (bytes.flatMap digits)

theorem toList_encode (bytes : Bytes) : (encode bytes).toList = bytes.flatMap digits := by
  simp [encode]

@[simp] theorem length_toList_encode (bytes : Bytes) :
    (encode bytes).toList.length = 2 * bytes.length := by
  simp [toList_encode, List.length_flatMap, digits, List.map_const', Nat.mul_comm]

theorem mem_lowerDigits_of_mem_encode {bytes : Bytes} {c : Char}
    (h : c ∈ (encode bytes).toList) : c ∈ lowerDigits := by
  rw [toList_encode, List.mem_flatMap] at h
  obtain ⟨b, _, h⟩ := h
  have hb := b.toNat_lt
  simp only [digits, List.mem_cons, List.not_mem_nil, or_false] at h
  rcases h with rfl | rfl
  · exact digitChar_mem_lowerDigits _ (by omega)
  · exact digitChar_mem_lowerDigits _ (by omega)

/-- The text holds digits only. -/
def isHex (text : String) : Bool := text.toList.all allDigits.contains

theorem isHex_iff {text : String} : isHex text = true ↔ ∀ c ∈ text.toList, c ∈ allDigits := by
  simp [isHex]

/-- Why a text is not hexadecimal. -/
inductive Fault where
  /-- The text has an odd number of bytes. -/
  | oddLength
  /-- The byte at this position is no digit. -/
  | badDigit (code : UInt8) (position : Nat)
deriving DecidableEq, Repr

/-- Reads pairs of digits from `position` on. -/
def decodeFrom : (position : Nat) → Bytes → Except Fault Bytes
  | _, [] => .ok []
  | _, [_] => .error .oddLength
  | position, high :: low :: rest =>
    match digitValue? high, digitValue? low with
    | none, _ => .error (.badDigit high position)
    | some _, none => .error (.badDigit low (position + 1))
    | some h, some l => do
      let tail ← decodeFrom (position + 2) rest
      return (h * 16 + l) :: tail

/-- The bytes that a text writes in hexadecimal.  The length is looked at
first, then the digits from the left. -/
def decode (text : String) : Except Fault Bytes :=
  let codes := Bytes.ofText text
  if codes.length % 2 = 1 then .error .oddLength else decodeFrom 0 codes

end StreamGate.Hex
