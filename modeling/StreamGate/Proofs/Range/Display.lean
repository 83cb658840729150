import StreamGate.Proofs.Range.Grammar

/-!
# Displayed ranges

A range is displayed as its two numbers with a dash between them.  A header that names a range
of a file in this way yields the same range.

* `Decimal.value?_of_digits`: what is read from digits is what they spell.
* `ByteRange.isNumber_toDigits`: the spelling of a number is one that the grammar knows.
* `ByteRange.parse_display`: so a displayed range is read back.
-/

namespace StreamGate

namespace Decimal

theorem value?_of_digits {chars : List Char} (digits : ∀ c ∈ chars, c.isDigit = true)
    (total : Nat) : value? total chars = some (Nat.ofDigitChars 10 chars total) := by
  induction chars generalizing total with
  | nil => rfl
  | cons c rest ih =>
    rw [List.forall_mem_cons] at digits
    rw [value?, if_pos digits.1, ih digits.2]
    rfl

theorem isDigit_of_mem_toDigits {n : Nat} {c : Char} (mem : c ∈ Nat.toDigits 10 n) :
    c.isDigit = true :=
  Nat.isDigit_of_mem_toDigits (by omega) (by omega) mem

end Decimal

namespace ByteRange

/-- The decimal spelling of a number. -/
theorem isNumber_toDigits (n : UInt64) : IsNumber (Nat.toDigits 10 n.toNat) n := by
  have value := Decimal.value?_of_digits (fun _ => Decimal.isDigit_of_mem_toDigits (n := n.toNat)) 0
  rw [Nat.ofDigitChars_ten_toDigits, Decimal.value?_eq_some_iff] at value
  obtain ⟨digits, places⟩ := value
  rw [Nat.zero_mul, Nat.zero_add] at places
  exact ⟨Nat.toDigits_ne_nil, digits, places⟩

theorem toList_toString (n : UInt64) : (toString n).toList = Nat.toDigits 10 n.toNat := by
  show (toString n.toNat).toList = _
  rw [Nat.toString_eq_ofList_toDigits, String.toList_ofList]

theorem toList_display (r : ByteRange) :
    r.display.toList = Nat.toDigits 10 r.first.toNat ++ '-' :: Nat.toDigits 10 r.last.toNat := by
  have dash : (toString "-").toList = ['-'] := rfl
  simp [display, toList_toString, dash]

/-- A header that names a range is cut between its two numbers. -/
theorem cut_display {unit : String} (noEquals : '=' ∉ unit.toList) (r : ByteRange) :
    Cut (unit ++ "=" ++ r.display).toList (Nat.toDigits 10 r.first.toNat)
      (Nat.toDigits 10 r.last.toNat) := by
  refine ⟨unit.toList, ?_, noEquals, fun dash => ?_⟩
  · simp [toList_display]
  · exact absurd (Decimal.isDigit_of_mem_toDigits dash) (by decide)

/-- A range within a file spans what a header asks for that names its two ends. -/
theorem Within.spans {r : ByteRange} {size : UInt64} (within : r.Within size) :
    ¬ Beyond size.toNat (.between r.first r.last) ∧
      r.Spans size.toNat (.between r.first r.last) := by
  have ordered := within.toNat_le
  have bounded := within.toNat_lt
  refine ⟨?_, rfl, ?_⟩
  · rintro (empty | first | before) <;> omega
  · rw [Nat.min_eq_left (by omega)]

theorem Within.parse_eq {r : ByteRange} {size : UInt64} (within : r.Within size) {unit : String}
    (noEquals : '=' ∉ unit.toList) : parse (unit ++ "=" ++ r.display) size = .ok r := by
  have asks : Asks (unit ++ "=" ++ r.display).toList (.between r.first r.last) :=
    .between (cut_display noEquals r) (isNumber_toDigits r.first) (isNumber_toDigits r.last)
  obtain ⟨inside, spans⟩ := within.spans
  exact (Answers.range asks inside spans).parse_eq

/-- What is displayed is read back.

* After any unit without an equals sign, the display of a range within a file yields this range.
* So a range that a header yields is yielded again by its display. -/
theorem parse_display (size : UInt64) :
    (∀ (unit : String) (r : ByteRange), '=' ∉ unit.toList → r.Within size →
      parse (unit ++ "=" ++ r.display) size = .ok r) ∧
    ∀ (header : String) (r : ByteRange), parse header size = .ok r →
      parse ("bytes=" ++ r.display) size = .ok r := by
  refine ⟨fun unit r noEquals within => within.parse_eq noEquals, fun header r yields => ?_⟩
  have noEquals : '=' ∉ "bytes".toList := by decide
  have whole : "bytes=" = "bytes" ++ "=" := by decide
  rw [whole]
  exact (within_of_parse yields).parse_eq noEquals

/-- The largest file, all of it and its last byte. -/
theorem parse_display_of_largest :
    let size : UInt64 := 18446744073709551615
    let all : ByteRange := ⟨0, 18446744073709551614⟩
    let last : ByteRange := ⟨18446744073709551614, 18446744073709551614⟩
    parse ("no-unit" ++ "=" ++ all.display) size = .ok all ∧
      parse "bytes=-1" size = .ok last ∧ parse ("bytes=" ++ last.display) size = .ok last := by
  intro size all last
  obtain ⟨displayed, again⟩ := parse_display size
  have yields : parse "bytes=-1" size = .ok last := by decide +kernel
  exact ⟨displayed "no-unit" all (by decide) ⟨by decide, by decide⟩, yields, again _ _ yields⟩

end ByteRange

end StreamGate
