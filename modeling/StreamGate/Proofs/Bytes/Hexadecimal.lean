import StreamGate.Proofs.Text.Encoding
import StreamGate.Bytes.Hex

/-!
# Which texts are hexadecimal

A text writes bytes in hexadecimal if it is the written form of these bytes, with each letter
in either case.  Such texts are read, and no others are.

* `Hex.Spells`: a text writes bytes.
* `Hex.decode_eq_ok_iff`: it is read as the bytes it writes.
* `Hex.decode_encode`: what is written is read back.
* `Hex.SameButCase`: texts that write the same bytes.
* `Hex.Fault.Found`: where a text stops being hexadecimal.
* `Hex.decode_eq_error_iff`: that is what is said of it.
-/

namespace StreamGate.Hex

/-- A text writes bytes, with letters in either case. -/
def Spells (bytes : Bytes) (text : String) : Prop :=
  text.toList.map Char.toLower = (encode bytes).toList

instance (bytes : Bytes) (text : String) : Decidable (Spells bytes text) :=
  inferInstanceAs (Decidable (_ = _))

/-- Two texts differ in nothing but the case of letters. -/
def SameButCase (text text' : String) : Prop :=
  text.toList.map Char.toLower = text'.toList.map Char.toLower

instance (text text' : String) : Decidable (SameButCase text text') :=
  inferInstanceAs (Decidable (_ = _))

/-! ## Digits -/

/-- The two halves of a byte, the higher one first. -/
def nibbles (b : UInt8) : List UInt8 := [b / 16, b % 16]

/-- A byte is put together from its halves. -/
theorem nibbles_eq_iff {b high low : UInt8} (highSmall : high.toNat < 16)
    (lowSmall : low.toNat < 16) : nibbles b = [high, low] ↔ b = high * 16 + low := by
  have value : (high * 16 + low).toNat = high.toNat * 16 + low.toNat := by
    rw [UInt8.toNat_add, UInt8.toNat_mul]
    show (high.toNat * 16 % 256 + low.toNat) % 256 = _
    omega
  have halves : (b / 16).toNat = b.toNat / 16 ∧ (b % 16).toNat = b.toNat % 16 :=
    ⟨UInt8.toNat_div .., UInt8.toNat_mod ..⟩
  rw [nibbles, List.cons.injEq, List.cons.injEq, ← UInt8.toNat_inj, ← UInt8.toNat_inj,
    ← UInt8.toNat_inj, value, halves.1, halves.2]
  refine ⟨fun same => ?_, fun same => ⟨?_, ?_, rfl⟩⟩
  all_goals omega

theorem digitValue?_lt {code value : UInt8} (digit : digitValue? code = some value) :
    value.toNat < 16 := by
  have checked : ∀ n < 256, ∀ value ∈ digitValue? (UInt8.ofNat n), value.toNat < 16 := by
    decide +kernel
  have small := checked code.toNat code.toNat_lt value
  rw [UInt8.ofNat_toNat] at small
  exact small digit

theorem digitValue?_of_high {code : UInt8} (high : 128 ≤ code.toNat) : digitValue? code = none := by
  have checked : ∀ n < 256, 128 ≤ n → digitValue? (UInt8.ofNat n) = none := by
    decide +kernel
  have none := checked code.toNat code.toNat_lt high
  rwa [UInt8.ofNat_toNat] at none

/-- A byte below 128 is a digit exactly if the character is one, in either case. -/
theorem digitValue?_eq_some_iff {c : Char} (ascii : c.toNat < 128) {n : UInt8}
    (small : n.toNat < 16) :
    digitValue? (UInt8.ofNat c.toNat) = some n ↔ c.toLower = Nat.digitChar n.toNat := by
  have checked : ∀ k < 128, ∀ n < 16, digitValue? (UInt8.ofNat k) = some (UInt8.ofNat n) ↔
      (Char.ofNat k).toLower = Nat.digitChar n := by decide +kernel
  have here := checked c.toNat ascii n.toNat small
  rwa [UInt8.ofNat_toNat, Char.ofNat_toNat] at here

theorem toLower_of_high {c : Char} (high : 128 ≤ c.toNat) : c.toLower = c := by
  refine dif_neg fun upper => ?_
  have low : c.toNat ≤ 90 := UInt32.le_iff_toNat_le.1 upper.2
  omega

theorem utf8EncodeChar_ne_nil (c : Char) : String.utf8EncodeChar c ≠ [] := by
  intro empty
  have length := String.length_utf8EncodeChar c
  rw [empty] at length
  exact absurd length (Nat.ne_of_lt c.utf8Size_pos)

/-- A digit in either case is one whose lower case is a digit in lower case. -/
theorem mem_allDigits_iff {c : Char} : c ∈ allDigits ↔ c.toLower ∈ lowerDigits := by
  refine ⟨toLower_mem_lowerDigits, fun lower => ?_⟩
  rcases Nat.lt_or_ge c.toNat 128 with ascii | high
  · have checked : ∀ k < 128, (Char.ofNat k).toLower ∈ lowerDigits → Char.ofNat k ∈ allDigits := by
      decide +kernel
    have here := checked c.toNat ascii
    rw [Char.ofNat_toNat] at here
    exact here lower
  · exact List.mem_append_left _ (toLower_of_high high ▸ lower)

/-- A character is a digit exactly if its bytes have the values of digits. -/
theorem mem_allDigits_iff_bytes {c : Char} :
    c ∈ allDigits ↔ ∀ b ∈ String.utf8EncodeChar c, digitValue? b ≠ none := by
  rcases Nat.lt_or_ge c.toNat 128 with ascii | high
  · have checked : ∀ k < 128, Char.ofNat k ∈ allDigits ↔ digitValue? (UInt8.ofNat k) ≠ none := by
      decide +kernel
    have here := checked c.toNat ascii
    rw [Char.ofNat_toNat] at here
    rw [Bytes.utf8EncodeChar_of_ascii ascii, List.forall_mem_singleton, here]
  · have small := forall_mem_allDigits (p := fun c => c.toNat < 128) (by decide) c
    obtain ⟨b, more, bytes⟩ := List.exists_cons_of_ne_nil (utf8EncodeChar_ne_nil c)
    have mem : b ∈ String.utf8EncodeChar c := bytes ▸ List.mem_cons_self
    constructor
    · exact fun digit => absurd (of_decide_eq_true (small digit)) (Nat.not_lt_of_le high)
    · have none := digitValue?_of_high (Bytes.le_of_mem_utf8EncodeChar high mem)
      exact fun all => absurd none (all b mem)

theorem length_flatMap_nibbles (bytes : Bytes) :
    (bytes.flatMap nibbles).length = 2 * bytes.length := by
  simp [List.length_flatMap, nibbles, List.map_const', Nat.mul_comm]

theorem toNat_digitChar_lt : ∀ n < 16, (Nat.digitChar n).toNat < 128 := by decide

/-! ## Reading -/

theorem decodeFrom_eq_ok_iff {position : Nat} {codes bytes : Bytes} :
    decodeFrom position codes = .ok bytes ↔
      codes.map digitValue? = (bytes.flatMap nibbles).map some := by
  fun_induction decodeFrom position codes generalizing bytes with
  | case1 position => cases bytes <;> simp [nibbles]
  | case2 => cases bytes <;> simp [nibbles]
  | case3 position high low rest none => cases bytes <;> simp [nibbles, none]
  | case4 position high low rest value none some => cases bytes <;> simp [nibbles, none]
  | case5 position high low rest h l lowDigit highDigit ih =>
    have put := fun b =>
      nibbles_eq_iff (b := b) (digitValue?_lt highDigit) (digitValue?_lt lowDigit)
    constructor
    · intro read
      cases tail : decodeFrom (position + 2) rest with
      | error fault => rw [tail] at read; cases read
      | ok more =>
        rw [tail] at read
        obtain rfl := Except.ok.inj read
        rw [List.flatMap_cons, (put _).2 rfl, List.map_cons, List.map_cons, ih.1 tail, highDigit,
          lowDigit]
        rfl
    · intro same
      cases bytes with
      | nil => cases same
      | cons b more =>
        rw [List.map_cons, List.map_cons, highDigit, lowDigit] at same
        obtain ⟨first, second, others⟩ : some h = some (b / 16) ∧ some l = some (b % 16) ∧
            rest.map digitValue? = (more.flatMap nibbles).map some := by
          simpa [nibbles] using same
        have whole : nibbles b = [h, l] := by
          rw [nibbles, Option.some.inj first, Option.some.inj second]
        rw [ih.2 others, (put b).1 whole]
        rfl

/-! ## Texts -/

theorem nibbles_small {bytes : Bytes} {n : UInt8} (mem : n ∈ bytes.flatMap nibbles) :
    n.toNat < 16 := by
  obtain ⟨b, -, half⟩ := List.mem_flatMap.1 mem
  have small := b.toNat_lt
  simp only [nibbles, List.mem_cons, List.not_mem_nil, or_false] at half
  rcases half with rfl | rfl
  · rw [UInt8.toNat_div]
    show b.toNat / 16 < 16
    omega
  · rw [UInt8.toNat_mod]
    show b.toNat % 16 < 16
    omega

theorem toList_encode_eq_nibbles (bytes : Bytes) :
    (encode bytes).toList = (bytes.flatMap nibbles).map fun n => Nat.digitChar n.toNat := by
  rw [toList_encode, List.map_flatMap]
  refine congrArg (bytes.flatMap ·) (funext fun b => ?_)
  simp [digits, nibbles, UInt8.toNat_div, UInt8.toNat_mod]

/-- The bytes of a text are digits with given values exactly if its characters are. -/
theorem map_digitValue?_iff {chars : List Char} {values : List UInt8}
    (small : ∀ n ∈ values, n.toNat < 16) :
    (chars.flatMap String.utf8EncodeChar).map digitValue? = values.map some ↔
      chars.map Char.toLower = values.map fun n => Nat.digitChar n.toNat := by
  induction chars generalizing values with
  | nil => cases values <;> simp
  | cons c rest ih =>
    rcases Nat.lt_or_ge c.toNat 128 with ascii | high
    · cases values with
      | nil => simp [Bytes.utf8EncodeChar_of_ascii ascii]
      | cons n more =>
        rw [List.forall_mem_cons] at small
        simp [Bytes.utf8EncodeChar_of_ascii ascii, digitValue?_eq_some_iff ascii small.1,
          ih small.2]
    · obtain ⟨b, more, bytes⟩ := List.exists_cons_of_ne_nil (utf8EncodeChar_ne_nil c)
      have none : digitValue? b = none :=
        digitValue?_of_high (Bytes.le_of_mem_utf8EncodeChar high (bytes ▸ List.mem_cons_self))
      cases values with
      | nil => simp [bytes]
      | cons n others =>
        rw [List.forall_mem_cons] at small
        have other : c ≠ Nat.digitChar n.toNat := fun same =>
          Nat.not_lt_of_le high (same ▸ toNat_digitChar_lt _ small.1)
        simp [bytes, none, toLower_of_high high, other]

/-- A text is read as the bytes that it writes, and no other text is read. -/
theorem decode_eq_ok_iff {text : String} {bytes : Bytes} :
    decode text = .ok bytes ↔ Spells bytes text := by
  have same : (text.toList.flatMap String.utf8EncodeChar).map digitValue? =
      (bytes.flatMap nibbles).map some ↔ text.toList.map Char.toLower =
        (bytes.flatMap nibbles).map fun n => Nat.digitChar n.toNat :=
    map_digitValue?_iff fun n => nibbles_small
  rw [Spells, toList_encode_eq_nibbles, ← same, ← Bytes.ofText_eq_flatMap, decode,
    ← @decodeFrom_eq_ok_iff 0]
  show (if (Bytes.ofText text).length % 2 = 1 then _ else _) = _ ↔ _
  split
  · rename_i odd
    refine ⟨nofun, fun read => ?_⟩
    have length := congrArg List.length (decodeFrom_eq_ok_iff.1 read)
    rw [List.length_map, List.length_map, length_flatMap_nibbles] at length
    omega
  · rfl

theorem Spells.recase {bytes : Bytes} {text text' : String} (spells : Spells bytes text)
    (same : SameButCase text' text) : Spells bytes text' := same.trans spells

/-- Digits behind digits write bytes behind bytes. -/
theorem Spells.append {bytes more : Bytes} {text tail : String} (spells : Spells bytes text)
    (behind : Spells more tail) : Spells (bytes ++ more) (text ++ tail) := by
  rw [Spells, String.toList_append, List.map_append, spells, behind, toList_encode, toList_encode,
    toList_encode, List.flatMap_append]

theorem spells_inj {bytes bytes' : Bytes} {text : String} (spells : Spells bytes text)
    (spells' : Spells bytes' text) : bytes = bytes' :=
  Except.ok.inj ((decode_eq_ok_iff.2 spells).symm.trans (decode_eq_ok_iff.2 spells'))

theorem toLower_of_mem_lowerDigits : ∀ c ∈ lowerDigits, c.toLower = c := by
  simp [lowerDigits]

/-- What is written is a text that writes it. -/
theorem spells_encode (bytes : Bytes) : Spells bytes (encode bytes) := by
  have lower : ∀ c ∈ (encode bytes).toList, c.toLower = id c := fun c mem =>
    toLower_of_mem_lowerDigits c (mem_lowerDigits_of_mem_encode mem)
  rw [Spells, List.map_congr_left lower, List.map_id]

theorem decode_encode (bytes : Bytes) : decode (encode bytes) = .ok bytes :=
  decode_eq_ok_iff.2 (spells_encode bytes)

/-! ## What is no digit -/

/-- The first byte that is no digit, and where it is. -/
structure FirstBad (codes : Bytes) (code : UInt8) (position : Nat) : Prop where
  here : codes[position]? = some code
  bad : digitValue? code = none
  others : ∀ other ∈ codes.take position, digitValue? other ≠ none

theorem firstBad_cons {first code : UInt8} {rest : Bytes} {position : Nat} :
    FirstBad (first :: rest) code position ↔
      (digitValue? first = none ∧ code = first ∧ position = 0) ∨
        (digitValue? first ≠ none ∧ ∃ n, position = n + 1 ∧ FirstBad rest code n) := by
  constructor
  · intro found
    cases position with
    | zero =>
      obtain rfl := Option.some.inj found.here
      exact .inl ⟨found.bad, rfl, rfl⟩
    | succ n =>
      refine .inr ⟨found.others first List.mem_cons_self, n, rfl, found.here, found.bad, ?_⟩
      exact fun other mem => found.others other (List.mem_cons_of_mem _ mem)
  · rintro (⟨bad, rfl, rfl⟩ | ⟨good, n, rfl, found⟩)
    · exact ⟨rfl, bad, nofun⟩
    · exact ⟨found.here, found.bad, List.forall_mem_cons.2 ⟨good, found.others⟩⟩

/-- Where a text stops being hexadecimal. -/
def Fault.Found (codes : Bytes) : Fault → Prop
  | oddLength => codes.length % 2 = 1
  | badDigit code position => codes.length % 2 = 0 ∧ FirstBad codes code position

theorem decodeFrom_eq_error_iff {position : Nat} {codes : Bytes} {fault : Fault}
    (even : codes.length % 2 = 0) : decodeFrom position codes = .error fault ↔
      ∃ code n, FirstBad codes code n ∧ fault = .badDigit code (position + n) := by
  fun_induction decodeFrom position codes with
  | case1 position =>
    have fine : ∀ code n, ¬ FirstBad [] code n := fun _ _ found => by cases found.here
    simp [fine]
  | case2 => simp at even
  | case3 position high low rest none => simp [firstBad_cons, none, eq_comm]
  | case4 position high low rest value none some => simp [firstBad_cons, none, some, eq_comm]
  | case5 position high low rest h l lowDigit highDigit ih =>
    have passes : (decodeFrom (position + 2) rest >>= fun tail => pure ((h * 16 + l) :: tail)) =
        .error fault ↔ decodeFrom (position + 2) rest = .error fault := by
      cases decodeFrom (position + 2) rest <;> simp [bind, Except.bind, pure, Except.pure]
    have later : ∀ code n, FirstBad (high :: low :: rest) code n ↔
        ∃ m, n = m + 2 ∧ FirstBad rest code m := fun code n => by
      simp [firstBad_cons, lowDigit, highDigit]
    rw [passes, ih (by simp only [List.length_cons] at even; omega)]
    constructor
    · rintro ⟨code, m, found, rfl⟩
      exact ⟨code, m + 2, (later ..).2 ⟨m, rfl, found⟩, by rw [Nat.add_assoc, Nat.add_comm 2 m]⟩
    · rintro ⟨code, n, found, rfl⟩
      obtain ⟨m, rfl, inRest⟩ := (later ..).1 found
      exact ⟨code, m, inRest, by rw [Nat.add_assoc, Nat.add_comm 2 m]⟩

/-- A text is refused for what it does wrong: an odd length, else the first byte that is no
digit. -/
theorem decode_eq_error_iff {text : String} {fault : Fault} :
    decode text = .error fault ↔ fault.Found (Bytes.ofText text) := by
  unfold decode
  generalize Bytes.ofText text = codes
  show (if codes.length % 2 = 1 then _ else _) = _ ↔ _
  split
  · rename_i odd
    cases fault <;> simp [Fault.Found, odd]
  · rename_i even
    rw [Nat.mod_two_not_eq_one] at even
    rw [decodeFrom_eq_error_iff even]
    cases fault <;> simp [Fault.Found, even]

end StreamGate.Hex
