import Mathlib.Data.Nat.Digits.Lemmas
import StreamGate.Proofs.Range

/-!
# The grammar of range headers

Which headers yield which range.  A header is cut at its first `=`, and what follows at its
first `-`; the two texts around the dash are numbers or empty.

* `Decimal.value?_eq_some_iff`: what is read from digits is their value by places.
* `ByteRange.Asks` and `ByteRange.Malformed`: the headers that name numbers, and those that
  name none.
* `ByteRange.strictly?_eq`: no subtraction or addition on the way leaves its type.
* `ByteRange.parse_exactly`: all of it together.
-/

namespace StreamGate

/-! ## Numbers -/

namespace Decimal

/-- The value of digits by their places, the last one being that of the ones. -/
def places (digits : List Char) : Nat :=
  Nat.ofDigits 10 (digits.reverse.map fun c => c.toNat - '0'.toNat)

theorem places_cons (c : Char) (rest : List Char) :
    places (c :: rest) = (c.toNat - '0'.toNat) * 10 ^ rest.length + places rest := by
  simp only [places, List.reverse_cons, List.map_append, List.map_cons, List.map_nil,
    Nat.ofDigits_append, Nat.ofDigits_singleton, List.length_map, List.length_reverse]
  rw [Nat.add_comm, Nat.mul_comm]

theorem isDigit_iff (c : Char) : c.isDigit = true ↔ '0' ≤ c ∧ c ≤ '9' := by
  simp only [Char.isDigit, Bool.and_eq_true, decide_eq_true_eq]
  rfl

/-- What is read from digits after a total is the total, moved up by as many places, and their
value. -/
theorem value?_eq_some_iff {total n : Nat} {chars : List Char} :
    value? total chars = some n ↔
      (∀ c ∈ chars, '0' ≤ c ∧ c ≤ '9') ∧ n = total * 10 ^ chars.length + places chars := by
  induction chars generalizing total with
  | nil => simp [value?, places, eq_comm]
  | cons c rest ih =>
    rw [value?, List.forall_mem_cons, places_cons, List.length_cons]
    by_cases digit : c.isDigit = true
    · have value : (10 * total + (c.toNat - '0'.toNat)) * 10 ^ rest.length + places rest =
          total * 10 ^ (rest.length + 1) +
            ((c.toNat - '0'.toNat) * 10 ^ rest.length + places rest) := by ring
      rw [if_pos digit, ih, value, and_assoc, and_iff_right ((isDigit_iff c).1 digit)]
    · rw [if_neg digit]
      simp only [reduceCtorEq, false_iff, not_and]
      exact fun all => absurd ((isDigit_iff c).2 all.1) digit

theorem parseBelow?_eq_some_iff {bound n : Nat} {chars : List Char} :
    parseBelow? bound chars = some n ↔
      chars ≠ [] ∧ (∀ c ∈ chars, '0' ≤ c ∧ c ≤ '9') ∧ n = places chars ∧ n < bound := by
  simp only [parseBelow?, parse?, Option.filter_eq_some_iff, Option.ite_none_left_eq_some,
    List.isEmpty_iff, value?_eq_some_iff, Nat.zero_mul, Nat.zero_add, decide_eq_true_eq, and_assoc]

end Decimal

namespace ByteRange

/-- A text is a number: one or more digits, with a value below 2^64. -/
structure IsNumber (text : List Char) (n : UInt64) : Prop where
  nonempty : text ≠ []
  digits : ∀ c ∈ text, '0' ≤ c ∧ c ≤ '9'
  value : n.toNat = Decimal.places text

theorem number?_eq_some_iff {text : List Char} {n : UInt64} :
    number? text = some n ↔ IsNumber text n := by
  rw [number?, Option.map_eq_some_iff]
  constructor
  · rintro ⟨value, read, rfl⟩
    obtain ⟨nonempty, digits, rfl, below⟩ := Decimal.parseBelow?_eq_some_iff.1 read
    exact ⟨nonempty, digits, UInt64.toNat_ofNat_of_lt' below⟩
  · rintro ⟨nonempty, digits, value⟩
    exact ⟨n.toNat, Decimal.parseBelow?_eq_some_iff.2 ⟨nonempty, digits, value, n.toNat_lt⟩,
      UInt64.ofNat_toNat⟩

theorem number?_eq_none {text : List Char} (none : ∀ n, ¬ IsNumber text n) :
    number? text = .none :=
  Option.eq_none_iff_forall_ne_some.2 fun n read => none n (number?_eq_some_iff.1 read)

theorem IsNumber.eq {text : List Char} {n m : UInt64} (hn : IsNumber text n)
    (hm : IsNumber text m) : n = m :=
  UInt64.toNat.inj (hn.value.trans hm.value.symm)

/-! ## Cutting -/

/-- A text is cut at the first occurrence of a character. -/
theorem splitAt?_append {sep : Char} {before : List Char} (first : sep ∉ before)
    (after : List Char) : splitAt? sep (before ++ sep :: after) = some (before, after) := by
  induction before with
  | nil => exact if_pos rfl
  | cons c rest ih =>
    rw [List.mem_cons, not_or] at first
    rw [List.cons_append, splitAt?, if_neg (Ne.symm first.1), ih first.2]
    rfl

theorem splitAt?_eq_none {sep : Char} {chars : List Char} (absent : sep ∉ chars) :
    splitAt? sep chars = none := by
  induction chars with
  | nil => rfl
  | cons c rest ih =>
    rw [List.mem_cons, not_or] at absent
    rw [splitAt?, if_neg (Ne.symm absent.1), ih absent.2]
    rfl

/-- A header is cut at its first `=`, and the rest at its first `-`. -/
def Cut (header first second : List Char) : Prop :=
  ∃ unit, header = unit ++ '=' :: (first ++ '-' :: second) ∧ '=' ∉ unit ∧ '-' ∉ first

/-- What the two texts around the dash ask for. -/
def numbers? (first second : List Char) : Option Request :=
  if first.isEmpty then do
    let n ← number? second
    if n = 0 then none else some (.suffix n)
  else do
    let n ← number? first
    if second.isEmpty then some (.fromOn n)
    else return .between n (← number? second)

theorem parse?_of_cut {header : String} {first second : List Char}
    (cut : Cut header.toList first second) : Request.parse? header = numbers? first second := by
  obtain ⟨unit, whole, noEquals, noDash⟩ := cut
  rw [Request.parse?, whole, splitAt?_append noEquals]
  show (splitAt? '-' (first ++ '-' :: second)).bind (fun cut => numbers? cut.1 cut.2) = _
  rw [splitAt?_append noDash]
  rfl

/-! ## The grammar -/

/-- A header asks for a range: what is before and after the dash are numbers, and one of them
may be missing.  A suffix of no bytes cannot be asked for. -/
inductive Asks (header : List Char) : Request → Prop
  | suffix {second : List Char} {n : UInt64} (cut : Cut header [] second)
      (number : IsNumber second n) (positive : n ≠ 0) : Asks header (.suffix n)
  | fromOn {first : List Char} {n : UInt64} (cut : Cut header first [])
      (number : IsNumber first n) : Asks header (.fromOn n)
  | between {first second : List Char} {n m : UInt64} (cut : Cut header first second)
      (number : IsNumber first n) (number' : IsNumber second m) : Asks header (.between n m)

/-- A header asks for no range. -/
inductive Malformed (header : List Char) : Prop
  | noEquals (absent : '=' ∉ header)
  | noDash {unit spec : List Char} (whole : header = unit ++ '=' :: spec) (first : '=' ∉ unit)
      (absent : '-' ∉ spec)
  | suffix {second : List Char} (cut : Cut header [] second)
      (bad : ∀ n, IsNumber second n → n = 0)
  | first {first second : List Char} (cut : Cut header first second) (given : first ≠ [])
      (bad : ∀ n, ¬ IsNumber first n)
  | second {first second : List Char} (cut : Cut header first second) (given : first ≠ [])
      (given' : second ≠ []) (bad : ∀ n, ¬ IsNumber second n)

theorem Asks.parse?_eq {header : String} {request : Request} (asks : Asks header.toList request) :
    Request.parse? header = some request := by
  cases asks with
  | suffix cut number positive =>
    rw [parse?_of_cut cut, numbers?, number?_eq_some_iff.2 number]
    exact if_neg positive
  | fromOn cut number =>
    rw [parse?_of_cut cut, numbers?, number?_eq_some_iff.2 number,
      if_neg (by simpa using number.nonempty)]
    rfl
  | between cut number number' =>
    rw [parse?_of_cut cut, numbers?, number?_eq_some_iff.2 number, number?_eq_some_iff.2 number',
      if_neg (by simpa using number.nonempty)]
    exact if_neg (by simpa using number'.nonempty)

theorem Malformed.parse?_eq {header : String} (malformed : Malformed header.toList) :
    Request.parse? header = none := by
  cases malformed with
  | noEquals absent =>
    rw [Request.parse?, splitAt?_eq_none absent]
    rfl
  | noDash whole first absent =>
    rw [Request.parse?, whole, splitAt?_append first]
    show (splitAt? '-' _).bind _ = none
    rw [splitAt?_eq_none absent]
    rfl
  | @suffix second cut bad =>
    rw [parse?_of_cut cut, numbers?]
    show (number? second).bind _ = none
    cases read : number? second with
    | none => rfl
    | some n => exact if_pos (bad n (number?_eq_some_iff.1 read))
  | first cut given bad =>
    rw [parse?_of_cut cut, numbers?, if_neg (by simpa using given), number?_eq_none bad]
    rfl
  | @second first second cut given given' bad =>
    rw [parse?_of_cut cut, numbers?, if_neg (by simpa using given), number?_eq_none bad]
    show (number? first).bind _ = none
    cases number? first with
    | none => rfl
    | some n => exact if_neg (by simpa using given')

/-- A header with both cuts asks for a range, or one of its texts is no number. -/
theorem Cut.asks_or_malformed {header first second : List Char} (cut : Cut header first second) :
    (∃ request, Asks header request) ∨ Malformed header := by
  by_cases noFirst : first = []
  · subst noFirst
    by_cases suffix : ∃ n, IsNumber second n ∧ n ≠ 0
    · obtain ⟨n, number, positive⟩ := suffix
      exact .inl ⟨_, .suffix cut number positive⟩
    · refine .inr (.suffix cut fun n number => ?_)
      by_contra positive
      exact suffix ⟨n, number, positive⟩
  · by_cases number : ∃ n, IsNumber first n
    · obtain ⟨n, number⟩ := number
      by_cases noSecond : second = []
      · subst noSecond
        exact .inl ⟨_, .fromOn cut number⟩
      · by_cases number' : ∃ m, IsNumber second m
        · obtain ⟨m, number'⟩ := number'
          exact .inl ⟨_, .between cut number number'⟩
        · exact .inr (.second cut noFirst noSecond (not_exists.1 number'))
    · exact .inr (.first cut noFirst (not_exists.1 number))

theorem asks_or_malformed (header : List Char) :
    (∃ request, Asks header request) ∨ Malformed header := by
  by_cases hasEquals : '=' ∈ header
  · obtain ⟨unit, spec, rfl, noEquals⟩ := List.eq_append_cons_of_mem hasEquals
    by_cases hasDash : '-' ∈ spec
    · obtain ⟨first, second, rfl, noDash⟩ := List.eq_append_cons_of_mem hasDash
      exact Cut.asks_or_malformed ⟨unit, rfl, noEquals, noDash⟩
    · exact .inr (.noDash rfl noEquals hasDash)
  · exact .inr (.noEquals hasEquals)

/-- The numbers of a header are read off it exactly if it asks for a range. -/
theorem parse?_eq_some_iff {header : String} {request : Request} :
    Request.parse? header = some request ↔ Asks header.toList request := by
  refine ⟨fun read => ?_, Asks.parse?_eq⟩
  rcases asks_or_malformed header.toList with ⟨other, asks⟩ | malformed
  · rw [asks.parse?_eq] at read
    cases read
    exact asks
  · rw [malformed.parse?_eq] at read
    cases read

theorem parse?_eq_none_iff {header : String} :
    Request.parse? header = none ↔ Malformed header.toList := by
  refine ⟨fun read => ?_, Malformed.parse?_eq⟩
  rcases asks_or_malformed header.toList with ⟨other, asks⟩ | malformed
  · rw [asks.parse?_eq] at read
    cases read
  · exact malformed

/-! ## Arithmetic within 64 bits -/

/-- The difference, unless it is below zero. -/
def minus? (a b : UInt64) : Option UInt64 := if b ≤ a then some (a - b) else none

/-- The sum, if it is below 2^64. -/
def plus? (a b : UInt64) : Option UInt64 :=
  if a.toNat + b.toNat < UInt64.size then some (a + b) else none

/-- The range between two bytes of a file, fitted to the file. -/
def fit? (size first last : UInt64) : Option (Option ByteRange) :=
  if size = 0 then some none
  else do
    let last := min last (← minus? size 1)
    return if last < first then none else some ⟨first, last⟩

/-- The range that a request means, step by step in arithmetic that has no answer where the
numbers leave their type.  The last byte of an empty file is taken for the first one. -/
def Request.strictly? (size : UInt64) : Request → Option (Option ByteRange)
  | suffix n =>
    if size < n then some none
    else do fit? size (← minus? size n) ((minus? size 1).getD 0)
  | fromOn n => fit? size n ((minus? size 1).getD 0)
  | between n m => fit? size n m

/-- The number of bytes of a range in the same arithmetic. -/
def length? (r : ByteRange) : Option UInt64 := do plus? (← minus? r.last r.first) 1

theorem minus?_of_le {a b : UInt64} (le : b ≤ a) : minus? a b = some (a - b) := if_pos le

theorem one_le {size : UInt64} (nonempty : size ≠ 0) : 1 ≤ size := by
  have positive : size.toNat ≠ 0 := fun zero => nonempty (UInt64.toNat.inj zero)
  exact UInt64.le_iff_toNat_le.2 (by show 1 ≤ size.toNat; omega)

theorem fit?_eq {size : UInt64} (nonempty : size ≠ 0) (first last : UInt64) :
    fit? size first last =
      some (if min last (size - 1) < first then none else some ⟨first, min last (size - 1)⟩) := by
  rw [fit?, if_neg nonempty, minus?_of_le (one_le nonempty)]
  rfl

theorem min_lt_iff {size first last : UInt64} (nonempty : size ≠ 0) :
    min last (size - 1) < first ↔ size ≤ first ∨ last < first := by
  have positive := UInt64.le_iff_toNat_le.1 (one_le nonempty)
  simp only [UInt64.lt_iff_toNat_lt, UInt64.le_iff_toNat_le, UInt64.toNat_min,
    toNat_pred nonempty] at positive ⊢
  have one : (1 : UInt64).toNat = 1 := rfl
  omega

/-- A range up to the end of a file. -/
theorem fit?_end {size first : UInt64} (nonempty : size ≠ 0) :
    fit? size first ((minus? size 1).getD 0) =
      some (if size ≤ first then none else some ⟨first, size - 1⟩) := by
  have last : min (size - 1) (size - 1) = size - 1 := ite_self _
  have ends : min (size - 1) (size - 1) < first ↔ size ≤ first := by
    rw [min_lt_iff nonempty, UInt64.lt_iff_toNat_lt, toNat_pred nonempty, UInt64.le_iff_toNat_le]
    omega
  rw [minus?_of_le (one_le nonempty), Option.getD_some, fit?_eq nonempty]
  rw [last] at ends ⊢
  simp only [ends]

/-- No step of the resolution leaves its type, if the request is one that a header can name. -/
theorem strictly?_eq {request : Request} (suffix : ∀ {n}, request = .suffix n → n ≠ 0)
    (size : UInt64) : request.strictly? size = some (request.resolve? size) := by
  by_cases empty : size = 0
  · have beyond : Beyond size.toNat request := by
      subst empty
      cases request <;> exact .inl rfl
    rw [resolve?_eq_none_iff.2 beyond]
    cases request with
    | suffix n =>
      have positive : n.toNat ≠ 0 := fun zero => suffix rfl (UInt64.toNat.inj zero)
      refine if_pos (UInt64.lt_iff_toNat_lt.2 ?_)
      rw [empty]
      exact Nat.pos_of_ne_zero positive
    | fromOn n => exact if_pos empty
    | between n m => exact if_pos empty
  · cases request with
    | suffix n =>
      rw [Request.strictly?, Request.resolve?]
      by_cases more : size < n
      · rw [if_pos more, if_pos (.inr more)]
      · have le : n ≤ size := by
          rw [UInt64.lt_iff_toNat_lt, Nat.not_lt] at more
          exact UInt64.le_iff_toNat_le.2 more
        have before : ¬ size ≤ size - n := by
          have positive : n.toNat ≠ 0 := fun zero => suffix rfl (UInt64.toNat.inj zero)
          have fits := UInt64.le_iff_toNat_le.1 le
          rw [UInt64.le_iff_toNat_le, UInt64.toNat_sub_of_le _ _ le]
          omega
        rw [if_neg more, if_neg (not_or.2 ⟨empty, more⟩), minus?_of_le le]
        show fit? size (size - n) _ = _
        rw [fit?_end empty, if_neg before]
    | fromOn n => exact fit?_end empty
    | between n m =>
      rw [Request.strictly?, Request.resolve?, fit?_eq empty]
      simp only [min_lt_iff empty]

/-- The range that a header means, in arithmetic that has no answer where the numbers leave
their type. -/
def parseStrictly? (header : String) (size : UInt64) : Option (Except Refusal ByteRange) :=
  match Request.parse? header with
  | none => some (.error (.malformed header))
  | some request => (request.strictly? size).map fun resolved =>
    match resolved with
    | none => .error (.unsatisfiable size)
    | some r => .ok r

/-- What a header comes to for a file of a size. -/
inductive Answers (header : String) (size : UInt64) : Except Refusal ByteRange → Prop
  | malformed (malformed : Malformed header.toList) :
      Answers header size (.error (.malformed header))
  | unsatisfiable {request : Request} (asks : Asks header.toList request)
      (beyond : Beyond size.toNat request) : Answers header size (.error (.unsatisfiable size))
  | range {request : Request} {r : ByteRange} (asks : Asks header.toList request)
      (inside : ¬ Beyond size.toNat request) (spans : r.Spans size.toNat request) :
      Answers header size (.ok r)

/-- A range lies within a file, and so does its length. -/
structure Fits (r : ByteRange) (size : UInt64) : Prop extends r.Within size where
  length_pos : 1 ≤ r.length.toNat
  length_le : r.length.toNat ≤ size.toNat
  /-- The length is worked out within its type. -/
  length?_eq : r.length? = some r.length

theorem answers_parse (header : String) (size : UInt64) :
    Answers header size (parse header size) := by
  unfold parse
  cases read : Request.parse? header with
  | none => exact .malformed (parse?_eq_none_iff.1 read)
  | some request =>
    have asks := parse?_eq_some_iff.1 read
    cases resolved : request.resolve? size with
    | none =>
      simp only [resolved]
      exact .unsatisfiable asks (resolve?_eq_none_iff.1 resolved)
    | some r =>
      simp only [resolved]
      obtain ⟨inside, spans⟩ := resolve?_spec resolved
      exact .range asks inside spans

/-- A header comes to one answer. -/
theorem Answers.parse_eq {header : String} {size : UInt64} {answer : Except Refusal ByteRange}
    (answers : Answers header size answer) : parse header size = answer := by
  unfold parse
  cases answers with
  | malformed malformed => rw [malformed.parse?_eq]
  | unsatisfiable asks beyond =>
    rw [asks.parse?_eq]
    simp only [resolve?_eq_none_iff.2 beyond]
  | @range request r asks inside spans =>
    rw [asks.parse?_eq]
    cases resolved : request.resolve? size with
    | none => exact absurd (resolve?_eq_none_iff.1 resolved) inside
    | some s => simp only [resolved, (resolve?_spec resolved).2.eq spans]

theorem Within.fits {r : ByteRange} {size : UInt64} (within : r.Within size) : r.Fits size := by
  have length := r.toNat_length within.ordered within.length_lt
  have first := within.toNat_le
  have last := within.toNat_lt
  have counted : (r.last - r.first).toNat + (1 : UInt64).toNat < UInt64.size := by
    rw [UInt64.toNat_sub_of_le _ _ within.ordered]
    exact within.length_lt
  refine { within with length_pos := by omega, length_le := by omega, length?_eq := ?_ }
  rw [length?, minus?_of_le within.ordered]
  exact if_pos counted

theorem parseStrictly?_eq (header : String) (size : UInt64) :
    parseStrictly? header size = some (parse header size) := by
  unfold parseStrictly? parse
  cases read : Request.parse? header with
  | none => rfl
  | some request =>
    have strictly := strictly?_eq (suffix_pos_of_parse? read) size
    cases resolved : request.resolve? size with
    | none =>
      rw [resolved] at strictly
      simp only [strictly, resolved, Option.map_some]
    | some r =>
      rw [resolved] at strictly
      simp only [strictly, resolved, Option.map_some]

/-- What a range header comes to, for every text and every size of a file.

* The answers are those of the grammar: a header is malformed, or it asks for numbers that the
  file does not reach, or it yields the range that it asks for, up to the end of the file.
* A range that it yields lies within the file and holds a byte at least.
* No subtraction or addition on the way leaves its type. -/
theorem parse_exactly (header : String) (size : UInt64) :
    (∀ answer, parse header size = answer ↔ Answers header size answer) ∧
      (∀ r, parse header size = .ok r → r.Fits size) ∧
      parseStrictly? header size = some (parse header size) := by
  refine ⟨fun answer => ⟨?_, Answers.parse_eq⟩, fun r yields => ?_, parseStrictly?_eq header size⟩
  · rintro rfl
    exact answers_parse header size
  · exact (within_of_parse yields).fits

/-- Sixty bytes on, and farther than the file reaches. -/
theorem parse_exactly_of_clamped :
    parse "bytes=60-200" 100 = .ok ⟨60, 99⟩ ∧ (⟨60, 99⟩ : ByteRange).Fits 100 := by
  have yields : parse "bytes=60-200" 100 = .ok ⟨60, 99⟩ := by decide +kernel
  exact ⟨yields, (parse_exactly "bytes=60-200" 100).2.1 _ yields⟩

end ByteRange

end StreamGate
