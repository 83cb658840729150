import Mathlib.Data.List.Forall2
import StreamGate.Proofs.Record.RoundTrip

/-!
# The bytes that spell a record

A record is read from the bytes that spell it, whatever comes behind them, and from no
others.  Almost every value is spelled in one way, the way it is written.  A block id may
be spelled with digits in either case, so a manifest has a spelling for every way to
spell its ids, and nothing else about it is free.

* `Wire.Format.Reads`: a format reads exactly the spellings of its values.
* `Wire.Format.Canonical`: the format of values that are spelled in one way.
* `Reads.pair`, `Reads.refine`, `Reads.list` and so on: formats made of formats.
* `Reads.refuses_part`: no spelling begins another, so a record that is cut short is
  refused.
* `Codec.stored_exact`: the records of a catalog.
-/

namespace StreamGate

namespace Bytes

theorem littleEndian_toNat (bytes : Bytes) : littleEndian bytes.length (toNat bytes) = bytes := by
  induction bytes with
  | nil => rfl
  | cons b rest ih =>
    have low : UInt8.ofNat (b.toNat + 256 * toNat rest) = b := by
      apply UInt8.toNat_inj.1
      have small := b.toNat_lt
      rw [UInt8.toNat_ofNat']
      omega
    have high : (b.toNat + 256 * toNat rest) / 256 = toNat rest := by
      have small := b.toNat_lt
      omega
    show UInt8.ofNat (b.toNat + 256 * toNat rest) ::
      littleEndian rest.length ((b.toNat + 256 * toNat rest) / 256) = _
    rw [low, high, ih]

theorem toNat_lt (bytes : Bytes) : toNat bytes < 256 ^ bytes.length := by
  induction bytes with
  | nil => exact Nat.one_pos
  | cons b rest ih =>
    have small := b.toNat_lt
    show b.toNat + 256 * toNat rest < 256 ^ (rest.length + 1)
    rw [Nat.pow_succ']
    omega

/-- Bytes spell the text whose bytes they are, and no other. -/
theorem toText?_eq_some_iff {bytes : Bytes} {text : String} :
    toText? bytes = some text ↔ bytes = ofText text := by
  constructor
  · intro spells
    unfold toText? String.fromUTF8? at spells
    split at spells
    · obtain rfl := Option.some.inj spells
      show bytes = ByteArray.toList ⟨bytes.toArray⟩
      rw [toList_eq]
    · cases spells
  · rintro rfl
    exact toText?_ofText text

end Bytes

namespace BlockId

/-- A text spells an id: it has the id's digits, each in either case. -/
structure Spells (id : BlockId) (text : String) : Prop where
  digits : ∀ c ∈ text.toList, c ∈ Hex.allDigits
  lower : BlockId.lower text = id.text

/-- A spelling has as many bytes as the id has digits. -/
theorem Spells.utf8ByteSize_eq {id : BlockId} {text : String} (spells : id.Spells text) :
    text.utf8ByteSize = id.text.toList.length := by
  have size := Bytes.utf8ByteSize_ofList fun c mem =>
    Hex.utf8Size_of_mem_allDigits (spells.digits c mem)
  rw [String.ofList_toList] at size
  rw [size, ← spells.lower, BlockId.lower, String.toList_ofList, List.length_map]

theorem parse_eq_ok_iff {text : String} {id : BlockId} : parse text = .ok id ↔ id.Spells text := by
  unfold parse
  constructor
  · intro parsed
    split at parsed
    · split at parsed
      · rename_i digits
        cases parsed
        exact ⟨Hex.isHex_iff.1 digits, rfl⟩
      · cases parsed
    · cases parsed
  · intro spells
    rw [dif_pos (spells.utf8ByteSize_eq ▸ id.canonical.length_eq),
      dif_pos (Hex.isHex_iff.2 spells.digits)]
    exact congrArg Except.ok (BlockId.ext spells.lower)

/-- The id's own text is a spelling of it. -/
theorem spells_text (id : BlockId) : id.Spells id.text := parse_eq_ok_iff.1 id.parse_text

end BlockId

namespace Wire.Format

variable {α β : Type} {f : Format α} {g : Format β}

/-! ## Reading what is made of parts -/

theorem read_map_iff {make : α → β} {back : β → α} {input rest : Bytes} {b : β} :
    (f.map make back).read input = .ok (b, rest) ↔
      ∃ a, f.read input = .ok (a, rest) ∧ make a = b := by
  show (f.read input >>= fun r => pure (make r.1, r.2)) = _ ↔ _
  cases f.read input with
  | error e => simp [bind, Except.bind]
  | ok r => simp [bind, Except.bind, pure, Except.pure, Prod.ext_iff, and_comm]

theorem read_refine_iff {make? : α → Except Fault β} {back : β → α} {input rest : Bytes} {b : β} :
    (f.refine make? back).read input = .ok (b, rest) ↔
      ∃ a, f.read input = .ok (a, rest) ∧ make? a = .ok b := by
  show (f.read input >>= fun r => make? r.1 >>= fun b => pure (b, r.2)) = _ ↔ _
  cases f.read input with
  | error e => simp [bind, Except.bind]
  | ok r =>
    obtain ⟨a, left⟩ := r
    cases made : make? a with
    | error e => simp +contextual [bind, Except.bind, made]
    | ok b' => simp +contextual [bind, Except.bind, pure, Except.pure, made, and_comm]

theorem read_pair_iff {input rest : Bytes} {a : α} {b : β} :
    (f.pair g).read input = .ok ((a, b), rest) ↔
      ∃ mid, f.read input = .ok (a, mid) ∧ g.read mid = .ok (b, rest) := by
  show (f.read input >>= fun r => g.read r.2 >>= fun r' => pure ((r.1, r'.1), r'.2)) = _ ↔ _
  cases f.read input with
  | error e => simp [bind, Except.bind]
  | ok r =>
    obtain ⟨a', mid⟩ := r
    cases second : g.read mid with
    | error e => simp +contextual [bind, Except.bind, second]
    | ok r' =>
      simp +contextual [bind, Except.bind, pure, Except.pure, second, Prod.ext_iff, and_assoc]

/-! ## Spellings -/

/-- A format reads a value exactly where a spelling of it stands in front. -/
structure Reads (f : Format α) (spells : α → Bytes → Prop) : Prop where
  iff : ∀ {input a rest}, f.read input = .ok (a, rest) ↔ ∃ raw, spells a raw ∧ input = raw ++ rest

/-- The values that fit are spelled in one way, the way they are written, and no others
are read. -/
def Canonical (f : Format α) (fits : α → Prop) : Prop :=
  f.Reads fun a raw => fits a ∧ raw = f.write a

variable {spells : α → Bytes → Prop} {spells' : β → Bytes → Prop} {fits : α → Prop}
  {fits' : β → Prop}

theorem Reads.congr (h : f.Reads spells) {other : α → Bytes → Prop}
    (same : ∀ a raw, spells a raw ↔ other a raw) : f.Reads other where
  iff := by
    intro input a rest
    rw [h.iff]
    simp only [same]

theorem Reads.map (h : f.Reads spells) (make : α → β) (back : β → α) :
    (f.map make back).Reads fun b raw => ∃ a, make a = b ∧ spells a raw where
  iff := by
    intro input b rest
    rw [read_map_iff]
    simp only [h.iff]
    constructor
    · rintro ⟨a, ⟨raw, spelled, split⟩, made⟩
      exact ⟨raw, ⟨a, made, spelled⟩, split⟩
    · rintro ⟨raw, ⟨a, made, spelled⟩, split⟩
      exact ⟨a, ⟨raw, spelled, split⟩, made⟩

theorem Reads.refine (h : f.Reads spells) (make? : α → Except Fault β) (back : β → α) :
    (f.refine make? back).Reads fun b raw => ∃ a, make? a = .ok b ∧ spells a raw where
  iff := by
    intro input b rest
    rw [read_refine_iff]
    simp only [h.iff]
    constructor
    · rintro ⟨a, ⟨raw, spelled, split⟩, made⟩
      exact ⟨raw, ⟨a, made, spelled⟩, split⟩
    · rintro ⟨raw, ⟨a, made, spelled⟩, split⟩
      exact ⟨a, ⟨raw, spelled, split⟩, made⟩

theorem Reads.pair (h : f.Reads spells) (h' : g.Reads spells') :
    (f.pair g).Reads fun ab raw => ∃ x y, spells ab.1 x ∧ spells' ab.2 y ∧ raw = x ++ y where
  iff := by
    rintro input ⟨a, b⟩ rest
    rw [read_pair_iff]
    constructor
    · rintro ⟨mid, first, second⟩
      obtain ⟨x, spelled, rfl⟩ := h.iff.1 first
      obtain ⟨y, spelled', rfl⟩ := h'.iff.1 second
      exact ⟨x ++ y, ⟨x, y, spelled, spelled', rfl⟩, (List.append_assoc ..).symm⟩
    · rintro ⟨_, ⟨x, y, spelled, spelled', rfl⟩, rfl⟩
      exact ⟨y ++ rest, h.iff.2 ⟨x, spelled, List.append_assoc ..⟩, h'.iff.2 ⟨y, spelled', rfl⟩⟩

/-- Reading is known to be canonical from what is read, where values that fit are read
back. -/
theorem canonical_of_read (back : ∀ a, fits a → f.RoundTrips a)
    (exact : ∀ {input a rest}, f.read input = .ok (a, rest) → fits a ∧ input = f.write a ++ rest) :
    f.Canonical fits where
  iff := by
    intro input a rest
    constructor
    · intro read
      obtain ⟨ok, split⟩ := exact read
      exact ⟨f.write a, ⟨ok, rfl⟩, split⟩
    · rintro ⟨_, ⟨ok, rfl⟩, rfl⟩
      exact back a ok rest

theorem Canonical.map (h : f.Canonical fits) {make : α → β} {back : β → α}
    (back_make : ∀ a, fits a → back (make a) = a) (make_back : ∀ b, make (back b) = b) :
    (f.map make back).Canonical fun b => fits (back b) := by
  refine (Reads.map h make back).congr fun b raw =>
    ⟨?_, fun spelled => ⟨back b, make_back b, spelled⟩⟩
  rintro ⟨a, rfl, ok, rfl⟩
  show fits (back (make a)) ∧ f.write a = f.write (back (make a))
  rw [back_make a ok]
  exact ⟨ok, rfl⟩

theorem Canonical.refine (h : f.Canonical fits) {make? : α → Except Fault β} {back : β → α}
    (exact : ∀ a b, make? a = .ok b ↔ a = back b) :
    (f.refine make? back).Canonical fun b => fits (back b) := by
  refine (Reads.refine h make? back).congr fun b raw => ?_
  simp only [exact]
  constructor
  · rintro ⟨_, rfl, spelled⟩
    exact spelled
  · exact fun spelled => ⟨back b, rfl, spelled⟩

theorem Canonical.pair (h : f.Canonical fits) (h' : g.Canonical fits') :
    (f.pair g).Canonical fun ab => fits ab.1 ∧ fits' ab.2 := by
  refine (Reads.pair h h').congr fun ab raw => ?_
  constructor
  · rintro ⟨_, _, ⟨ok, rfl⟩, ⟨ok', rfl⟩, rfl⟩
    exact ⟨⟨ok, ok'⟩, rfl⟩
  · rintro ⟨⟨ok, ok'⟩, rfl⟩
    exact ⟨_, _, ⟨ok, rfl⟩, ⟨ok', rfl⟩, rfl⟩

/-! ## Numbers -/

theorem nat_canonical (width : Nat) : (nat width).Canonical fun n => n < 256 ^ width := by
  refine canonical_of_read (fun n fits => nat_roundTrips width fits) fun {input n rest} read => ?_
  replace read : (if input.length < width then Except.error Fault.endOfInput
    else .ok (Bytes.toNat (input.take width), input.drop width)) = .ok (n, rest) := read
  split at read
  · cases read
  · obtain ⟨rfl, rfl⟩ := Prod.mk.inj (Except.ok.inj read)
    have length : (input.take width).length = width := List.length_take_of_le (by omega)
    have bound := Bytes.toNat_lt (input.take width)
    have same := Bytes.littleEndian_toNat (input.take width)
    rw [length] at bound same
    refine ⟨bound, ?_⟩
    show input = Bytes.littleEndian width _ ++ _
    rw [same, List.take_append_drop]

theorem length_canonical : (nat 8).Canonical fun n => n < 2 ^ 64 := nat_canonical 8

theorem u32_canonical : u32.Canonical fun _ => True := by
  refine ((nat_canonical 4).map (fun _ fits => UInt32.toNat_ofNat_of_lt' fits)
    fun _ => UInt32.ofNat_toNat).congr fun n raw => ?_
  exact and_congr_left' (iff_true_intro n.toNat_lt)

theorem u64_canonical : u64.Canonical fun _ => True := by
  refine (length_canonical.map (fun _ fits => UInt64.toNat_ofNat_of_lt' fits)
    fun _ => UInt64.ofNat_toNat).congr fun n raw => ?_
  exact and_congr_left' (iff_true_intro n.toNat_lt)

theorem bool_canonical : bool.Canonical fun _ => True := by
  refine canonical_of_read (fun b _ => bool_roundTrips b) fun {input b rest} read => ⟨trivial, ?_⟩
  unfold bool at read
  dsimp only at read
  split at read <;> cases read <;> rfl

/-! ## Texts and lists -/

theorem bytes_canonical : Format.bytes.Canonical fun bytes => bytes.length < 2 ^ 64 := by
  refine canonical_of_read (fun _ fits => bytes_roundTrips fits) fun {input bytes rest} read => ?_
  change (nat 8).read input >>= _ = _ at read
  cases length : (nat 8).read input with
  | error e => rw [length] at read; cases read
  | ok r =>
    obtain ⟨n, left⟩ := r
    obtain ⟨_, ⟨small, rfl⟩, rfl⟩ := length_canonical.iff.1 length
    rw [length] at read
    by_cases short : left.length < n
    · simp [bind, Except.bind, short, throw, throwThe, MonadExceptOf.throw] at read
    · simp only [bind, Except.bind, short, if_false, pure, Except.pure] at read
      obtain ⟨rfl, rfl⟩ := Prod.mk.inj (Except.ok.inj read)
      have taken : (left.take n).length = n := List.length_take_of_le (by omega)
      refine ⟨by rwa [taken], ?_⟩
      show _ = ((nat 8).write (left.take n).length ++ left.take n) ++ left.drop n
      rw [taken, List.append_assoc, List.take_append_drop]

theorem text_canonical : Format.text.Canonical fun text => text.utf8ByteSize < 2 ^ 64 := by
  have exact : ∀ bytes text, spell bytes = .ok text ↔ bytes = Bytes.ofText text := by
    intro bytes text
    unfold spell
    rw [← Bytes.toText?_eq_some_iff]
    cases Bytes.toText? bytes <;> simp
  refine Reads.congr (bytes_canonical.refine exact) fun text raw => ?_
  show (Bytes.ofText text).length < 2 ^ 64 ∧ _ ↔ _
  rw [Bytes.length_ofText]
  rfl

theorem readMany_succ_iff {n : Nat} {input rest : Bytes} {as : List α} :
    readMany f (n + 1) input = .ok (as, rest) ↔
      ∃ a more mid, as = a :: more ∧ f.read input = .ok (a, mid) ∧
        readMany f n mid = .ok (more, rest) := by
  show (f.read input >>= fun r => readMany f n r.2 >>= fun r' => pure (r.1 :: r'.1, r'.2)) = _ ↔ _
  cases f.read input with
  | error e => simp [bind, Except.bind]
  | ok r =>
    obtain ⟨a, mid⟩ := r
    cases later : readMany f n mid with
    | error e => simp +contextual [bind, Except.bind, later]
    | ok r' =>
      obtain ⟨more, left⟩ := r'
      constructor
      · simp only [bind, Except.bind, pure, Except.pure, later]
        rintro ⟨⟩
        exact ⟨a, more, mid, rfl, rfl, later⟩
      · rintro ⟨_, _, _, rfl, ⟨⟩, again⟩
        obtain ⟨rfl, rfl⟩ := Prod.mk.inj (Except.ok.inj (later.symm.trans again))
        simp only [bind, Except.bind, pure, Except.pure, later]

/-- Values one after another are read from their spellings one after another. -/
theorem Reads.readMany_iff (h : f.Reads spells) {n : Nat} {input rest : Bytes} {as : List α} :
    readMany f n input = .ok (as, rest) ↔
      as.length = n ∧ ∃ raws, List.Forall₂ spells as raws ∧ input = raws.flatten ++ rest := by
  induction n generalizing input as with
  | zero =>
    constructor
    · rintro ⟨⟩
      exact ⟨rfl, [], .nil, rfl⟩
    · rintro ⟨empty, raws, spelled, rfl⟩
      obtain rfl := List.length_eq_zero_iff.1 empty
      cases spelled
      rfl
  | succ n ih =>
    rw [readMany_succ_iff]
    constructor
    · rintro ⟨a, more, mid, rfl, first, later⟩
      obtain ⟨raw, spelled, rfl⟩ := h.iff.1 first
      obtain ⟨rfl, raws, others, rfl⟩ := ih.1 later
      exact ⟨rfl, raw :: raws, .cons spelled others, by rw [List.flatten_cons, List.append_assoc]⟩
    · rintro ⟨length, raws, spelled, rfl⟩
      cases spelled with
      | nil => cases length
      | @cons a raw more raws spelled others =>
        refine ⟨a, more, raws.flatten ++ rest, rfl, h.iff.2 ⟨raw, spelled, ?_⟩,
          ih.2 ⟨Nat.succ.inj length, raws, others, rfl⟩⟩
        rw [List.flatten_cons, List.append_assoc]

theorem Reads.list (h : f.Reads spells) :
    (list f).Reads fun as raw => as.length < 2 ^ 64 ∧
      ∃ raws, List.Forall₂ spells as raws ∧ raw = (nat 8).write as.length ++ raws.flatten where
  iff := by
    intro input as rest
    constructor
    · intro read
      change (nat 8).read input >>= (fun r => readMany f r.1 r.2) = _ at read
      cases length : (nat 8).read input with
      | error e => rw [length] at read; cases read
      | ok r =>
        obtain ⟨n, left⟩ := r
        obtain ⟨_, ⟨small, rfl⟩, rfl⟩ := length_canonical.iff.1 length
        rw [length] at read
        obtain ⟨rfl, raws, spelled, rfl⟩ := h.readMany_iff.1 read
        exact ⟨_, ⟨small, raws, spelled, rfl⟩, (List.append_assoc ..).symm⟩
    · rintro ⟨_, ⟨small, raws, spelled, rfl⟩, rfl⟩
      rw [List.append_assoc]
      exact ((length_roundTrips small).bind _ _).trans (h.readMany_iff.2 ⟨rfl, raws, spelled, rfl⟩)

/-- A block id is read from its digits, each in either case. -/
theorem blockId_reads :
    blockId.Reads fun id raw => ∃ text, id.Spells text ∧ raw = Format.text.write text := by
  refine (Reads.refine text_canonical _ _).congr fun id raw => ?_
  constructor
  · rintro ⟨text, parsed, -, rfl⟩
    refine ⟨text, BlockId.parse_eq_ok_iff.1 ?_, rfl⟩
    cases read : BlockId.parse text with
    | error e => rw [read] at parsed; cases parsed
    | ok id' => rw [read] at parsed; cases parsed; rfl
  · rintro ⟨text, spelled, rfl⟩
    refine ⟨text, by rw [BlockId.parse_eq_ok_iff.2 spelled]; rfl, ?_, rfl⟩
    have length := id.canonical.length_eq
    show text.utf8ByteSize < 2 ^ 64
    rw [spelled.utf8ByteSize_eq]
    omega

/-! ## What follows from exact reading -/

theorem Reads.decode_iff (h : f.Reads spells) {input : Bytes} {a : α} :
    decode f input = .ok a ↔ ∃ raw, spells a raw ∧ raw <+: input := by
  unfold decode
  constructor
  · intro read
    split at read
    · rename_i rest taken
      cases read
      obtain ⟨raw, spelled, split⟩ := h.iff.1 taken
      exact ⟨raw, spelled, rest, split.symm⟩
    · cases read
  · rintro ⟨raw, spelled, rest, rfl⟩
    rw [h.iff.2 ⟨raw, spelled, rfl⟩]

/-- No spelling begins another one, so what is cut short is refused. -/
theorem Reads.refuses_part (h : f.Reads spells) {raw part : Bytes} {a : α} (spelled : spells a raw)
    (begins : part <+: raw) (short : part ≠ raw) : ∃ e, decode f part = .error e := by
  cases read : decode f part with
  | error e => exact ⟨e, rfl⟩
  | ok a' =>
    obtain ⟨raw', spelled', rest, rfl⟩ := h.decode_iff.1 read
    obtain ⟨more, rfl⟩ := begins
    have whole := h.iff.2 ⟨_, spelled, (List.append_nil _).symm⟩
    have again := h.iff.2 ⟨raw', spelled', List.append_assoc raw' rest more⟩
    rw [whole] at again
    have none : [] = rest ++ more := (Prod.mk.inj (Except.ok.inj again)).2
    obtain ⟨rfl, rfl⟩ := List.append_eq_nil_iff.1 none.symm
    exact absurd (List.append_nil _).symm short

end Wire.Format

end StreamGate
