import StreamGate.Proofs.Bytes.Hexadecimal
import StreamGate.Proofs.Record.Spelling
import StreamGate.Text.Split

/-!
# Ids in canonical form

A text is read as an id if its bytes are 40 or 64 hexadecimal digits, and the id is then the
text in lower case.  All ids are of this form, wherever they come from, so every place where
an id is cut lies between two characters.

* `BlockId.IsDigest`: the texts that are read.
* `BlockId.parse_iff_sameButCase`: the texts that are read as one id.
* `BlockId.Regular`: what holds of every id.
* `Codec.blockId_ofJson?_iff`, `Codec.blockId_read_iff`: ids that are read from records.
-/

namespace StreamGate

/-! ## Cutting -/

namespace Text

variable {chars : List Char} {n : Nat}

/-- Characters of one byte each are counted like bytes. -/
theorem takeBytes?_of_single (single : ∀ c ∈ chars, c.utf8Size = 1) (enough : n ≤ chars.length) :
    takeBytes? n chars = some (chars.take n) := by
  induction chars generalizing n with
  | nil =>
    obtain rfl := Nat.le_zero.1 enough
    rfl
  | cons c rest ih =>
    rw [List.forall_mem_cons] at single
    cases n with
    | zero => rfl
    | succ n => simp [takeBytes?, single.1, ih single.2 (Nat.le_of_succ_le_succ enough)]

theorem dropBytes?_of_single (single : ∀ c ∈ chars, c.utf8Size = 1) (enough : n ≤ chars.length) :
    dropBytes? n chars = some (chars.drop n) := by
  induction chars generalizing n with
  | nil =>
    obtain rfl := Nat.le_zero.1 enough
    rfl
  | cons c rest ih =>
    rw [List.forall_mem_cons] at single
    cases n with
    | zero => rfl
    | succ n => simp [dropBytes?, single.1, ih single.2 (Nat.le_of_succ_le_succ enough)]

end Text

namespace BlockId

variable {id : BlockId} {text text' : String}

/-! ## The texts that are read -/

/-- The bytes of a text are digits, as many as an id has. -/
structure IsDigest (text : String) : Prop where
  length : (Bytes.ofText text).length = 40 ∨ (Bytes.ofText text).length = 64
  digits : ∀ b ∈ Bytes.ofText text, Hex.digitValue? b ≠ none

theorem digits_iff_bytes : (∀ c ∈ text.toList, c ∈ Hex.allDigits) ↔
    ∀ b ∈ Bytes.ofText text, Hex.digitValue? b ≠ none := by
  simp only [Bytes.ofText_eq_flatMap, List.mem_flatMap, Hex.mem_allDigits_iff_bytes]
  constructor
  · rintro all b ⟨c, mem, here⟩
    exact all c mem b here
  · exact fun all c mem b here => all b ⟨c, mem, here⟩

/-- A text is read if its bytes are digits, as many as an id has. -/
theorem parse_iff_isDigest : (∃ id, parse text = .ok id) ↔ IsDigest text := by
  constructor
  · rintro ⟨id, read⟩
    have spells := parse_eq_ok_iff.1 read
    refine ⟨?_, digits_iff_bytes.1 spells.digits⟩
    rw [Bytes.length_ofText, spells.utf8ByteSize_eq]
    exact id.canonical.length_eq
  · rintro ⟨length, digits⟩
    rw [Bytes.length_ofText] at length
    unfold parse
    rw [dif_pos length, dif_pos (Hex.isHex_iff.2 (digits_iff_bytes.2 digits))]
    exact ⟨_, rfl⟩

/-- A text spells the id whose digits it has in lower case. -/
theorem spells_iff : id.Spells text ↔ text.toList.map Char.toLower = id.text.toList := by
  constructor
  · intro spells
    rw [← spells.lower, lower, String.toList_ofList]
  · intro same
    refine ⟨fun c mem => Hex.mem_allDigits_iff.2 (id.canonical.lowerDigits _ ?_), ?_⟩
    · exact same ▸ List.mem_map_of_mem mem
    · rw [lower, same, String.ofList_toList]

/-- The texts that are read as an id are those that differ from one of them in nothing but the
case of letters. -/
theorem parse_iff_sameButCase (read : parse text = .ok id) :
    parse text' = .ok id ↔ Hex.SameButCase text' text := by
  rw [parse_eq_ok_iff, spells_iff, ← spells_iff.1 (parse_eq_ok_iff.1 read)]
  rfl

/-! ## What holds of every id -/

/-- What holds of every id: how it looks, where it is cut, and that it is read back. -/
structure Regular (id : BlockId) : Prop where
  digest : IsDigest id.text
  lower : lower id.text = id.text
  group : Text.takeBytes? 2 id.text.toList = some id.group.toList
  member : Text.dropBytes? 2 id.text.toList = some id.member.toList
  short : ∃ front, Text.takeBytes? 8 id.text.toList = some front ∧
    id.short = "BlockId(" ++ String.ofList front ++ ")"
  whole : id.group ++ id.member = id.text
  parse_text : parse id.text = .ok id

theorem regular (id : BlockId) : id.Regular := by
  have single : ∀ c ∈ id.text.toList, c.utf8Size = 1 := fun c mem =>
    Hex.utf8Size_of_mem_allDigits (id.spells_text.digits c mem)
  have long : 8 ≤ id.text.toList.length := by
    rcases id.canonical.length_eq with length | length <;> omega
  have two : 2 ≤ id.text.toList.length := Nat.le_trans (by decide) long
  refine ⟨parse_iff_isDigest.1 ⟨id, id.parse_text⟩, id.spells_text.lower, ?_, ?_, ?_, ?_,
    id.parse_text⟩
  · rw [Text.takeBytes?_of_single single two, group, String.toList_ofList]
  · rw [Text.dropBytes?_of_single single two, member, String.toList_ofList]
  · exact ⟨_, Text.takeBytes?_of_single single long, rfl⟩
  · rw [group, member, ← String.ofList_append, List.take_append_drop, String.ofList_toList]

end BlockId

/-! ## Ids in records -/

namespace Codec

variable {id : BlockId}

/-- JSON gives the id that a text in it is read as. -/
theorem blockId_ofJson?_iff {tree : Json} : blockId.ofJson? tree = some id ↔
    ∃ text, tree.text? = some text ∧ BlockId.parse text = .ok id := by
  show tree.text?.bind (fun text => (BlockId.parse text).toOption) = some id ↔ _
  rw [Option.bind_eq_some_iff]
  refine exists_congr fun text => and_congr_right fun _ => ?_
  cases BlockId.parse text <;> simp [Except.toOption]

/-- A record gives the id that a text in it is read as. -/
theorem blockId_read_iff {input rest : Bytes} : blockId.wire.read input = .ok (id, rest) ↔
    ∃ text, BlockId.parse text = .ok id ∧ input = Wire.Format.text.write text ++ rest := by
  simp only [BlockId.parse_eq_ok_iff]
  refine Wire.Format.blockId_reads.iff.trans ⟨?_, ?_⟩
  · rintro ⟨_, ⟨text, spells, rfl⟩, rfl⟩
    exact ⟨text, spells, rfl⟩
  · rintro ⟨text, spells, rfl⟩
    exact ⟨_, ⟨text, spells, rfl⟩, rfl⟩

end Codec

end StreamGate
