import StreamGate.Proofs.Catalog.LastWrite
import StreamGate.Proofs.Record.Spelling

/-!
# The stored forms of records

What bytes in a tree of the catalog are read as.  A record is read back from the bytes
that were written for it, and from nothing else, but for the ids in a manifest, which
may have been written in either case and come out in lower case.

* `CatalogValue.read`: the record that bytes in a tree hold.
* `CatalogValue.Spells`: the bytes that hold a record.
* `CatalogValue.read_iff`: the two are each other's inverse.
* `CatalogValue.stored_exactly`: what is read back, what is refused, and what is lost.
-/

namespace StreamGate

open Wire Wire.Format

/-! ## The formats of records -/

namespace Codec

theorem index_getElem : ∀ i : Fin Operation.all.length, i.val = (Operation.all[i]).index := by
  decide

theorem operationOfIndex_eq_ok_iff (n : Nat) (op : Operation) :
    operationOfIndex n = .ok op ↔ n = op.index := by
  constructor
  · intro named
    unfold operationOfIndex at named
    split at named
    · rename_i found
      cases named
      obtain ⟨inside, rfl⟩ := List.getElem?_eq_some_iff.1 found
      exact index_getElem ⟨n, inside⟩
    · cases named
  · rintro rfl
    rw [operationOfIndex, Operation.ofIndex?_index]

theorem operation_canonical : operation.wire.Canonical fun _ => True := by
  refine ((nat_canonical 4).refine operationOfIndex_eq_ok_iff).congr fun op raw => ?_
  have small : op.index < 256 ^ 4 := by cases op <;> decide
  exact and_congr_left' (iff_true_intro small)

theorem grant_canonical : grant.wire.Canonical fun g => (CatalogValue.grant g).Fits := by
  have fields := text_canonical.pair (text_canonical.pair (operation_canonical.pair text_canonical))
  dsimp only [grant]
  refine Reads.congr (fields.map (fun _ _ => rfl) fun _ => rfl) fun g raw => and_congr_left' ?_
  simp [CatalogValue.Fits]

theorem repo_canonical : repo.wire.Canonical fun r => (CatalogValue.repo r).Fits := by
  have fields := text_canonical.pair (text_canonical.pair
    (u32_canonical.pair (bool_canonical.pair u32_canonical)))
  dsimp only [repo]
  refine Reads.congr (fields.map (fun _ _ => rfl) fun _ => rfl) fun r raw => and_congr_left' ?_
  simp [CatalogValue.Fits]

theorem keyMaterial_canonical :
    keyMaterial.wire.Canonical fun k => (CatalogValue.material k).Fits := by
  dsimp only [keyMaterial]
  exact (text_canonical.pair text_canonical).map (fun _ _ => rfl) fun _ => rfl

end Codec

/-- The ids of a manifest may be spelled with digits in either case, all else is as it is
written. -/
def Manifest.Spells (m : Manifest) (raw : Bytes) : Prop :=
  ∃ texts, List.Forall₂ BlockId.Spells m.blocks texts ∧
    raw = u64.write m.fileSize ++ (list text).write texts

namespace Manifest

theorem spells_write (m : Manifest) : m.Spells (Codec.manifest.wire.write m) := by
  refine ⟨m.blocks.map BlockId.text, ?_, ?_⟩
  · rw [List.forall₂_map_right_iff, List.forall₂_same]
    exact fun id _ => id.spells_text
  · show _ ++ (_ ++ m.blocks.flatMap blockId.write) = _ ++ (_ ++ List.flatMap text.write _)
    rw [List.flatMap_map, List.length_map]
    rfl

/-- Several ids are spelled by texts that spell one each. -/
theorem forall₂_texts_iff {ids : List BlockId} {raws : List Bytes} :
    List.Forall₂ (fun id raw => ∃ t, BlockId.Spells id t ∧ raw = text.write t) ids raws ↔
      ∃ texts, List.Forall₂ BlockId.Spells ids texts ∧ raws = texts.map text.write := by
  constructor
  · intro spelled
    induction spelled with
    | nil => exact ⟨[], .nil, rfl⟩
    | cons first _ ih =>
      obtain ⟨t, spells, rfl⟩ := first
      obtain ⟨texts, others, rfl⟩ := ih
      exact ⟨t :: texts, .cons spells others, rfl⟩
  · rintro ⟨texts, spelled, rfl⟩
    rw [List.forall₂_map_right_iff]
    exact spelled.imp fun _ t spells => ⟨t, spells, rfl⟩

theorem wire_reads : Codec.manifest.wire.Reads fun m raw =>
    (CatalogValue.manifest m).Fits ∧ m.Spells raw := by
  dsimp only [Codec.manifest]
  refine ((Reads.pair u64_canonical blockId_reads.list).map _ _).congr fun m raw => ?_
  constructor
  · rintro ⟨⟨size, ids⟩, rfl, _, _, ⟨-, rfl⟩, ⟨fits, raws, spelled, rfl⟩, rfl⟩
    obtain ⟨texts, spells, rfl⟩ := forall₂_texts_iff.1 spelled
    refine ⟨fits, texts, spells, ?_⟩
    rw [spells.length_eq]
    rfl
  · rintro ⟨fits, texts, spells, rfl⟩
    refine ⟨(m.fileSize, m.blocks), rfl, _, _, ⟨trivial, rfl⟩,
      ⟨fits, texts.map text.write, forall₂_texts_iff.2 ⟨texts, spells, rfl⟩, ?_⟩, rfl⟩
    rw [spells.length_eq]
    rfl

end Manifest

/-! ## Records of any kind -/

namespace CatalogValue

/-- The record that bytes in a tree hold. -/
def read : TreeName → Bytes → Except Failure CatalogValue
  | .grants, bytes => (decode Codec.grant.wire bytes).map grant
  | .repos, bytes => (decode Codec.repo.wire bytes).map repo
  | .manifests, bytes => (decode Codec.manifest.wire bytes).map manifest
  | .keys, bytes => (decode Codec.keyMaterial.wire bytes).map material

/-- The bytes that hold a record: those written for it, and for a manifest any that differ
from them in the case of the digits of its ids only. -/
def Spells : CatalogValue → Bytes → Prop
  | manifest m, raw => m.Spells raw
  | v, raw => raw = v.bytes

theorem spells_bytes (v : CatalogValue) : v.Spells v.bytes := by
  cases v with
  | manifest m => exact m.spells_write
  | grant | repo | material => rfl

theorem map_decode_iff {α : Type} {f : Format α} {spells : α → Bytes → Prop}
    (reads : f.Reads spells) {make : α → CatalogValue} {input : Bytes} {v : CatalogValue} :
    (decode f input).map make = .ok v ↔ ∃ a, make a = v ∧ ∃ raw, spells a raw ∧ raw <+: input := by
  simp only [← reads.decode_iff]
  cases decode f input with
  | error e => simp [Except.map]
  | ok a => simp [Except.map]

/-- A record is read in its own tree from its spellings, whatever is behind them, and from
nothing else. -/
theorem read_iff {tree : TreeName} {input : Bytes} {v : CatalogValue} :
    read tree input = .ok v ↔
      v.tree = tree ∧ v.Fits ∧ ∃ raw, v.Spells raw ∧ raw <+: input := by
  cases tree with
  | grants =>
    rw [read, map_decode_iff Codec.grant_canonical]
    cases v <;> simp [CatalogValue.tree, Spells, bytes]
  | repos =>
    rw [read, map_decode_iff Codec.repo_canonical]
    cases v <;> simp [CatalogValue.tree, Spells, bytes]
  | manifests =>
    rw [read, map_decode_iff Manifest.wire_reads]
    cases v <;> simp [CatalogValue.tree, Spells, and_assoc]
  | keys =>
    rw [read, map_decode_iff Codec.keyMaterial_canonical]
    cases v <;> simp [CatalogValue.tree, Spells, bytes]

/-- A record whose bytes are cut short is refused. -/
theorem refuses_part {v : CatalogValue} (fits : v.Fits) {part : Bytes} (begins : part <+: v.bytes)
    (short : part ≠ v.bytes) : ∃ e, read v.tree part = .error e := by
  have refused {α : Type} {f : Format α} {spells : α → Bytes → Prop} {a : α}
      (make : α → CatalogValue) (reads : f.Reads spells) (spelled : spells a v.bytes) :
      ∃ e, (decode f part).map make = .error e := by
    obtain ⟨e, refused⟩ := reads.refuses_part spelled begins short
    exact ⟨e, by rw [refused]; rfl⟩
  cases v with
  | grant g => exact refused _ Codec.grant_canonical ⟨fits, rfl⟩
  | repo r => exact refused _ Codec.repo_canonical ⟨fits, rfl⟩
  | manifest m => exact refused _ Manifest.wire_reads ⟨fits, m.spells_write⟩
  | material k => exact refused _ Codec.keyMaterial_canonical ⟨fits, rfl⟩

/-- A record is read back from its bytes whatever comes behind them, and no part of them
will do.  Whatever is read from some bytes is written as they begin, but for the case of
the ids in a manifest, which are 40 or 64 digits in lower case however they were
spelled. -/
theorem stored_exactly :
    (∀ v : CatalogValue, v.Fits → ∀ more, read v.tree (v.bytes ++ more) = .ok v) ∧
    (∀ v : CatalogValue, v.Fits → ∀ part, part <+: v.bytes → part ≠ v.bytes →
      ∃ e, read v.tree part = .error e) ∧
    (∀ tree input v, read tree input = .ok v ↔
      v.tree = tree ∧ v.Fits ∧ ∃ raw, v.Spells raw ∧ raw <+: input) ∧
    ∀ input m, read .manifests input = .ok (manifest m) → ∀ id ∈ m.blocks,
      (id.text.toList.length = 40 ∨ id.text.toList.length = 64) ∧
        ∀ c ∈ id.text.toList, c ∈ Hex.lowerDigits := by
  refine ⟨fun v fits more => ?_, fun v fits part => refuses_part fits, fun tree input v => read_iff,
    fun input m _ id _ => ⟨id.canonical.length_eq, id.canonical.lowerDigits⟩⟩
  exact read_iff.2 ⟨rfl, fits, v.bytes, v.spells_bytes, more, rfl⟩

/-- A manifest whose id is spelled in upper case is read, but not written so. -/
theorem stored_exactly_of_upperCase :
    let id : BlockId := ⟨String.ofList (List.replicate 40 'a'), by simp, by simp [Hex.lowerDigits]⟩
    let m : Manifest := ⟨5, [id]⟩
    let raw := u64.write 5 ++ (list text).write [String.ofList (List.replicate 40 'A')]
    (manifest m).Fits ∧ read .manifests (manifest m).bytes = .ok (manifest m) ∧
      read .manifests (raw ++ [7]) = .ok (manifest m) ∧ raw ≠ (manifest m).bytes := by
  intro id m raw
  have fits : (manifest m).Fits := by simp [Fits, m]
  obtain ⟨back, -, exact, -⟩ := stored_exactly
  refine ⟨fits, ?_, (exact _ _ _).2 ⟨rfl, fits, raw, ⟨_, .cons ⟨?_, ?_⟩ .nil, rfl⟩, [7], rfl⟩, ?_⟩
  · have whole := back (manifest m) fits []
    rwa [List.append_nil] at whole
  · simp [Hex.allDigits]
  · simp [BlockId.lower, id]
  · decide +kernel

end CatalogValue

end StreamGate
