import Mathlib.Tactic.NormNum
import StreamGate.Proofs.Bytes.Hexadecimal
import StreamGate.Record.Codec

/-!
# Records read back

What was written for a value is read back as the value, whatever comes behind it, and so
is a record that is stored.  A length has eight bytes in front of a text or a list, so texts
and lists have to be shorter than 2^64.

* `Wire.Format.RoundTrips`: a value is read back.
* `RoundTrips.map`, `RoundTrips.refine`, `RoundTrips.pair`, `RoundTrips.list`: formats made
  of formats.
* `Codec.grant_roundTrips` and so on: the records of a catalog.
-/

namespace StreamGate

/-! ## Numbers as bytes -/

namespace Bytes

theorem toNat_littleEndian {width n : Nat} (fits : n < 256 ^ width) :
    toNat (littleEndian width n) = n := by
  induction width generalizing n with
  | zero =>
    rw [Nat.pow_zero] at fits
    obtain rfl : n = 0 := by omega
    rfl
  | succ width ih =>
    have rest : n / 256 < 256 ^ width := Nat.div_lt_of_lt_mul (by rwa [Nat.pow_succ'] at fits)
    show (UInt8.ofNat n).toNat + 256 * toNat (littleEndian width (n / 256)) = n
    rw [ih rest, UInt8.toNat_ofNat']
    omega

end Bytes

namespace BlockId

theorem mem_allDigits (id : BlockId) : ∀ c ∈ id.text.toList, c ∈ Hex.allDigits := fun c mem =>
  List.mem_append_left _ (id.canonical.lowerDigits c mem)

theorem utf8ByteSize_text (id : BlockId) : id.text.utf8ByteSize = id.text.toList.length := by
  have size := Bytes.utf8ByteSize_ofList fun c mem =>
    Hex.utf8Size_of_mem_allDigits (id.mem_allDigits c mem)
  rwa [String.ofList_toList] at size

/-- An id is the id that its text spells. -/
theorem parse_text (id : BlockId) : parse id.text = .ok id := by
  have same : lower id.text = id.text := by
    have fixed : id.text.toList.map Char.toLower = id.text.toList.map fun c => c :=
      List.map_congr_left fun c mem =>
        Hex.toLower_of_mem_lowerDigits c (id.canonical.lowerDigits c mem)
    rw [lower, fixed, List.map_id', String.ofList_toList]
  unfold parse
  rw [dif_pos (id.utf8ByteSize_text ▸ id.canonical.length_eq),
    dif_pos (Hex.isHex_iff.2 id.mem_allDigits)]
  exact congrArg Except.ok (BlockId.ext same)

theorem utf8ByteSize_lt (id : BlockId) : id.text.utf8ByteSize < 2 ^ 64 := by
  have length := id.canonical.length_eq
  rw [id.utf8ByteSize_text]
  omega

end BlockId

namespace Wire.Format

variable {α β : Type} {f : Format α} {g : Format β}

/-- What was written for a value is read back, whatever comes behind it. -/
def RoundTrips (f : Format α) (a : α) : Prop := ∀ rest, f.read (f.write a ++ rest) = .ok (a, rest)

theorem RoundTrips.decode {a : α} (h : f.RoundTrips a) : Wire.decode f (f.write a) = .ok a := by
  have read := h []
  rw [List.append_nil] at read
  rw [Wire.decode, read]

/-- Whatever is read next is read from what comes behind the value. -/
theorem RoundTrips.bind {a : α} (h : f.RoundTrips a) (rest : Bytes)
    (next : α × Bytes → Except Fault β) : f.read (f.write a ++ rest) >>= next = next (a, rest) := by
  rw [h rest]
  rfl

theorem RoundTrips.map {make : α → β} {back : β → α} {a : α} {b : β} (h : f.RoundTrips a)
    (writes : back b = a) (reads : make a = b) : (f.map make back).RoundTrips b := by
  subst writes
  intro rest
  exact (h.bind rest _).trans (congrArg (fun b => Except.ok (b, rest)) reads)

theorem RoundTrips.refine {make? : α → Except Fault β} {back : β → α} {a : α} {b : β}
    (h : f.RoundTrips a) (writes : back b = a) (reads : make? a = .ok b) :
    (f.refine make? back).RoundTrips b := by
  subst writes
  intro rest
  refine (h.bind rest _).trans ?_
  show (make? (back b) >>= fun b => pure (b, rest)) = _
  rw [reads]
  rfl

theorem RoundTrips.pair {a : α} {b : β} (h : f.RoundTrips a) (h' : g.RoundTrips b) :
    (f.pair g).RoundTrips (a, b) := by
  intro rest
  show (f.pair g).read ((f.write a ++ g.write b) ++ rest) = _
  rw [List.append_assoc]
  exact (h.bind _ _).trans (h'.bind _ _)

/-! ## Numbers -/

theorem nat_roundTrips (width : Nat) {n : Nat} (fits : n < 256 ^ width) :
    (nat width).RoundTrips n := by
  intro rest
  have length := Bytes.length_littleEndian width n
  show (if (Bytes.littleEndian width n ++ rest).length < width then Except.error Fault.endOfInput
    else .ok (Bytes.toNat ((Bytes.littleEndian width n ++ rest).take width),
      (Bytes.littleEndian width n ++ rest).drop width)) = _
  rw [if_neg (by rw [List.length_append]; omega), List.take_left' length, List.drop_left' length,
    Bytes.toNat_littleEndian fits]

theorem length_roundTrips {n : Nat} (fits : n < 2 ^ 64) : (nat 8).RoundTrips n :=
  nat_roundTrips 8 (by norm_num at fits ⊢; exact fits)

theorem u32_roundTrips (n : UInt32) : u32.RoundTrips n :=
  (nat_roundTrips 4 n.toNat_lt).map rfl UInt32.ofNat_toNat

theorem u64_roundTrips (n : UInt64) : u64.RoundTrips n :=
  (length_roundTrips n.toNat_lt).map rfl UInt64.ofNat_toNat

theorem bool_roundTrips (b : Bool) : bool.RoundTrips b := by
  intro rest
  cases b <;> rfl

/-! ## Texts and lists -/

theorem bytes_roundTrips {bytes : Bytes} (fits : bytes.length < 2 ^ 64) :
    Format.bytes.RoundTrips bytes := by
  intro rest
  show Format.bytes.read (((nat 8).write bytes.length ++ bytes) ++ rest) = _
  rw [List.append_assoc]
  refine ((length_roundTrips fits).bind _ _).trans ?_
  show (do
    if (bytes ++ rest).length < bytes.length then throw Fault.shortText
    return ((bytes ++ rest).take bytes.length, (bytes ++ rest).drop bytes.length)) = _
  rw [if_neg (by rw [List.length_append]; omega), List.take_left, List.drop_left]
  rfl

theorem text_roundTrips {text : String} (fits : text.utf8ByteSize < 2 ^ 64) :
    Format.text.RoundTrips text := by
  refine (bytes_roundTrips ?_).refine rfl ?_
  · rwa [Bytes.length_ofText]
  · rw [spell, Bytes.toText?_ofText]

theorem readMany_roundTrips {as : List α} (each : ∀ a ∈ as, f.RoundTrips a) (rest : Bytes) :
    readMany f as.length (as.flatMap f.write ++ rest) = .ok (as, rest) := by
  induction as with
  | nil => rfl
  | cons a as ih =>
    rw [List.flatMap_cons, List.append_assoc]
    refine ((each a (.head _)).bind _ _).trans ?_
    show readMany f as.length (as.flatMap f.write ++ rest) >>= _ = _
    rw [ih fun a mem => each a (.tail _ mem)]
    rfl

theorem list_roundTrips {as : List α} (each : ∀ a ∈ as, f.RoundTrips a)
    (fits : as.length < 2 ^ 64) : (list f).RoundTrips as := by
  intro rest
  show (list f).read (((nat 8).write as.length ++ as.flatMap f.write) ++ rest) = _
  rw [List.append_assoc]
  exact ((length_roundTrips fits).bind _ _).trans (readMany_roundTrips each rest)

theorem blockId_roundTrips (id : BlockId) : blockId.RoundTrips id := by
  refine (text_roundTrips id.utf8ByteSize_lt).refine rfl ?_
  rw [id.parse_text]
  rfl

end Wire.Format

/-! ## Records -/

namespace Codec

open Wire.Format

theorem operation_roundTrips (op : Operation) : operation.wire.RoundTrips op := by
  refine (nat_roundTrips 4 ?_).refine rfl ?_
  · cases op <;> decide
  · rw [operationOfIndex, Operation.ofIndex?_index]

theorem grant_roundTrips {g : Grant} (repoId : g.repoId.utf8ByteSize < 2 ^ 64)
    (objectId : g.objectId.utf8ByteSize < 2 ^ 64) (username : g.username.utf8ByteSize < 2 ^ 64) :
    grant.wire.RoundTrips g := by
  have fields := (text_roundTrips repoId).pair ((text_roundTrips objectId).pair
    ((operation_roundTrips g.operation).pair (text_roundTrips username)))
  dsimp only [grant]
  exact fields.map (by rfl) (by rfl)

theorem repo_roundTrips {r : Repo} (repoId : r.repoId.utf8ByteSize < 2 ^ 64)
    (storeId : r.storeId.utf8ByteSize < 2 ^ 64) : repo.wire.RoundTrips r := by
  have fields := (text_roundTrips repoId).pair ((text_roundTrips storeId).pair
    ((u32_roundTrips r.version).pair ((bool_roundTrips r.encrypted).pair
      (u32_roundTrips r.encVersion))))
  dsimp only [repo]
  exact fields.map (by rfl) (by rfl)

theorem manifest_roundTrips {m : Manifest} (blocks : m.blocks.length < 2 ^ 64) :
    manifest.wire.RoundTrips m := by
  have ids := list_roundTrips (fun id (_ : id ∈ m.blocks) => blockId_roundTrips id) blocks
  have fields := (u64_roundTrips m.fileSize).pair ids
  dsimp only [manifest]
  exact fields.map (by rfl) (by rfl)

theorem keyMaterial_roundTrips {k : KeyMaterial} (keyHex : k.keyHex.utf8ByteSize < 2 ^ 64)
    (ivHex : k.ivHex.utf8ByteSize < 2 ^ 64) : keyMaterial.wire.RoundTrips k := by
  have fields := (text_roundTrips keyHex).pair (text_roundTrips ivHex)
  dsimp only [keyMaterial]
  exact fields.map (by rfl) (by rfl)

end Codec

end StreamGate
