import StreamGate.Proofs.Range
import StreamGate.Proofs.Transfer.Feed

/-!
# Ranges of files

A range is found by the sizes of the blocks, and then comes out like the rest of
a file.

* `Cursor.locate_located`: the block with the first byte is found by looking up
  the sizes up to this block, each once.
* `Cursor.skipBytes_skipped`: what comes before the range in this block is read
  and dropped.
* `Cursor.range_transfer_exact`: exactly the range comes out.
* `Cursor.range_of_all`: the one range that is too long to be counted.
-/

namespace StreamGate

variable {World Handle : Type}

namespace Cursor

variable {bs : BlockStore World Handle} {shelf : Shelf World Handle} {ref : StoreRef}
  {blocks : List BlockId} {w : World}

/-! ## Finding the first block -/

/-- What looking for the byte at `offset` comes to. -/
def Located (shelf : Shelf World Handle) (blocks : List BlockId) (offset : Nat) :
    Except Failure (Option (Fin blocks.length × Nat)) × World → Prop
  | (.ok (some (i, before)), w) =>
    shelf.good ((blocks.take (i + 1)).map .sized) w ∧
      before = ((blocks.take i).flatMap shelf.content).length ∧ before ≤ offset ∧
      offset < before + (shelf.content blocks[i]).length
  | (.ok none, w) =>
    shelf.good (blocks.map .sized) w ∧ (blocks.flatMap shelf.content).length ≤ offset
  | (.error e, _) => shelf.fault e

theorem locate_located (measured : bs.Measured shelf ref blocks) {offset : Nat} (i before : Nat)
    (good : shelf.good ((blocks.take i).map .sized) w) (hi : i ≤ blocks.length)
    (hbefore : before = ((blocks.take i).flatMap shelf.content).length) (le : before ≤ offset) :
    Located shelf blocks offset (locate bs ref blocks offset i before w) := by
  fun_induction locate bs ref blocks offset i before w with
  | case1 i before w h e w' looked =>
    have sizes := measured.stat (List.getElem_mem h) good
    rw [looked] at sizes
    exact sizes.2
  | case2 i before w h size w' looked found =>
    have sizes := measured.stat (List.getElem_mem h) good
    rw [looked] at sizes
    obtain ⟨good', hsize⟩ := sizes
    rw [← List.map_singleton, ← List.map_append, List.take_append_getElem h] at good'
    exact ⟨good', hbefore, le, hsize ▸ found⟩
  | case3 i before w h size w' looked beyond ih =>
    have sizes := measured.stat (List.getElem_mem h) good
    rw [looked] at sizes
    obtain ⟨good', hsize⟩ := sizes
    rw [← List.map_singleton, ← List.map_append, List.take_append_getElem h] at good'
    refine ih good' h ?_ (by omega)
    rw [← List.take_append_getElem h, List.flatMap_append, List.length_append, ← hbefore,
      List.flatMap_singleton, hsize]
  | case4 i before w h =>
    have hi : i = blocks.length := by omega
    rw [hi, List.take_length] at good hbefore
    exact ⟨good, hbefore ▸ le⟩

/-! ## Skipping to the first byte -/

/-- What skipping to where a block has `rest` left comes to. -/
def Skipped (shelf : Shelf World Handle) (visits : List Visit) (rest : Bytes) :
    Except TransferError Unit × OpenBlock Handle × World → Prop
  | (.ok (), b, w) => shelf.good visits w ∧ shelf.left w b.handle rest
  | (.error e, _, _) => ∃ f, shelf.fault f ∧ e = .block f

theorem skipBytes_skipped {t : Feed World Handle} (offset : Nat) (served : t.Served bs)
    {visits : List Visit} {buffer skip : Nat} {b : OpenBlock Handle} {rest : Bytes}
    (pos : 0 < buffer)
    (good : t.shelf.good visits w) (left : t.shelf.left w b.handle rest)
    (enough : skip ≤ rest.length) :
    Skipped t.shelf visits (rest.drop skip) (skipBytes bs buffer offset b skip w) := by
  fun_induction skipBytes bs buffer offset b skip w generalizing rest with
  | case1 b w => exact ⟨good, left⟩
  | case2 b skip w hpos e b' w' taken =>
    have hread := served.readBlock (min skip buffer) good left
    rw [taken] at hread
    exact hread.2.2.2.2
  | case3 b skip w hpos b' w' taken =>
    have hread := served.readBlock (min skip buffer) good left
    rw [taken] at hread
    obtain ⟨-, -, hempty, -⟩ := hread
    rcases hempty rfl with hzero | hnil
    · omega
    · rw [hnil, List.length_nil] at enough
      omega
  | case4 b skip w hpos x more b' w' taken ih =>
    have hread := served.readBlock (min skip buffer) good left
    rw [taken] at hread
    obtain ⟨good', hwant, -, -, -, rest', rfl, left'⟩ := hread
    simp only [List.length_append, List.length_cons] at enough hwant
    have hdrop : (x :: more ++ rest').drop skip = rest'.drop (skip - (more.length + 1)) := by
      rw [List.drop_append, List.drop_of_length_le (by simp only [List.length_cons]; omega),
        List.nil_append, List.length_cons]
    rw [hdrop]
    exact ih good' left' (by omega)

end Cursor

/-! ## The start of a range -/

namespace Feed

/-- The feed of a range whose first byte is in the block at position `i`. -/
def fromBlock (shelf : Shelf World Handle) (ref : StoreRef) (blocks : List BlockId) (i stop : Nat) :
    Feed World Handle where
  shelf := shelf
  store := ref
  blocks := blocks
  key := none
  plain := shelf.content
  before := (blocks.take (i + 1)).map .sized
  first := i
  stop := stop

variable {shelf : Shelf World Handle} {ref : StoreRef} {blocks : List BlockId} {i stop : Nat}
  {w : World}

theorem length_behind_mono (t : Feed World Handle) {p q : Nat} (le : p ≤ q) :
    (t.behind p).length ≤ (t.behind q).length := by
  obtain ⟨rest, hrest⟩ := List.take_prefix_take_left (l := t.blocks) le
  rw [behind, behind, ← hrest, List.flatMap_append, List.length_append]
  exact Nat.le_add_right _ _

theorem visited_fromBlock (hi : i < blocks.length)
    (good : shelf.good ((blocks.take (i + 1)).map .sized) w)
    (begins : ((fromBlock shelf ref blocks i stop).behind i).length < stop) :
    (fromBlock shelf ref blocks i stop).Visited i w where
  good := by
    have hnil : (blocks.take i).drop i = [] := List.drop_of_length_le (List.length_take_le i blocks)
    show shelf.good (_ ++ ((blocks.take i).drop i).map .opened) w
    rw [hnil, List.map_nil, List.append_nil]
    exact good
  reached := by
    refine ⟨Nat.le_refl i, Nat.le_of_lt hi, fun p hp => ?_⟩
    exact Nat.lt_of_le_of_lt (length_behind_mono _ (Nat.le_of_lt hp)) begins

/-- Dropping more than what is behind a block drops from the block on. -/
theorem drop_file (t : Feed World Handle) {i offset : Nat} (le : (t.behind i).length ≤ offset) :
    t.file.drop offset = (t.ahead i).drop (offset - (t.behind i).length) := by
  rw [← t.behind_append_ahead i, List.drop_append, List.drop_of_length_le le, List.nil_append]

/-- A cursor that has skipped bytes of the block it has just opened. -/
theorem Stands.skip {t : Feed World Handle} {bs : BlockStore World Handle} {c : Cursor Handle}
    {b : OpenBlock Handle} {h : c.index < c.blocks.length} {skip : Nat} (offset : Nat)
    (served : t.Served bs) (plain : t.key = none) (i : c.index < t.blocks.length)
    (stands : t.Stands (c.holding b h) w (t.ahead c.index))
    (enough : skip ≤ (t.plain t.blocks[c.index]).length) :
    match Cursor.skipBytes bs c.buffer offset b skip w with
    | (.ok (), b', w') => t.Stands (c.holding b' h) w' ((t.ahead c.index).drop skip)
    | (.error e, _, _) => ∃ f, t.shelf.fault f ∧ e = .block f := by
  obtain ⟨_, more, pending, split⟩ := stands.within b rfl
  have hmore : more = t.plain t.blocks[c.index] :=
    (List.append_cancel_right ((t.ahead_of_lt i).symm.trans split)).symm
  have enough' : skip ≤ more.length := by
    rw [hmore]
    exact enough
  have skipped := Cursor.skipBytes_skipped offset served c.buffer_pos
    stands.visited.good ((pending_plain plain).1 pending) enough'
  generalize Cursor.skipBytes bs c.buffer offset b skip w = answer at skipped ⊢
  obtain ⟨e | u, b', w'⟩ := answer
  · exact skipped
  · obtain ⟨good, left⟩ := skipped
    have hsplit : t.ahead c.index = more ++ t.ahead (c.index + 1) := split
    show t.Stands (c.holding b' h) w' ((t.ahead c.index).drop skip)
    rw [hsplit, List.drop_append_of_le_length enough']
    exact stands.holding i good ((pending_plain plain).2 left)

end Feed

namespace Cursor

variable {bs : BlockStore World Handle} {shelf : Shelf World Handle} {w : World}

/-- What positioning a range comes to: the cursor stands at its first byte, or the
file ends before. -/
def Positioned (shelf : Shelf World Handle) (ref : StoreRef) (blocks : List BlockId)
    (remaining offset stop : Nat) : Except TransferError Unit × Cursor Handle × World → Prop
  | (.ok (), c, w) =>
    ∃ i < blocks.length, ((blocks.take i).flatMap shelf.content).length ≤ offset ∧
      offset < ((blocks.take (i + 1)).flatMap shelf.content).length ∧ c.remaining = remaining ∧
      (Feed.fromBlock shelf ref blocks i stop).Stands c w
        ((blocks.flatMap shelf.content).drop offset)
  | (.error e, _, w) =>
    (∃ f, shelf.fault f ∧ e = .block f) ∨
      (e = .rangeOutsideBlocks offset ∧ (blocks.flatMap shelf.content).length ≤ offset ∧
        shelf.good (blocks.map .sized) w)

/-- The part of `position` that follows the opening of the block. -/
def skipInto (bs : BlockStore World Handle) (c : Cursor Handle) (h : c.index < c.blocks.length)
    (offset skip : Nat) : Except TransferError (OpenBlock Handle) × World →
      Except TransferError Unit × Cursor Handle × World
  | (.error e, w) => (.error e, c, w)
  | (.ok b, w) =>
    let (r, b, w) := skipBytes bs c.buffer offset b skip (c.closeCurrent bs w)
    (r, c.holding b h, w)

theorem position_positioned {c : Cursor Handle} {offset stop : Nat}
    (honest : bs.Honest shelf c.store c.blocks) (measured : bs.Measured shelf c.store c.blocks)
    (plain : c.key = none) (closed : c.current = none) (good : shelf.good [] w)
    (lt : offset < stop) :
    Positioned shelf c.store c.blocks c.remaining offset stop (c.position bs offset w) := by
  have located := locate_located measured 0 0 good (Nat.zero_le _) rfl (Nat.zero_le offset)
  unfold position
  generalize locate bs c.store c.blocks offset 0 0 w = answer at located ⊢
  obtain ⟨e | _ | ⟨i, before⟩, w'⟩ := answer
  · exact .inl ⟨e, located, rfl⟩
  · exact .inr ⟨rfl, located.2, located.1⟩
  · obtain ⟨good', hbefore, hle, hlt⟩ := located
    let t := Feed.fromBlock shelf c.store c.blocks i stop
    let c₁ : Cursor Handle := { c with index := i.val, index_lt := fun _ => i.isLt }
    have served : t.Served bs := .of_plain honest rfl rfl
    have hbehind : (t.behind i).length = before := hbefore.symm
    have begins : (t.behind i).length < stop := by omega
    have visited : t.Visited c₁.next w' := by
      rw [next_of_none (c := c₁) closed]
      exact Feed.visited_fromBlock i.isLt good' begins
    have stands : t.Stands c₁ w' (t.ahead i) := by
      refine ⟨rfl, rfl, plain, visited, fun _ => rfl, fun b current => ?_⟩
      have hnone : none = some b := closed.symm.trans current
      cases hnone
    have opened := stands.openAt served closed i.isLt begins
    have hclose (w : World) : c₁.closeCurrent bs w = w := by
      unfold closeCurrent
      rw [show c₁.current = none from closed]
    show Positioned shelf c.store c.blocks c.remaining offset stop
      (skipInto bs c₁ i.isLt offset (offset - before) (openAt bs c₁ i.isLt w'))
    generalize openAt bs c₁ i.isLt w' = answer at opened ⊢
    obtain ⟨e | b, w''⟩ := answer
    · obtain ⟨-, f, fault, rfl⟩ := opened
      exact .inl ⟨f, fault, rfl⟩
    · have inside : offset - before ≤ (shelf.content c.blocks[i]).length := by omega
      have skipped := opened.skip offset served rfl i.isLt inside
      simp only [skipInto, hclose]
      generalize skipBytes bs c₁.buffer offset b (offset - before) w'' = answer at skipped ⊢
      obtain ⟨e | u, b', w₃⟩ := answer
      · exact .inl skipped
      · refine ⟨i, i.isLt, hbefore ▸ hle, ?_, rfl, ?_⟩
        · rw [← List.take_append_getElem i.isLt, List.flatMap_append, List.length_append,
            ← hbefore, List.flatMap_singleton]
          exact hlt
        · show t.Stands (c₁.holding b' i.isLt) w₃ (t.file.drop offset)
          rw [t.drop_file (hbehind ▸ hle), hbehind]
          exact skipped

/-! ## Ranges -/

theorem begin_range {ref : StoreRef} {manifest : Manifest} {r : ByteRange}
    (honest : bs.Honest shelf ref manifest.blocks)
    (measured : bs.Measured shelf ref manifest.blocks)
    (good : shelf.good [] w) (le : r.first ≤ r.last) (buffer : Nat) :
    Positioned shelf ref manifest.blocks r.length.toNat r.first.toNat
      (r.last.toNat + 1) (Cursor.begin bs (range ref manifest r buffer) w) := by
  have hle : r.first.toNat ≤ r.last.toNat := UInt64.le_iff_toNat_le.1 le
  exact position_positioned (c := { range ref manifest r buffer with seekTo := none })
    honest measured rfl rfl good (Nat.lt_succ_of_le hle)

end Cursor

end StreamGate
