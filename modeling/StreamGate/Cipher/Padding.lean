import StreamGate.Bytes

/-!
# Block padding

The padding that fills a byte string up to whole blocks of sixteen: between one
and sixteen bytes, each holding their number.  A byte string that is already
whole gets a block of its own, so the padding can always be taken off again.
-/

namespace StreamGate.Padding

/-- How many bytes are added to `n` bytes. -/
def amount (n : Nat) : Nat := 16 - n % 16

theorem amount_pos (n : Nat) : 0 < amount n := by unfold amount; omega
theorem amount_le (n : Nat) : amount n ≤ 16 := by unfold amount; omega

/-- Adds the padding. -/
def pad (bytes : Bytes) : Bytes :=
  bytes ++ List.replicate (amount bytes.length) (UInt8.ofNat (amount bytes.length))

/-- Takes the padding off a last block, if it is one. -/
def unpad? (block : Bytes) : Option Bytes :=
  match block.getLast? with
  | none => none
  | some last =>
    let n := last.toNat
    if 1 ≤ n ∧ n ≤ block.length ∧ block.drop (block.length - n) = List.replicate n last
    then some (block.take (block.length - n))
    else none

@[simp] theorem length_pad (bytes : Bytes) :
    (pad bytes).length = 16 * (bytes.length / 16 + 1) := by
  simp only [pad, List.length_append, List.length_replicate, amount]
  omega

end StreamGate.Padding
