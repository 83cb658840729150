import StreamGate.Storage.BlockStore
import StreamGate.Table

/-!
# Planned faults

A store that misbehaves on chosen blocks: reads that fail after a number of
bytes or come in small pieces, handles that report a wrong size, look-ups of a
size that fail.
-/

namespace StreamGate

/-- How a block misbehaves. -/
structure BlockFault where
  /-- Reads fail once this many bytes were handed out since the block was
  opened. -/
  failAfter : Option Nat := none
  /-- No read hands out more than this. -/
  maxRead : Option Nat := none
  /-- The size an open handle reports. -/
  openSize : Option Nat := none
  /-- Looking up the size fails. -/
  statFails : Bool := false

/-- The blocks that misbehave. -/
abbrev FaultPlan := Table BlockId BlockFault

/-- A world with a plan of faults beside it. -/
structure Faulted (World : Type) where
  inner : World
  plan : FaultPlan := {}

/-- A handle with the faults of its block and the number of bytes it has handed
out. -/
structure FaultedHandle (Handle : Type) where
  inner : Handle
  id : BlockId
  fault : BlockFault
  served : Nat

namespace BlockFault

/-- How much of a wanted number of bytes a read may hand out; none if the read
fails. -/
def allowance (fault : BlockFault) (served want : Nat) : Option Nat :=
  let want := min want (fault.maxRead.getD want)
  match fault.failAfter with
  | none => some want
  | some limit => if limit ≤ served then none else some (min want (limit - served))

theorem allowance_le {fault : BlockFault} {served want n : Nat}
    (h : fault.allowance served want = some n) : n ≤ want := by
  unfold allowance at h
  split at h
  · cases h; exact Nat.min_le_left ..
  · split at h
    · cases h
    · cases h
      exact Nat.le_trans (Nat.min_le_left ..) (Nat.min_le_left ..)

end BlockFault

namespace BlockStore

variable {World Handle : Type}

/-- Makes a store misbehave as planned. -/
def faulted (store : BlockStore World Handle) :
    BlockStore (Faulted World) (FaultedHandle Handle) where
  stat ref id w :=
    match w.plan.get? id with
    | some ⟨_, _, _, true⟩ => (.error (.storage "injected stat failure"), w)
    | _ =>
      let (r, inner) := store.stat ref id w.inner
      (r, { w with inner })
  openBlock ref id w :=
    match store.openBlock ref id w.inner with
    | (.ok h, inner) => (.ok ⟨h, id, (w.plan.get? id).getD {}, 0⟩, { w with inner })
    | (.error e, inner) => (.error e, { w with inner })
  size h := h.fault.openSize.getD (store.size h.inner)
  read h want w :=
    match allowed : h.fault.allowance h.served want with
    | none => (.error (.blockRead h.id.text "injected failure"), h, w)
    | some n =>
      match store.read h.inner n w.inner with
      | (.ok bytes, inner, world) =>
        (.ok ⟨bytes.val, Nat.le_trans bytes.property (BlockFault.allowance_le allowed)⟩,
          { h with inner, served := h.served + bytes.val.length }, { w with inner := world })
      | (.error e, inner, world) => (.error e, { h with inner }, { w with inner := world })
  close h w := { w with inner := store.close h.inner w.inner }

end BlockStore

end StreamGate
