import StreamGate.Storage.BlockStore

/-!
# Counting store operations

A store that counts what is done to another one: handles opened, handles closed
and sizes looked up.  Failed opens are not counted, failed look-ups are.
-/

namespace StreamGate

/-- How often each operation was done. -/
structure Tally where
  opens : Nat := 0
  closes : Nat := 0
  stats : Nat := 0
deriving DecidableEq, Repr

/-- A world with a tally beside it. -/
structure Metered (World : Type) where
  inner : World
  tally : Tally := {}

namespace BlockStore

variable {World Handle : Type}

/-- Counts the operations of a store. -/
def metered (store : BlockStore World Handle) : BlockStore (Metered World) Handle where
  stat ref id w :=
    let (r, inner) := store.stat ref id w.inner
    (r, ⟨inner, { w.tally with stats := w.tally.stats + 1 }⟩)
  openBlock ref id w :=
    match store.openBlock ref id w.inner with
    | (.ok h, inner) => (.ok h, ⟨inner, { w.tally with opens := w.tally.opens + 1 }⟩)
    | (.error e, inner) => (.error e, ⟨inner, w.tally⟩)
  size := store.size
  read h want w :=
    let (r, h, inner) := store.read h want w.inner
    (r, h, ⟨inner, w.tally⟩)
  close h w := ⟨store.close h w.inner, { w.tally with closes := w.tally.closes + 1 }⟩

end BlockStore

end StreamGate
