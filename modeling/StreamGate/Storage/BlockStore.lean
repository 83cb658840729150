import StreamGate.Block.Manifest

/-!
# Block stores

What a transfer needs of a store: the size of a block without reading it, and a
handle to read a block from its start to its end.

A store is a record of operations on a world, which stands for everything the
operations may look at or change.  Nothing is assumed about when they fail; a
read hands out at most as many bytes as were asked for, and that is part of its
type.
-/

namespace StreamGate

/-- The operations of a block store. -/
structure BlockStore (World Handle : Type) where
  /-- The size of a block, without reading it. -/
  stat : StoreRef → BlockId → World → Except Failure Nat × World
  /-- Opens a block for reading from its start. -/
  openBlock : StoreRef → BlockId → World → Except Failure Handle × World
  /-- The size a handle reports for its block. -/
  size : Handle → Nat
  /-- Reads on from where the handle stands.  No bytes mean the end. -/
  read : Handle → (want : Nat) → World →
    Except Failure { bytes : Bytes // bytes.length ≤ want } × Handle × World
  /-- Gives a handle back. -/
  close : Handle → World → World

namespace BlockStore

variable {World Handle : Type}

/-- A block can be looked up.  Only "not found" counts as absence. -/
def contains (store : BlockStore World Handle) (ref : StoreRef) (id : BlockId) (w : World) :
    Except Failure Bool × World :=
  match store.stat ref id w with
  | (.ok _, w) => (.ok true, w)
  | (.error e, w) => (if e.isNotFound then .ok false else .error e, w)

/-- The same store as a part of a larger world. -/
def inside {Outer : Type} (store : BlockStore World Handle) (get : Outer → World)
    (put : World → Outer → Outer) : BlockStore Outer Handle where
  stat ref id w :=
    let (r, inner) := store.stat ref id (get w)
    (r, put inner w)
  openBlock ref id w :=
    let (r, inner) := store.openBlock ref id (get w)
    (r, put inner w)
  size := store.size
  read h want w :=
    let (r, h, inner) := store.read h want (get w)
    (r, h, put inner w)
  close h w := put (store.close h (get w)) w

end BlockStore

end StreamGate
