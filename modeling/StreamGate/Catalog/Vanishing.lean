import StreamGate.Catalog.Lookup
import StreamGate.Table

/-!
# Objects that vanish

A catalog in which chosen objects disappear: their manifest is found a given
number of times and never again.
-/

namespace StreamGate

/-- A world with the look-ups that chosen objects still answer. -/
structure Vanishing (World : Type) where
  inner : World
  left : Table String Nat := {}

/-- Makes the objects of a catalog vanish as planned. -/
def Catalog.vanishing {World : Type} (c : Catalog World) : Catalog (Vanishing World) :=
  let lifted := c.inside Vanishing.inner fun inner w => { w with inner }
  { lifted with
    manifest? := fun ref objectId w =>
      match w.left.get? objectId with
      | some 0 => (.ok none, w)
      | some (n + 1) => lifted.manifest? ref objectId { w with left := w.left.insert objectId n }
      | none => lifted.manifest? ref objectId w }

end StreamGate
