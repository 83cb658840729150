import StreamGate.Json.Tree

/-!
# The size of JSON numbers

A number that is wanted as a value must fit a double-precision float.  Whether it
fits is found out the quick way, with two roundings: the leading digits that fit
into a 64-bit word are rounded, and so is their product with a rounded power of
ten.  So a number just below the largest float can still be refused.
-/

namespace StreamGate.Json

/-- The number nearest to `n` that has at most 53 binary digits before its
zeros; halfway between two of them, the one with the even last digit. -/
def roundToDouble (n : Nat) : Nat :=
  let unit := Nat.pow 2 (n.log2 - 52)
  let below := n / unit
  let rest := 2 * (n % unit)
  if rest < unit || (rest = unit && below % 2 = 0) then below * unit else (below + 1) * unit

/-- Takes digits into a number while it stays below 2^64; yields the digits left
over, too. -/
def absorb : (total : Nat) → List Char → Nat × List Char
  | total, [] => (total, [])
  | total, c :: rest =>
    let next := 10 * total + (c.toNat - '0'.toNat)
    if next < UInt64.size then absorb next rest else (total, c :: rest)

/-- A number with its power of ten is too large for a double-precision float. -/
def exceedsDouble (leading : Nat) (exponent : Int) : Bool :=
  leading ≠ 0 && 0 ≤ exponent &&
    (308 < exponent ||
      Nat.pow 2 1024 ≤
        roundToDouble (roundToDouble leading * roundToDouble (Nat.pow 10 exponent.toNat)))

/-- The number is too large for a double-precision float.  Digits that do not fit
a word only count for the power of ten, and those after the point not even for
that. -/
def Number.overflows (n : Number) : Bool :=
  let fraction := n.fraction.getD []
  let (negative, digits) := n.exponent.getD (false, [])
  let shift := (Decimal.parse? digits).getD 0
  let (leading, uncounted) := absorb 0 n.whole
  let (leading, unread) := absorb leading fraction
  let point : Int := uncounted.length - (fraction.length - unread.length : Nat)
  exceedsDouble leading (if negative then point - shift else point + shift)

end StreamGate.Json
