import StreamGate.Bytes

/-!
# Decimal numbers

Reading a number that must fit a bound.  A text is a number if it is one or
more ASCII digits; leading zeros are allowed.
-/

namespace StreamGate.Decimal

/-- The value of a list of characters that are all digits. -/
def value? : (total : Nat) → List Char → Option Nat
  | total, [] => some total
  | total, c :: rest =>
    if c.isDigit then value? (10 * total + (c.toNat - '0'.toNat)) rest else none

/-- The number that a non-empty run of digits writes. -/
def parse? (chars : List Char) : Option Nat :=
  if chars.isEmpty then none else value? 0 chars

/-- The number, if it is below `bound`. -/
def parseBelow? (bound : Nat) (chars : List Char) : Option Nat :=
  (parse? chars).filter (· < bound)

/-- The number below 2^64 that digits write, perhaps after a plus sign. -/
def parseWord? : List Char → Option Nat
  | '+' :: rest => parseBelow? UInt64.size rest
  | chars => parseBelow? UInt64.size chars

/-- A number written with point and exponent rounds to 2^1024 or more, so it is
too large for a double-precision float.  The number of digits settles all cases
but those near the bound, so no huge power is ever computed. -/
def exceedsDouble (whole fraction : List Char) (negative : Bool) (exponent : List Char) : Bool :=
  let mantissa := (parse? (whole ++ fraction)).getD 0
  let shift := (parse? exponent).getD 0
  let digits := (Nat.toDigits 10 mantissa).length
  let bound := Nat.pow 2 1024 - Nat.pow 2 970
  if mantissa = 0 then false
  else if negative then bound ≤ mantissa / Nat.pow 10 (min (fraction.length + shift) digits)
  else if 310 + fraction.length < digits + shift then true
  else bound ≤ mantissa * Nat.pow 10 shift / Nat.pow 10 fraction.length

/-- A number as a measurement would be written: digits, perhaps a point among them
or at either end, perhaps an exponent; or one of the words for what is no finite
number.  A sign may stand before it. -/
def isMeasure (chars : List Char) : Bool :=
  let unsigned (cs : List Char) := if cs.head? = some '+' || cs.head? = some '-' then cs.tail else cs
  let cs := unsigned chars
  let whole := cs.takeWhile Char.isDigit
  let rest := cs.drop whole.length
  let fraction := if rest.head? = some '.' then rest.tail.takeWhile Char.isDigit else []
  let rest := if rest.head? = some '.' then rest.tail.drop fraction.length else rest
  ["inf", "infinity", "nan"].contains (String.ofList (cs.map Char.toLower))
    || (!(whole ++ fraction).isEmpty
      && match rest with
        | [] => true
        | e :: exponent =>
          let digits := unsigned exponent
          (e = 'e' || e = 'E') && !digits.isEmpty && digits.all Char.isDigit)

/-- The digits of a number, with zeros in front up to a width. -/
def padded (width n : Nat) : String :=
  let digits := Nat.toDigits 10 n
  String.ofList (List.replicate (width - digits.length) '0' ++ digits)

end StreamGate.Decimal
