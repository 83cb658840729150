import StreamGate.Text.Decimal
import StreamGate.Text.Split

/-!
# Socket addresses

An address and a port to listen on, and its canonical text.

Version 4 addresses are four numbers up to 255 without leading zeros.  Version 6
addresses stand in brackets, may leave out one run of zero groups, may end in a
version 4 address, and may carry a scope.  The canonical text leaves out the first
longest run of at least two zero groups.
-/

namespace StreamGate

/-- An address to listen on. -/
inductive SocketAddress where
  | v4 (octets : List Nat) (port : Nat)
  /-- Eight groups of sixteen bits. -/
  | v6 (groups : List Nat) (scope port : Nat)
deriving DecidableEq, Repr

namespace SocketAddress

/-- A reader of one part of an address. -/
abbrev Reader (α : Type) := List Char → Option (α × List Char)

/-- The value of a digit in any base up to sixteen. -/
def digit? (c : Char) : Option Nat :=
  if c.isDigit then some (c.toNat - '0'.toNat)
  else if 'a' ≤ c ∧ c ≤ 'f' then some (c.toNat - 'a'.toNat + 10)
  else if 'A' ≤ c ∧ c ≤ 'F' then some (c.toNat - 'A'.toNat + 10)
  else none

def isDigit (base : Nat) (c : Char) : Bool :=
  match digit? c with
  | some v => v < base
  | none => false

/-- A number below `bound`, of at most `width` digits if there is a width. -/
def number? (base : Nat) (width : Option Nat) (leadingZeros : Bool) (bound : Nat) : Reader Nat :=
  fun cs =>
    let run := cs.takeWhile (isDigit base)
    let value := run.foldl (fun n c => base * n + (digit? c).getD 0) 0
    if run.isEmpty || (width.any fun w => w < run.length) || bound ≤ value
        || (!leadingZeros && run.head? = some '0' && 1 < run.length) then none
    else some (value, cs.dropWhile (isDigit base))

def char? (c : Char) : List Char → Option (List Char)
  | d :: rest => if c = d then some rest else none
  | [] => none

def octet? : Reader Nat := number? 10 (some 3) false 256

/-- Four octets between dots. -/
def octets? : Reader (List Nat) := fun cs => do
  let (a, cs) ← octet? cs
  let (b, cs) ← octet? (← char? '.' cs)
  let (c, cs) ← octet? (← char? '.' cs)
  let (d, cs) ← octet? (← char? '.' cs)
  return ([a, b, c, d], cs)

def port? (cs : List Char) : Option (Nat × List Char) := do
  number? 10 none true UInt16.size (← char? ':' cs)

/-- A colon, unless this is the first group. -/
def separator? (first : Bool) (cs : List Char) : Option (List Char) :=
  if first then some cs else char? ':' cs

/-- The two groups that four octets fill. -/
def groupsOfOctets : List Nat → List Nat
  | [a, b, c, d] => [256 * a + b, 256 * c + d]
  | _ => []

/-- As many groups as there are, at most `limit`, and whether they end in a
version 4 address, for which two groups must be free. -/
def groups? : (limit : Nat) → (first : Bool) → List Char → List Nat × Bool × List Char
  | 0, _, cs => ([], false, cs)
  | limit + 1, first, cs =>
    match (if limit = 0 then none else (separator? first cs).bind octets?) with
    | some (octets, rest) => (groupsOfOctets octets, true, rest)
    | none =>
      match (separator? first cs).bind (number? 16 (some 4) true UInt16.size) with
      | none => ([], false, cs)
      | some (group, rest) =>
        let (more, ended, rest) := groups? limit false rest
        (group :: more, ended, rest)

/-- The eight groups of a version 6 address. -/
def address6? (cs : List Char) : Option (List Nat × List Char) :=
  let (front, ended, rest) := groups? 8 true cs
  if front.length = 8 then some (front, rest)
  else if ended then none
  else do
    let rest ← char? ':' (← char? ':' rest)
    let (back, _, rest) := groups? (7 - front.length) true rest
    return (front ++ List.replicate (8 - front.length - back.length) 0 ++ back, rest)

def scope? : Reader Nat
  | '%' :: rest => number? 10 none true UInt32.size rest
  | cs => some (0, cs)

def v4? (cs : List Char) : Option (SocketAddress × List Char) := do
  let (octets, cs) ← octets? cs
  let (port, cs) ← port? cs
  return (.v4 octets port, cs)

def v6? (cs : List Char) : Option (SocketAddress × List Char) := do
  let (groups, cs) ← address6? (← char? '[' cs)
  let (scope, cs) ← scope? cs
  let (port, cs) ← port? (← char? ']' cs)
  return (.v6 groups scope port, cs)

/-- Reads a whole text as an address. -/
def parse? (text : String) : Option SocketAddress :=
  match (v4? text.toList).or (v6? text.toList) with
  | some (address, []) => some address
  | _ => none

/-! ## Canonical text -/

def displayOctets (octets : List Nat) : String := ".".intercalate (octets.map toString)

def hex (n : Nat) : String := String.ofList (Nat.toDigits 16 n)

/-- Start and length of the first longest run of zeros, as far as it is known
when `index` groups are behind. -/
def longestZeros : (groups : List Nat) → (index : Nat) → (run best : Nat × Nat) → Nat × Nat
  | [], _, _, best => best
  | g :: rest, index, run, best =>
    if g = 0 then
      let run := if run.2 = 0 then (index, 1) else (run.1, run.2 + 1)
      longestZeros rest (index + 1) run (if best.2 < run.2 then run else best)
    else longestZeros rest (index + 1) (0, 0) best

def displayGroups (groups : List Nat) : String := ":".intercalate (groups.map hex)

/-- A version 6 address. -/
def display6 (groups : List Nat) : String :=
  match groups with
  | [0, 0, 0, 0, 0, 0xffff, a, b] =>
    "::ffff:" ++ displayOctets [a / 256, a % 256, b / 256, b % 256]
  | _ =>
    let (start, length) := longestZeros groups 0 (0, 0) (0, 0)
    if 1 < length then
      displayGroups (groups.take start) ++ "::" ++ displayGroups (groups.drop (start + length))
    else displayGroups groups

/-- The canonical text. -/
def display : SocketAddress → String
  | v4 octets port => displayOctets octets ++ ":" ++ toString port
  | v6 groups scope port =>
    let scope := if scope = 0 then "" else "%" ++ toString scope
    "[" ++ display6 groups ++ scope ++ "]:" ++ toString port

end SocketAddress

end StreamGate
