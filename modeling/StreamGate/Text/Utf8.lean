import StreamGate.Bytes

/-!
# Faults in UTF-8

Where and how a byte string stops being UTF-8.  `Utf8.fault?` finds the first
character that is malformed.  It is either cut off by the end of the bytes, or
broken, and then the fault spans the bytes that could still have begun a
character.
-/

namespace StreamGate.Utf8

/-- The first malformed character of a byte string. -/
structure Fault where
  /-- How many bytes before it are well formed. -/
  position : Nat
  /-- How many bytes it spans; none if the bytes end inside the character. -/
  span : Option Nat
deriving DecidableEq, Repr

/-- The fault in words. -/
def Fault.message (fault : Fault) : String :=
  match fault.span with
  | some n => s!"invalid utf-8 sequence of {n} bytes from index {fault.position}"
  | none => s!"incomplete utf-8 byte sequence from index {fault.position}"

/-- A byte that continues a character. -/
def isContinuation (b : UInt8) : Bool := 0x80 ≤ b && b ≤ 0xBF

/-- What a leading byte asks of the bytes after it: the range of the second
byte and how many plain continuation bytes follow that. -/
def lead? (b : UInt8) : Option (UInt8 × UInt8 × Nat) :=
  if 0xC2 ≤ b ∧ b ≤ 0xDF then some (0x80, 0xBF, 0)
  else if b = 0xE0 then some (0xA0, 0xBF, 1)
  else if b = 0xED then some (0x80, 0x9F, 1)
  else if 0xE1 ≤ b ∧ b ≤ 0xEF then some (0x80, 0xBF, 1)
  else if b = 0xF0 then some (0x90, 0xBF, 2)
  else if 0xF1 ≤ b ∧ b ≤ 0xF3 then some (0x80, 0xBF, 2)
  else if b = 0xF4 then some (0x80, 0x8F, 2)
  else none

/-- The outcome of looking at one character: its length, or the span of the
fault. -/
inductive Scan where
  | whole (length : Nat)
  | broken (span : Nat)
  | cutOff
deriving DecidableEq, Repr

/-- Checks the plain continuation bytes, `seen` bytes of the character being
behind. -/
def scanRest : (count seen : Nat) → Bytes → Scan
  | 0, seen, _ => .whole seen
  | _ + 1, _, [] => .cutOff
  | n + 1, seen, b :: rest => if isContinuation b then scanRest n (seen + 1) rest else .broken seen

/-- Looks at the first character of a non-empty byte string. -/
def scan (first : UInt8) (rest : Bytes) : Scan :=
  if first < 0x80 then .whole 1
  else match lead? first with
    | none => .broken 1
    | some (low, high, count) =>
      match rest with
      | [] => .cutOff
      | second :: rest =>
        if low ≤ second ∧ second ≤ high then scanRest count 2 rest else .broken 1

/-- Looks for the first fault, `position` bytes being behind and `skip` more
belonging to a character already looked at. -/
def faultFrom : (position skip : Nat) → Bytes → Option Fault
  | _, _, [] => none
  | position, skip + 1, _ :: rest => faultFrom (position + 1) skip rest
  | position, 0, b :: rest =>
    match scan b rest with
    | .whole n => faultFrom (position + 1) (n - 1) rest
    | .broken n => some ⟨position, some n⟩
    | .cutOff => some ⟨position, none⟩

/-- The first fault of a byte string, if it has one. -/
def fault? (bytes : Bytes) : Option Fault := faultFrom 0 0 bytes

end StreamGate.Utf8
