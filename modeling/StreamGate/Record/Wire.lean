import StreamGate.Block.Id
import StreamGate.Text.Utf8

/-!
# The binary record format

Fields are written one after another without marks between them: numbers of a
fixed width with their lowest byte first, texts and lists with their length in
front.  What a record means follows from its type alone.

A `Format` is a writer together with a reader.  The reader takes what it needs
off the front and leaves the rest, so formats compose, and bytes after a record
are no fault.
-/

namespace StreamGate.Wire

/-- Why bytes are not the record that was expected. -/
inductive Fault where
  /-- The bytes end inside a number. -/
  | endOfInput
  /-- A text is longer than what is left. -/
  | shortText
  | notText (fault : Utf8.Fault)
  | badBool (code : UInt8)
  | badVariant (index bound : Nat)
  | badBlockId (fault : BlockId.Malformed)
deriving DecidableEq, Repr

def Fault.message : Fault → String
  | endOfInput => "io error: unexpected end of file"
  | shortText => "io error: "
  | notText fault => s!"string is not valid utf8: {fault.message}"
  | badBool code => s!"invalid u8 while decoding bool, expected 0 or 1, found {code}"
  | badVariant index bound =>
    s!"invalid value: integer `{index}`, expected variant index 0 <= i < {bound}"
  | badBlockId fault => fault.failure.message

/-- A fault as the failure of a look-up. -/
def Fault.failure (fault : Fault) : Failure := .serialization fault.message

/-- How values of a type are written and read. -/
structure Format (α : Type) where
  write : α → Bytes
  read : Bytes → Except Fault (α × Bytes)

namespace Format

variable {α β : Type}

/-- A number of `width` bytes. -/
def nat (width : Nat) : Format Nat where
  write := Bytes.littleEndian width
  read bytes :=
    if bytes.length < width then .error .endOfInput
    else .ok (Bytes.toNat (bytes.take width), bytes.drop width)

/-- The same bytes for another type. -/
def map (f : Format α) (make : α → β) (back : β → α) : Format β where
  write b := f.write (back b)
  read bytes := do
    let (a, rest) ← f.read bytes
    return (make a, rest)

/-- The same bytes for a type that does not take every value. -/
def refine (f : Format α) (make? : α → Except Fault β) (back : β → α) : Format β where
  write b := f.write (back b)
  read bytes := do
    let (a, rest) ← f.read bytes
    return (← make? a, rest)

/-- One value after another. -/
def pair (f : Format α) (g : Format β) : Format (α × β) where
  write ab := f.write ab.1 ++ g.write ab.2
  read bytes := do
    let (a, rest) ← f.read bytes
    let (b, rest) ← g.read rest
    return ((a, b), rest)

def u32 : Format UInt32 := (nat 4).map UInt32.ofNat UInt32.toNat

def u64 : Format UInt64 := (nat 8).map UInt64.ofNat UInt64.toNat

/-- One byte, which is zero or one. -/
def bool : Format Bool where
  write b := [if b then 1 else 0]
  read
    | [] => .error .endOfInput
    | 0 :: rest => .ok (false, rest)
    | 1 :: rest => .ok (true, rest)
    | code :: _ => .error (.badBool code)

/-- The text that bytes spell. -/
def spell (bytes : Bytes) : Except Fault String :=
  match Bytes.toText? bytes with
  | some text => .ok text
  | none => .error (.notText ((Utf8.fault? bytes).getD ⟨0, none⟩))

/-- A byte string after its length. -/
def bytes : Format Bytes where
  write bytes := (nat 8).write bytes.length ++ bytes
  read input := do
    let (n, rest) ← (nat 8).read input
    if rest.length < n then throw .shortText
    return (rest.take n, rest.drop n)

def text : Format String := bytes.refine spell Bytes.ofText

/-- Reads `n` values. -/
def readMany (f : Format α) : (n : Nat) → Bytes → Except Fault (List α × Bytes)
  | 0, bytes => .ok ([], bytes)
  | n + 1, bytes => do
    let (a, rest) ← f.read bytes
    let (as, rest) ← readMany f n rest
    return (a :: as, rest)

/-- Values after their number. -/
def list (f : Format α) : Format (List α) where
  write as := (nat 8).write as.length ++ as.flatMap f.write
  read bytes := do
    let (n, rest) ← (nat 8).read bytes
    readMany f n rest

/-- A block id, written as its text. -/
def blockId : Format BlockId :=
  text.refine (fun t => (BlockId.parse t).mapError .badBlockId) BlockId.text

end Format

/-- The record at the start of a byte string. -/
def decode {α : Type} (f : Format α) (bytes : Bytes) : Except Failure α :=
  match f.read bytes with
  | .ok (a, _) => .ok a
  | .error fault => .error fault.failure

end StreamGate.Wire
