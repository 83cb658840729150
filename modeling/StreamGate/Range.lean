import StreamGate.Text.Decimal

/-!
# Byte ranges

A request may ask for one range of a file, in one of three forms: `N-M`, `N-`
for everything from `N` on, and `-N` for the last `N` bytes.  What comes before
the first `=` is not looked at.

`ByteRange.parse` resolves a header against a file size.  A header is
malformed whatever the size, or it cannot be satisfied by this size, or it
yields a range that lies within the file.
-/

namespace StreamGate

/-- The bytes from `first` to `last`, both included. -/
structure ByteRange where
  first : UInt64
  last : UInt64
deriving DecidableEq, Repr

namespace ByteRange

/-- How many bytes a range holds. -/
def length (r : ByteRange) : UInt64 := r.last - r.first + 1

def display (r : ByteRange) : String := s!"{r.first}-{r.last}"

/-- The header value that announces a range of a file. -/
def contentRange (r : ByteRange) (size : UInt64) : String := s!"bytes {r.display}/{size}"

/-- The header value that announces a file's size where no range was sent. -/
def unsatisfied (size : UInt64) : String := s!"bytes */{size}"

/-- Why a range header yields no range. -/
inductive Refusal where
  | malformed (header : String)
  | unsatisfiable (size : UInt64)
deriving DecidableEq, Repr

def Refusal.message : Refusal → String
  | malformed header => s!"Malformed range: {header}"
  | unsatisfiable size => s!"Range not satisfiable for size {size}"

/-- The numbers a header names. -/
inductive Request where
  /-- The last `n` bytes. -/
  | suffix (n : UInt64)
  /-- Everything from `n` on. -/
  | fromOn (n : UInt64)
  /-- From `n` to `m`. -/
  | between (n m : UInt64)
deriving DecidableEq, Repr

/-- Splits at the first occurrence of a character, which is dropped. -/
def splitAt? (sep : Char) : List Char → Option (List Char × List Char)
  | [] => none
  | c :: rest =>
    if c = sep then some ([], rest)
    else (splitAt? sep rest).map fun (before, after) => (c :: before, after)

/-- A number below 2^64. -/
def number? (chars : List Char) : Option UInt64 :=
  (Decimal.parseBelow? UInt64.size chars).map UInt64.ofNat

/-- Reads the numbers of a header. -/
def Request.parse? (header : String) : Option Request := do
  let (_, spec) ← splitAt? '=' header.toList
  let (first, second) ← splitAt? '-' spec
  if first.isEmpty then
    let n ← number? second
    if n = 0 then none else some (.suffix n)
  else
    let n ← number? first
    if second.isEmpty then some (.fromOn n)
    else return .between n (← number? second)

/-- The range that a request means for a file of the given size. -/
def Request.resolve? (size : UInt64) : Request → Option ByteRange
  | suffix n => if size = 0 ∨ size < n then none else some ⟨size - n, size - 1⟩
  | fromOn n => if size ≤ n then none else some ⟨n, size - 1⟩
  | between n m => if size ≤ n ∨ m < n then none else some ⟨n, min m (size - 1)⟩

/-- The range that a header means for a file of the given size. -/
def parse (header : String) (size : UInt64) : Except Refusal ByteRange :=
  match Request.parse? header with
  | none => .error (.malformed header)
  | some request =>
    match request.resolve? size with
    | none => .error (.unsatisfiable size)
    | some r => .ok r

end ByteRange

end StreamGate
