import StreamGate.Bytes.Hex
import StreamGate.Text.Decimal

/-!
# JSON texts

The syntax tree of a JSON text and its reader.  The tree keeps what the text
says: members in order and with repetitions, numbers as they are written,
strings with their escapes.  So a text can be syntactically fine and still hold
a string or a number that has no value; that is settled where the value is
wanted, and parts that nobody wants are never looked at.
-/

namespace StreamGate

/-- One unit of a string as it is written. -/
inductive Json.Piece where
  /-- A character, or the one a short escape stands for. -/
  | char (c : Char)
  /-- An escape of four hexadecimal digits. -/
  | unit (code : Nat)
deriving DecidableEq, Repr

/-- A number as it is written. -/
structure Json.Number where
  negative : Bool
  whole : List Char
  fraction : Option (List Char)
  /-- The exponent, with its sign. -/
  exponent : Option (Bool × List Char)
deriving DecidableEq, Repr

/-- A JSON text. -/
inductive Json where
  | null
  | bool (b : Bool)
  | number (n : Json.Number)
  | string (pieces : List Json.Piece)
  | array (items : List Json)
  | object (members : List (List Json.Piece × Json))

namespace Json

def isBlank (c : Char) : Bool := c = ' ' || c = '\t' || c = '\n' || c = '\r'

def skipBlanks (cs : List Char) : List Char := cs.dropWhile isBlank

/-- Takes exactly these characters off the front. -/
def literal? : (word : List Char) → List Char → Option (List Char)
  | [], cs => some cs
  | w :: word, c :: cs => if w = c then literal? word cs else none
  | _ :: _, [] => none

/-- The value of a hexadecimal digit. -/
def hexValue? (c : Char) : Option Nat :=
  if c.toNat < 0x80 then (Hex.digitValue? (UInt8.ofNat c.toNat)).map UInt8.toNat else none

/-- What an escape of one letter stands for. -/
def shortEscape? : Char → Option Char
  | '"' => some '"'
  | '\\' => some '\\'
  | '/' => some '/'
  | 'b' => some '\x08'
  | 'f' => some '\x0c'
  | 'n' => some '\n'
  | 'r' => some '\r'
  | 't' => some '\t'
  | _ => none

/-- The rest of a string after its opening quote. -/
def stringRest : List Char → Option (List Piece × List Char)
  | '"' :: rest => some ([], rest)
  | '\\' :: 'u' :: a :: b :: c :: d :: rest => do
    let code := 4096 * (← hexValue? a) + 256 * (← hexValue? b) + 16 * (← hexValue? c) + (← hexValue? d)
    let (pieces, rest) ← stringRest rest
    return (.unit code :: pieces, rest)
  | '\\' :: e :: rest => do
    let c ← shortEscape? e
    let (pieces, rest) ← stringRest rest
    return (.char c :: pieces, rest)
  | c :: rest =>
    if c.toNat < 0x20 ∨ c = '\\' then none
    else do
      let (pieces, rest) ← stringRest rest
      return (.char c :: pieces, rest)
  | [] => none

/-- A non-empty run of digits. -/
def digits? (cs : List Char) : Option (List Char × List Char) :=
  let run := cs.takeWhile Char.isDigit
  if run.isEmpty then none else some (run, cs.dropWhile Char.isDigit)

/-- The digits before the point; a leading zero stands alone. -/
def whole? : List Char → Option (List Char × List Char)
  | '0' :: rest => some (['0'], rest)
  | cs => digits? cs

def fraction? : List Char → Option (Option (List Char) × List Char)
  | '.' :: rest => do
    let (run, rest) ← digits? rest
    return (some run, rest)
  | cs => some (none, cs)

def exponentDigits? (negative : Bool) (cs : List Char) :
    Option (Option (Bool × List Char) × List Char) := do
  let (run, rest) ← digits? cs
  return (some (negative, run), rest)

def exponent? : List Char → Option (Option (Bool × List Char) × List Char)
  | c :: rest =>
    if c = 'e' ∨ c = 'E' then
      match rest with
      | '-' :: rest => exponentDigits? true rest
      | '+' :: rest => exponentDigits? false rest
      | rest => exponentDigits? false rest
    else some (none, c :: rest)
  | [] => some (none, [])

def number? (negative : Bool) (cs : List Char) : Option (Json × List Char) := do
  let (whole, rest) ← whole? cs
  let (fraction, rest) ← fraction? rest
  let (exponent, rest) ← exponent? rest
  return (.number ⟨negative, whole, fraction, exponent⟩, rest)

mutual

/-- Reads one value; `fuel` bounds the nesting. -/
def value? : (fuel : Nat) → List Char → Option (Json × List Char)
  | 0, _ => none
  | fuel + 1, cs =>
    match skipBlanks cs with
    | 'n' :: rest => do return (.null, ← literal? ['u', 'l', 'l'] rest)
    | 't' :: rest => do return (.bool true, ← literal? ['r', 'u', 'e'] rest)
    | 'f' :: rest => do return (.bool false, ← literal? ['a', 'l', 's', 'e'] rest)
    | '"' :: rest => do
      let (pieces, rest) ← stringRest rest
      return (.string pieces, rest)
    | '[' :: rest =>
      match skipBlanks rest with
      | ']' :: rest => some (.array [], rest)
      | rest => do
        let (items, rest) ← items? fuel rest
        return (.array items, rest)
    | '\x7b' :: rest =>
      match skipBlanks rest with
      | '\x7d' :: rest => some (.object [], rest)
      | rest => do
        let (members, rest) ← members? fuel rest
        return (.object members, rest)
    | '-' :: rest => number? true rest
    | rest => number? false rest

/-- Reads the items of an array up to its closing bracket. -/
def items? : (fuel : Nat) → List Char → Option (List Json × List Char)
  | 0, _ => none
  | fuel + 1, cs => do
    let (item, rest) ← value? fuel cs
    match skipBlanks rest with
    | ',' :: rest =>
      let (items, rest) ← items? fuel rest
      return (item :: items, rest)
    | ']' :: rest => return ([item], rest)
    | _ => none

/-- Reads the members of an object up to its closing brace. -/
def members? : (fuel : Nat) → List Char → Option (List (List Piece × Json) × List Char)
  | 0, _ => none
  | fuel + 1, cs =>
    match skipBlanks cs with
    | '"' :: rest => do
      let (key, rest) ← stringRest rest
      match skipBlanks rest with
      | ':' :: rest =>
        let (item, rest) ← value? fuel rest
        match skipBlanks rest with
        | ',' :: rest =>
          let (members, rest) ← members? fuel rest
          return ((key, item) :: members, rest)
        | '\x7d' :: rest => return ([(key, item)], rest)
        | _ => none
      | _ => none
    | _ => none

end

/-- Reads a text that holds one value and nothing else.  Every step into a
value takes at most two units of fuel and at least one character. -/
def parse? (text : String) : Option Json := do
  let cs := text.toList
  let (tree, rest) ← value? (2 * cs.length + 2) cs
  if (skipBlanks rest).isEmpty then some tree else none

end Json

end StreamGate
