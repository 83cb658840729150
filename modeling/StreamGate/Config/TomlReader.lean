import StreamGate.Config.Toml
import StreamGate.Json.Tree

/-!
# Reading TOML

The reader of TOML documents.  Its parts take characters off the front of the
text and answer with the rest, or with nothing if the text is malformed.
-/

namespace StreamGate.Toml

/-- A reader of one part of a document. -/
abbrev Reader (α : Type) := List Char → Option (α × List Char)

def isBlank (c : Char) : Bool := c = ' ' || c = '\t'

def skipBlanks (cs : List Char) : List Char := cs.dropWhile isBlank

/-- A character that may stand in a comment. -/
def isCommentChar (c : Char) : Bool := c = '\t' || (0x20 ≤ c.toNat && c.toNat ≠ 0x7f)

/-- Skips blanks and a comment up to the end of the line. -/
def skipComment (cs : List Char) : List Char :=
  match skipBlanks cs with
  | '#' :: rest => rest.dropWhile isCommentChar
  | rest => rest

/-- Takes a line break off the front. -/
def lineBreak? : List Char → Option (List Char)
  | '\n' :: rest => some rest
  | '\r' :: '\n' :: rest => some rest
  | _ => none

/-- The rest of a line that holds nothing more, line break included. -/
def endOfLine? (cs : List Char) : Option (List Char) :=
  match skipComment cs with
  | [] => some []
  | rest => lineBreak? rest

/-- Skips blanks, comments and line breaks. -/
def skipLines : (fuel : Nat) → List Char → List Char
  | 0, cs => cs
  | fuel + 1, cs =>
    match lineBreak? (skipComment cs) with
    | some rest => skipLines fuel rest
    | none => skipComment cs

/-! ## Strings -/

/-- A character that stands for itself in a basic string, quotes and backslash
apart. -/
def isBasicChar (c : Char) : Bool :=
  c = '\t' || (0x20 ≤ c.toNat && c.toNat ≠ 0x7f && c ≠ '"' && c ≠ '\\')

/-- A character that stands for itself in a literal string, quotes apart. -/
def isLiteralChar (c : Char) : Bool :=
  c = '\t' || (0x20 ≤ c.toNat && c.toNat ≠ 0x7f && c ≠ '\'')

/-- The number that exactly `count` hexadecimal digits write. -/
def hexNumber? : (count total : Nat) → Reader Nat
  | 0, total, cs => some (total, cs)
  | _ + 1, _, [] => none
  | count + 1, total, c :: rest => do hexNumber? count (16 * total + (← Json.hexValue? c)) rest

/-- The character with a code, unless it is no scalar value. -/
def scalar? (code : Nat) : Option Char := if code.isValidChar then some (Char.ofNat code) else none

def escapedCode? (count : Nat) (cs : List Char) : Option (Char × List Char) := do
  let (code, rest) ← hexNumber? count 0 cs
  return (← scalar? code, rest)

/-- The character an escape stands for, the backslash being behind. -/
def escape? : Reader Char
  | 'b' :: rest => some ('\x08', rest)
  | 't' :: rest => some ('\t', rest)
  | 'n' :: rest => some ('\n', rest)
  | 'f' :: rest => some ('\x0c', rest)
  | 'r' :: rest => some ('\r', rest)
  | '"' :: rest => some ('"', rest)
  | '\\' :: rest => some ('\\', rest)
  | 'u' :: rest => escapedCode? 4 rest
  | 'U' :: rest => escapedCode? 8 rest
  | _ => none

/-- The rest of a basic string on one line. -/
def basic? : (fuel : Nat) → Reader (List Char)
  | 0, _ => none
  | _ + 1, [] => none
  | _ + 1, '"' :: rest => some ([], rest)
  | fuel + 1, '\\' :: rest => do
    let (c, rest) ← escape? rest
    let (cs, rest) ← basic? fuel rest
    return (c :: cs, rest)
  | fuel + 1, c :: rest => do
    if !isBasicChar c then none
    let (cs, rest) ← basic? fuel rest
    return (c :: cs, rest)

/-- The rest of a literal string on one line. -/
def literal? : Reader (List Char)
  | [] => none
  | '\'' :: rest => some ([], rest)
  | c :: rest => do
    if !isLiteralChar c then none
    let (cs, rest) ← literal? rest
    return (c :: cs, rest)

/-- A run of at least three closing quotes: those that still belong to the
string, at most two, and the rest. -/
def closing? (quote : Char) (cs : List Char) : Option (List Char × List Char) :=
  let run := (cs.takeWhile (· = quote)).length
  if run < 3 then none
  else some (List.replicate (min 2 (run - 3)) quote, cs.drop (min 5 run))

/-- Skips a line break after a backslash and the blank space that follows. -/
def continued? (fuel : Nat) (cs : List Char) : Option (List Char) := do
  let rest ← lineBreak? (skipBlanks cs)
  return skip fuel rest
where
  skip : Nat → List Char → List Char
    | 0, cs => cs
    | fuel + 1, cs =>
      match lineBreak? (skipBlanks cs) with
      | some rest => skip fuel rest
      | none => skipBlanks cs

/-- The rest of a string of several lines; escapes count only if `basic`. -/
def multiLine? (basic : Bool) (quote : Char) : (fuel : Nat) → Reader (List Char)
  | 0, _ => none
  | fuel + 1, cs =>
    match closing? quote cs with
    | some ended => some ended
    | none =>
      match lineBreak? cs with
      | some rest => do
        let (more, rest) ← multiLine? basic quote fuel rest
        return ('\n' :: more, rest)
      | none =>
        match cs with
        | [] => none
        | c :: rest =>
          if basic && c = '\\' then
            match continued? fuel rest with
            | some rest => multiLine? basic quote fuel rest
            | none => do
              let (c, rest) ← escape? rest
              let (more, rest) ← multiLine? basic quote fuel rest
              return (c :: more, rest)
          else if c = quote || (if basic then isBasicChar c else isLiteralChar c) then do
            let (more, rest) ← multiLine? basic quote fuel rest
            return (c :: more, rest)
          else none

/-- A line break right after the opening quotes is dropped. -/
def dropFirstBreak (cs : List Char) : List Char := (lineBreak? cs).getD cs

/-- A string of any of the four kinds; `fuel` bounds its length. -/
def string? (fuel : Nat) (cs : List Char) : Option (String × List Char) := do
  let (chars, rest) ← match cs with
    | '"' :: '"' :: '"' :: rest => multiLine? true '"' fuel (dropFirstBreak rest)
    | '\'' :: '\'' :: '\'' :: rest => multiLine? false '\'' fuel (dropFirstBreak rest)
    | '"' :: rest => basic? fuel rest
    | '\'' :: rest => literal? rest
    | _ => none
  return (String.ofList chars, rest)

/-! ## Keys -/

/-- The most parts a key may have, and the deepest nesting of values, plus
one. -/
def nestingLimit : Nat := 80

def isBareChar (c : Char) : Bool := c.isAlphanum || c = '_' || c = '-'

/-- One part of a key. -/
def simpleKey? : Reader String
  | '"' :: rest => do
    let (chars, rest) ← basic? (rest.length + 1) rest
    return (String.ofList chars, rest)
  | '\'' :: rest => do
    let (chars, rest) ← literal? rest
    return (String.ofList chars, rest)
  | cs =>
    let run := cs.takeWhile isBareChar
    if run.isEmpty then none else some (String.ofList run, cs.dropWhile isBareChar)

/-- A key with the blanks around it: its first parts and its last one. -/
def dottedKey? : (fuel : Nat) → Reader (List String × String)
  | 0, _ => none
  | fuel + 1, cs => do
    let (part, rest) ← simpleKey? (skipBlanks cs)
    match skipBlanks rest with
    | '.' :: rest =>
      let ((path, key), rest) ← dottedKey? fuel rest
      return ((part :: path, key), rest)
    | rest => return (([], part), rest)

/-- A key of fewer parts than the limit. -/
def key? : Reader (List String × String) := dottedKey? (nestingLimit - 1)

/-! ## Numbers and dates -/

/-- Digits with single underscores between them. -/
def digitRun? (isDigit : Char → Bool) : Reader (List Char)
  | [] => none
  | [c] => if isDigit c then some ([c], []) else none
  | c :: '_' :: more =>
    if isDigit c then do
      let (cs, rest) ← digitRun? isDigit more
      return (c :: cs, rest)
    else none
  | c :: d :: more =>
    if !isDigit c then none
    else if isDigit d then do
      let (cs, rest) ← digitRun? isDigit (d :: more)
      return (c :: cs, rest)
    else some ([c], d :: more)

def sign : List Char → Bool × List Char
  | '-' :: rest => (true, rest)
  | '+' :: rest => (false, rest)
  | cs => (false, cs)

/-- Decimal digits without leading zeros. -/
def decimalRun? : Reader (List Char)
  | '0' :: rest => some (['0'], rest)
  | cs => digitRun? Char.isDigit cs

/-- The value of digits in a base. -/
def radixValue (base : Nat) (cs : List Char) : Nat :=
  cs.foldl (fun n c => base * n + (Json.hexValue? c).getD 0) 0

/-- An integer that fits 64 bits. -/
def ofInt? (n : Int) : Option Toml :=
  if -0x8000000000000000 ≤ n ∧ n < 0x8000000000000000 then some (.integer n) else none

/-- The digits of a base. -/
def isDigitOf (base : Nat) (c : Char) : Bool :=
  match Json.hexValue? c with
  | some v => v < base
  | none => false

def prefixed? (base : Nat) (cs : List Char) : Option (Toml × List Char) := do
  let (run, rest) ← digitRun? (isDigitOf base) cs
  return (← ofInt? (radixValue base run), rest)

def exponent? : Reader (Bool × List Char)
  | c :: rest =>
    if c = 'e' ∨ c = 'E' then do
      let (negative, rest) := sign rest
      let (run, rest) ← digitRun? Char.isDigit rest
      return ((negative, run), rest)
    else none
  | [] => none

/-- A float too large for double precision is refused, unless it is negative. -/
def float? (negative : Bool) (whole fraction : List Char) (exponent : Bool × List Char)
    (rest : List Char) : Option (Toml × List Char) :=
  if !negative && Decimal.exceedsDouble whole fraction exponent.1 exponent.2 then none
  else some (.float, rest)

/-- A decimal number, the sign being behind. -/
def decimal? (negative : Bool) (cs : List Char) : Option (Toml × List Char) := do
  let (whole, rest) ← decimalRun? cs
  match exponent? rest with
  | some (exponent, rest) => float? negative whole [] exponent rest
  | none =>
    match rest with
    | '.' :: more =>
      match digitRun? Char.isDigit more with
      | none => none
      | some (fraction, rest) =>
        match exponent? rest with
        | some (exponent, rest) => float? negative whole fraction exponent rest
        | none => float? negative whole fraction (false, []) rest
    | _ =>
      let n := radixValue 10 whole
      return (← ofInt? (if negative then -n else n), rest)

/-- Takes exactly these characters off the front. -/
def word? (w : String) (cs : List Char) : Option (List Char) := Json.literal? w.toList cs

/-- A number of any kind. -/
def number? (cs : List Char) : Option (Toml × List Char) :=
  match cs with
  | '0' :: 'x' :: rest => prefixed? 16 rest
  | '0' :: 'o' :: rest => prefixed? 8 rest
  | '0' :: 'b' :: rest => prefixed? 2 rest
  | cs =>
    let (negative, rest) := sign cs
    match (word? "inf" rest).or (word? "nan" rest) with
    | some rest => some (.float, rest)
    | none => decimal? negative rest

/-- A number of exactly `count` digits within bounds. -/
def fixed? (count low high : Nat) (cs : List Char) : Option (Nat × List Char) := do
  let run := cs.take count
  if run.length ≠ count then none
  let n ← Decimal.parse? run
  if n < low ∨ high < n then none
  return (n, cs.drop count)

def char? (c : Char) : List Char → Option (List Char)
  | d :: rest => if c = d then some rest else none
  | [] => none

def daysIn (year month : Nat) : Nat :=
  if month = 2 then
    if (year % 4 = 0 ∧ year % 100 ≠ 0) ∨ year % 400 = 0 then 29 else 28
  else if month ∈ [4, 6, 9, 11] then 30 else 31

/-- A day of the calendar. -/
def date? (cs : List Char) : Option (List Char) := do
  let (year, rest) ← fixed? 4 0 9999 cs
  let (month, rest) ← fixed? 2 1 12 (← char? '-' rest)
  let (_, rest) ← fixed? 2 1 (daysIn year month) (← char? '-' rest)
  return rest

/-- A time of the day, with or without fractions of a second. -/
def time? (cs : List Char) : Option (List Char) := do
  let (_, rest) ← fixed? 2 0 23 cs
  let (_, rest) ← fixed? 2 0 59 (← char? ':' rest)
  let (_, rest) ← fixed? 2 0 60 (← char? ':' rest)
  match rest with
  | '.' :: more => if (more.head?.map Char.isDigit).getD false then some (more.dropWhile Char.isDigit) else none
  | rest => some rest

/-- The distance to universal time; there may be none. -/
def offset? : List Char → Option (List Char)
  | 'Z' :: rest => some rest
  | 'z' :: rest => some rest
  | c :: rest =>
    if c = '+' ∨ c = '-' then do
      let (_, rest) ← fixed? 2 0 23 rest
      let (_, rest) ← fixed? 2 0 59 (← char? ':' rest)
      return rest
    else some (c :: rest)
  | [] => some []

/-- A date, a time, or both. -/
def datetime? (cs : List Char) : Option (List Char) :=
  match date? cs with
  | none => time? cs
  | some rest =>
    match rest with
    | c :: more =>
      if c = 'T' ∨ c = 't' ∨ c = ' ' then
        match time? more with
        | some rest => offset? rest
        | none => if c = ' ' then some rest else none
      else some rest
    | [] => some []

/-! ## Values -/

mutual

/-- One value; `fuel` bounds the steps and `depth` is how far it may nest. -/
def value? : (fuel depth : Nat) → Reader Toml
  | 0, _, _ => none
  | fuel + 1, depth, cs =>
    match cs with
    | '"' :: _ | '\'' :: _ => do
      let (s, rest) ← string? fuel cs
      return (.text s, rest)
    | '[' :: rest =>
      match depth with
      | 0 => none
      | depth + 1 => do
        let (items, rest) ← items? fuel depth rest
        return (.array items, rest)
    | '\x7b' :: rest =>
      match depth with
      | 0 => none
      | depth + 1 =>
        match skipBlanks rest with
        | '\x7d' :: rest => some (.table .inline [], rest)
        | rest => do
          let (entries, rest) ← pairs? fuel depth [] rest
          return (.table .inline entries, rest)
    | 't' :: rest => do return (.boolean true, ← word? "rue" rest)
    | 'f' :: rest => do return (.boolean false, ← word? "alse" rest)
    | cs =>
      match datetime? cs with
      | some rest => some (.datetime, rest)
      | none => number? cs

/-- The items of an array up to its closing bracket. -/
def items? : (fuel depth : Nat) → Reader (List Toml)
  | 0, _, _ => none
  | fuel + 1, depth, cs =>
    match skipLines fuel cs with
    | ']' :: rest => some ([], rest)
    | cs => do
      let (item, rest) ← value? fuel depth cs
      match skipLines fuel rest with
      | ']' :: rest => return ([item], rest)
      | ',' :: rest =>
        let (items, rest) ← items? fuel depth rest
        return (item :: items, rest)
      | _ => none

/-- The pairs of a table in braces up to its closing brace. -/
def pairs? : (fuel depth : Nat) → Entries → Reader Entries
  | 0, _, _, _ => none
  | fuel + 1, depth, es, cs => do
    let ((path, key), rest) ← key? cs
    let (v, rest) ← value? fuel depth (skipBlanks (← char? '=' rest))
    let es ← addPair path key v es
    match skipBlanks rest with
    | '\x7d' :: rest => return (es, rest)
    | ',' :: rest => pairs? fuel depth es rest
    | _ => none

end

/-! ## Documents -/

/-- The rest of a document, with what was read and the path of the table that
was opened last.  A unit of fuel goes with every line and every step into a
value, which are at most two for each character. -/
def lines? : (fuel : Nat) → (here : List String) → Entries → List Char → Option Entries
  | 0, _, _, _ => none
  | fuel + 1, here, es, cs =>
    match skipBlanks cs with
    | [] => some es
    | '#' :: _ | '\n' :: _ | '\r' :: _ => do lines? fuel here es (← endOfLine? cs)
    | '[' :: '[' :: rest => do
      let ((path, key), rest) ← key? rest
      let rest ← endOfLine? (← word? "]]" rest)
      lines? fuel (path ++ [key]) (← openItem path key es) rest
    | '[' :: rest => do
      let ((path, key), rest) ← key? rest
      let rest ← endOfLine? (← char? ']' rest)
      lines? fuel (path ++ [key]) (← openTable path key es) rest
    | cs => do
      let ((path, key), rest) ← key? cs
      let (v, rest) ← value? fuel (nestingLimit - 1) (skipBlanks (← char? '=' rest))
      let rest ← endOfLine? rest
      lines? fuel here (← inTable (addPair path key v) here es) rest

/-- The entries of a document.  A byte order mark at its start is skipped. -/
def parse? (text : String) : Option Entries :=
  let cs := match text.toList with
    | '\ufeff' :: rest => rest
    | cs => cs
  lines? (2 * cs.length + 3) [] [] cs

end StreamGate.Toml
