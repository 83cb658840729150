import StreamGate.Json.Value

/-!
# Writing JSON

The compact form of texts, numbers and records: no blanks, short escapes where
there are any, four hexadecimal digits for the other control characters, every
other character as it is.
-/

namespace StreamGate.Json

/-- A character inside a string. -/
def writeChar (c : Char) : List Char :=
  match c with
  | '"' => ['\\', '"']
  | '\\' => ['\\', '\\']
  | '\x08' => ['\\', 'b']
  | '\x0c' => ['\\', 'f']
  | '\n' => ['\\', 'n']
  | '\r' => ['\\', 'r']
  | '\t' => ['\\', 't']
  | c =>
    if c.toNat < 0x20 then
      ['\\', 'u', '0', '0', Nat.digitChar (c.toNat / 16), Nat.digitChar (c.toNat % 16)]
    else [c]

def writeText (text : String) : String :=
  String.ofList (['"'] ++ text.toList.flatMap writeChar ++ ['"'])

def writeBool (b : Bool) : String := if b then "true" else "false"

/-- An array of values that are written already. -/
def writeArray (items : List String) : String := "[" ++ ",".intercalate items ++ "]"

/-- An object of values that are written already. -/
def writeObject (members : List (String × String)) : String :=
  "\x7b" ++ ",".intercalate (members.map fun (key, item) => writeText key ++ ":" ++ item) ++ "\x7d"

end StreamGate.Json
