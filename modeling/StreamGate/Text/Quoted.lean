import StreamGate.Text.Printable

/-!
# Quoted text

How error messages show a text or a character: in quotes, with escapes for the
quote itself, the backslash, and every character that is not printable.
-/

namespace StreamGate.Text

/-- A character that would not show as itself, in escaped form. -/
def escaped (c : Char) : List Char :=
  match c with
  | '\x00' => ['\\', '0']
  | '\t' => ['\\', 't']
  | '\r' => ['\\', 'r']
  | '\n' => ['\\', 'n']
  | '\\' => ['\\', '\\']
  | c =>
    if isPrintable c then [c]
    else ['\\', 'u', '\x7b'] ++ Nat.toDigits 16 c.toNat ++ ['\x7d']

/-- A text between double quotes. -/
def quoted (text : String) : String :=
  let inner := text.toList.flatMap fun c => if c = '"' then ['\\', '"'] else escaped c
  String.ofList (['"'] ++ inner ++ ['"'])

/-- A character between single quotes. -/
def quotedChar (c : Char) : String :=
  String.ofList ((['\''] ++ if c = '\'' then ['\\', '\''] else escaped c) ++ ['\''])

end StreamGate.Text
