import StreamGate.Grant

/-!
# Content dispositions

Whether a browser shows a file or saves it, and under which name.  The rules
differ between whole files and ranges: a whole file that was granted for
download is an attachment in the extended form for every browser, a range only
for plain downloads and in the extended form only for Firefox.
-/

namespace StreamGate

/-- What a browser does with a body. -/
inductive Disposition.Mode where
  | attachment
  | inline
deriving DecidableEq, Repr

def Disposition.Mode.name : Disposition.Mode → String
  | attachment => "attachment"
  | inline => "inline"

namespace Disposition

/-- The name in the extended form. -/
def extended (mode : Mode) (name : String) : String := mode.name ++ ";filename*=\"utf-8' '" ++ name ++ "\""

/-- The name in the plain form. -/
def plain (mode : Mode) (name : String) : String := mode.name ++ ";filename=\"" ++ name ++ "\""

/-- One list of characters occurs within another. -/
def occursIn (part : List Char) : List Char → Bool
  | [] => part.isEmpty
  | c :: rest => part.isPrefixOf (c :: rest) || occursIn part rest

/-- The user agent names Firefox, in any case. -/
def isFirefox (userAgent : Option String) : Bool :=
  match userAgent with
  | none => false
  | some text => occursIn "firefox".toList (text.toList.map Char.toLower)

/-- The form that a browser understands. -/
def byAgent (mode : Mode) (name : String) (firefox : Bool) : String :=
  if firefox then extended mode name else plain mode name

/-- For a whole file. -/
def file (op : Operation) (name : String) (firefox : Bool) : String :=
  match op with
  | .download | .downloadLink => extended .attachment name
  | _ => byAgent .inline name firefox

/-- For a range of a file. -/
def range (op : Operation) (name : String) (firefox : Bool) : String :=
  match op with
  | .download => byAgent .attachment name firefox
  | _ => byAgent .inline name firefox

/-- For a stored block. -/
def block (id : String) (firefox : Bool) : String := byAgent .attachment id firefox

/-- For an archive. -/
def archive (name : String) : String := plain .attachment (name ++ ".zip")

end Disposition

end StreamGate
