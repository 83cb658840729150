import StreamGate.Text.Split

/-!
# Paths

File paths as texts, and what they say: where they start, through which names
they lead, and whether they insist on ending at a directory.
-/

namespace StreamGate

/-- What a path text says. -/
structure Path where
  /-- It starts at the root rather than at the working directory. -/
  absolute : Bool
  /-- The names it leads through, `..` included; empty names and `.` say
  nothing. -/
  names : List String
  /-- It ends in `/` or `/.`, so it can only name a directory. -/
  endsInDirectory : Bool
  /-- It ends in `.`, slashes behind it aside, so what it names is there already. -/
  endsInDot : Bool
deriving DecidableEq, Repr

namespace Path

/-- A name that leads nowhere. -/
def isIdle (name : String) : Bool := name = "" || name = "."

/-- What a text says as a path. -/
def parse (text : String) : Path :=
  let names := Text.cut '/' text
  { absolute := text.toList.head? = some '/'
    names := names.filter fun n => !isIdle n
    endsInDirectory := (names.getLast?.map isIdle).getD true
    endsInDot := (names.filter (· ≠ "")).getLast? = some "." }

/-- A path ends in a name, one slash behind it aside. -/
def endsInName (text : String) : Bool :=
  let pieces := Text.cut '/' text
  let pieces := if pieces.getLast? = some "" then pieces.dropLast else pieces
  !pieces.getLast?.any isIdle

/-- A path below another one.  An absolute path is taken as it is. -/
def join (dir name : String) : String :=
  if name.toList.head? = some '/' then name
  else if dir = "" || dir.toList.getLast? = some '/' then dir ++ name
  else dir ++ "/" ++ name

end Path

end StreamGate
