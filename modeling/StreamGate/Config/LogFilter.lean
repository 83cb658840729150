import StreamGate.Text.Decimal
import StreamGate.Text.Pattern
import StreamGate.Text.Split

/-!
# Log filters

A filter says in directives, with commas between them, which log lines are shown.
A directive is a level, or the name of a target with a span, fields and a level,
each of which may be missing.  A field may have a value, which is a number, a
truth value or a pattern.

What counts here is which directives are left out, and why.  One thing cannot be
left out: blanks around a directive do not count, but its parts are cut out of it
with the blanks before it, at offsets that leave them out.  A cut that falls
inside a character breaks the whole program off.
-/

namespace StreamGate.LogFilter

/-- Why a directive is left out. -/
inductive Fault where
  /-- It is not built like one. -/
  | malformed
  /-- Its level is none. -/
  | unknownLevel
  /-- The value of a field cannot be used. -/
  | badValue (f : Pattern.Fault)
deriving DecidableEq, Repr

def Fault.message : Fault → String
  | malformed => "invalid filter directive"
  | unknownLevel =>
    "error parsing level filter: expected one of \"off\", \"error\", \"warn\", \"info\", \"debug\", \"trace\", or a number 0-5"
  | badValue f => s!"invalid field filter: {f.message}"

/-- Why a directive is not read to its end. -/
inductive Halt where
  | fault (f : Fault)
  /-- A cut falls inside a character. -/
  | breakdown
deriving DecidableEq, Repr

/-- Where in a directive a reader is.  Parts that are being read begin at an
offset in bytes. -/
inductive Position where
  | start
  /-- In a name, of a target or of a level. -/
  | name
  | span (offset : Nat)
  | field (offset : Nat)
  /-- Behind the fields. -/
  | fields
  /-- Behind the span. -/
  | target
  | level (offset : Nat)
deriving DecidableEq, Repr

/-- A character that a name may begin with. -/
def isNameStart (c : Char) : Bool := c = '-' || c = ':' || c = '_' || Text.isAlphanumeric c

/-- The part of a directive between two offsets. -/
def between (directive : List Char) (low high : Nat) : Except Halt (List Char) :=
  match (Text.dropBytes? low directive).bind (Text.takeBytes? (high - low)) with
  | some part => .ok part
  | none => .error .breakdown

/-- Looks at a field: a name, perhaps with an equals sign and a value behind it. -/
def checkField (field : List Char) : Except Halt Unit :=
  match Text.splitOn '=' field with
  | _ :: value :: _ =>
    if Decimal.isMeasure value then .ok ()
    else match Pattern.fault? (String.ofList value) with
      | some f => .error (.fault (.badValue f))
      | none => .ok ()
  | _ => .ok ()

/-- Reads on over one character, the one from the byte `here` up to the byte
`next`. -/
def Position.step (directive : List Char) (p : Position) (here next : Nat) (c : Char) :
    Except Halt Position := do
  match p with
  | start =>
    if c = '[' then return span next
    else if isNameStart c then return name
    else throw (.fault .malformed)
  | name =>
    if c = '=' || c = '[' then
      let _ ← between directive 0 here
      return if c = '=' then level next else span next
    else return name
  | span offset =>
    if c = ']' || c = '\x7b' then
      let _ ← between directive offset here
      return if c = ']' then target else field next
    else return span offset
  | field offset =>
    if c = '\x7d' then
      let part ← between directive offset here
      if part.isEmpty then throw (.fault .malformed)
      checkField part
      return fields
    else return field offset
  | fields => if c = ']' then return target else throw (.fault .malformed)
  | target => if c = '=' then return level next else throw (.fault .malformed)
  | level offset => return level offset

/-- Reads on to the end. -/
def Position.run (directive : List Char) :
    Position → (here : Nat) → List Char → Except Halt Position
  | p, _, [] => .ok p
  | p, here, c :: rest => do
    let next := here + c.utf8Size
    (← p.step directive here next c).run directive next rest

/-- The names of the levels, the least talkative first. -/
def levelNames : List String := ["off", "error", "warn", "info", "debug", "trace"]

/-- A level is a name in letters of any case, or a number; it may be missing. -/
def isLevel (level : List Char) : Bool :=
  level.isEmpty
    || (Decimal.parseWord? level).any (· < levelNames.length)
    || levelNames.contains (String.ofList (level.map Char.toLower))

/-- Reads a directive. -/
def check (directive : String) : Except Halt Unit := do
  let cs := directive.toList
  match ← Position.start.run cs 0 (Text.trim cs) with
  | .name | .target => return ()
  | .level offset =>
    let level ← between cs offset directive.utf8ByteSize
    if !isLevel level then throw (.fault .unknownLevel)
  | _ => throw (.fault .malformed)

/-- The directives of a filter. -/
def directives (filter : String) : List String := (Text.cut ',' filter).filter (· ≠ "")

/-- What is said about a directive that is left out. -/
def notice (directive : String) : Except Halt String :=
  match check directive with
  | .error (.fault f) => .ok s!"ignoring `{directive}`: {f.message}\n"
  | .error .breakdown => .error .breakdown
  | .ok () => .ok ""

/-- What is said while the filter is chosen.  The one from the environment is in
force if all its directives are sound, else the one from the settings without
those that are not.  A breakdown says nothing. -/
def notices? (environment : Option String) (configured : String) : Option String :=
  match environment.map fun filter => (directives filter).forM check with
  | some (.ok ()) => some ""
  | some (.error .breakdown) => none
  | _ => (((directives configured).mapM notice).map String.join).toOption

end StreamGate.LogFilter
