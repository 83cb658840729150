import StreamGate.Bytes.Hex
import StreamGate.Text.CharClass

/-!
# Patterns

Regular expressions, as far as telling which texts are one.  Nothing is matched
here, so reading a pattern keeps no tree of it: a part that was read leaves only
its height, because patterns that are nested too deeply are refused.

Three things narrow what a pattern may hold.

* A pattern holds no closing brace, because it stands in a field that a brace
  ends.  Whatever needs one is refused: counted repetition, properties, and
  characters whose number stands in braces.
* There are no tables of scripts.  Where a pattern speaks of all characters, the
  shorthands for digits, blanks and word characters are refused, and so is a
  letter in either case.
* A pattern matches whole characters.  Where it speaks of single bytes, whatever
  could match a part of a character is refused.
-/

namespace StreamGate

namespace Pattern

/-- Why a text cannot be used as a pattern. -/
inductive Fault where
  | malformed
  /-- It asks where words end, for words of any script. -/
  | wordEdge
deriving DecidableEq, Repr

def Fault.message : Fault → String
  | malformed => "error building NFA"
  | wordEdge =>
    "unsupported regex feature for DFAs: cannot build DFAs for regexes with Unicode word boundaries; switch to ASCII word boundaries, or heuristically enable Unicode word boundaries or use a different regex engine"

/-- What is switched on at a place in a pattern. -/
structure Mode where
  /-- It speaks of characters rather than of bytes. -/
  unicode : Bool := true
  /-- Letters stand for either case. -/
  caseless : Bool := false
  /-- Blanks and comments say nothing. -/
  spaced : Bool := false
deriving DecidableEq, Repr

/-- Drops blanks and comments; a comment ends with its line. -/
def skipBlanks : (inComment : Bool) → List Char → List Char
  | _, [] => []
  | true, c :: rest => skipBlanks (c ≠ '\n') rest
  | false, c :: rest =>
    if Text.isBlank c then skipBlanks false rest
    else if c = '#' then skipBlanks true rest
    else c :: rest

/-- Drops what says nothing. -/
def Mode.skip (m : Mode) (cs : List Char) : List Char :=
  if m.spaced then skipBlanks false cs else cs

/-! ## Single characters -/

/-- What stands for one character or for a place between two. -/
inductive Atom where
  /-- A character, perhaps written as the number of a byte. -/
  | char (c : Char) (byByte : Bool := false)
  /-- A shorthand for a set of characters, or for all others. -/
  | shorthand (negated : Bool)
  /-- The edge of a word. -/
  | wordEdge
  /-- An end of the text. -/
  | textEdge
deriving DecidableEq, Repr

/-- Reads a number of hexadecimal digits. -/
def hexadecimal (m : Mode) : (count total : Nat) → List Char → Option (Nat × List Char)
  | 0, total, cs => some (total, cs)
  | _ + 1, _, [] => none
  | count + 1, total, c :: rest =>
    if c.toNat < 128 then do
      let d ← Hex.digitValue? c.toNat.toUInt8
      hexadecimal m count (16 * total + d.toNat) (m.skip rest)
    else none

/-- Reads a character written as its number. -/
def numbered (m : Mode) (count : Nat) (cs : List Char) : Option (Atom × List Char) := do
  let (n, rest) ← hexadecimal m count 0 (m.skip cs)
  if n.isValidChar then return (.char (Char.ofNat n) (count = 2), rest) else none

/-- Reads on behind a backslash.  Punctuation stands for itself; letters and
digits that mean nothing are refused. -/
def escaped (m : Mode) : List Char → Option (Atom × List Char)
  | [] => none
  | 'x' :: rest => numbered m 2 rest
  | 'u' :: rest => numbered m 4 rest
  | 'U' :: rest => numbered m 8 rest
  | c :: rest =>
    let char (n : Nat) := some (Atom.char (Char.ofNat n), rest)
    match c with
    | 'a' => char 7
    | 't' => char 9
    | 'n' => char 10
    | 'v' => char 11
    | 'f' => char 12
    | 'r' => char 13
    | 'd' | 's' | 'w' => some (.shorthand false, rest)
    | 'D' | 'S' | 'W' => some (.shorthand true, rest)
    | 'b' | 'B' | '<' | '>' => some (.wordEdge, rest)
    | 'A' | 'z' => some (.textEdge, rest)
    | _ => if c.isAlphanum || 127 < c.toNat then none else some (.char c, rest)

/-- An atom is allowed outside a class. -/
def Atom.isAllowed (m : Mode) : Atom → Bool
  | char c byByte => if m.unicode then !m.caseless else !(byByte && 127 < c.toNat)
  | shorthand negated => !m.unicode && !negated
  | wordEdge | textEdge => true

/-- An atom is allowed in a class. -/
def Atom.isAllowedInClass (m : Mode) : Atom → Bool
  | char c _ => if m.unicode then !m.caseless else c.toNat ≤ 127
  | shorthand negated => !m.unicode && !negated
  | wordEdge | textEdge => false

/-! ## Heights -/

/-- The height of parts taken together.  A single part is no higher for it. -/
def joinedHeight : List Nat → Nat
  | [] => 0
  | [h] => h
  | h :: rest => 1 + rest.foldl max h

/-- The greatest height of a pattern. -/
def maxHeight : Nat := 250

/-! ## Classes -/

/-- A class that is not read to its end. -/
structure Class where
  /-- The height of what stands before an operator. -/
  left : Option Nat := none
  /-- The heights of the members since then. -/
  members : List Nat := []
  /-- Nothing but dashes were read. -/
  fresh : Bool := true

namespace Class

def height (k : Class) : Nat :=
  match k.left with
  | none => joinedHeight k.members
  | some h => 1 + max h (joinedHeight k.members)

def add (k : Class) (height : Nat) : Class :=
  { k with members := height :: k.members, fresh := false }

/-- The named sets of characters. -/
def setNames : List String :=
  ["alnum", "alpha", "ascii", "blank", "cntrl", "digit", "graph", "lower", "print", "punct",
    "space", "upper", "word", "xdigit"]

/-- Reads a named set behind its bracket, and tells whether it is turned around. -/
def namedSet? (cs : List Char) : Option (Bool × List Char) := do
  let rest ← if cs.head? = some ':' then some cs.tail else none
  let negated := rest.head? = some '^'
  let rest := if negated then rest.tail else rest
  let name := rest.takeWhile (· ≠ ':')
  match rest.drop name.length with
  | ':' :: ']' :: rest =>
    if setNames.contains (String.ofList name) then some (negated, rest) else none
  | _ => none

/-- Reads the bracket's inside up to its first member.  Turned around, a class of
bytes could match a part of a character. -/
def opened? (m : Mode) (cs : List Char) : Option (List Char) :=
  match m.skip cs with
  | '^' :: rest => if m.unicode then some rest else none
  | rest => some rest

/-- Reads a character, or an escape. -/
def atom? (m : Mode) : List Char → Option (Atom × List Char)
  | [] => none
  | '\\' :: rest => escaped m rest
  | c :: rest => some (.char c, rest)

/-- Reads a member: a range, or an atom by itself.  A dash before a bracket or
another dash makes no range. -/
def member? (m : Mode) (cs : List Char) : Option (List Char) := do
  let (low, rest) ← atom? m cs
  if !low.isAllowedInClass m then none
  match m.skip rest with
  | '-' :: rest =>
    match low, m.skip rest with
    | _, ']' :: _ | _, '-' :: _ => return '-' :: rest
    | .char low _, rest =>
      let (high, rest) ← atom? m rest
      match high with
      | .char c _ => if high.isAllowedInClass m && low ≤ c then return rest else none
      | _ => none
    | _, _ => none
  | rest => return rest

/-- Reads a class to its end; gives its height.  `outer` are the classes around it,
the nearest first. -/
def read (m : Mode) : (fuel : Nat) → Class → (outer : List Class) → List Char →
    Option (Nat × List Char)
  | 0, _, _, _ => none
  | fuel + 1, k, outer, cs =>
    let on (k : Class) (rest : List Char) := read m fuel k outer rest
    let dash := k.fresh && (Atom.char '-').isAllowedInClass m
    match m.skip cs with
    | [] => none
    | ']' :: rest =>
      if k.fresh && k.members.isEmpty then
        if (Atom.char ']').isAllowedInClass m then on (k.add 0) rest else none
      else match outer with
        | [] => some (1 + k.height, rest)
        | around :: outer => read m fuel (around.add (1 + k.height)) outer rest
    | '[' :: rest =>
      match namedSet? rest with
      | some (negated, rest) =>
        if (if m.unicode then !m.caseless else !negated) then on (k.add 0) rest else none
      | none => do read m fuel {} (k :: outer) (← opened? m rest)
    | '&' :: '&' :: rest | '~' :: '~' :: rest =>
      on { left := some k.height, fresh := false } rest
    | '-' :: rest =>
      if k.fresh then if dash then on { k.add 0 with fresh := true } rest else none
      else match rest with
        | '-' :: rest => on { left := some k.height, fresh := false } rest
        | _ => do on (k.add 0) (← member? m ('-' :: rest))
    | rest => do on (k.add 0) (← member? m rest)

end Class

/-! ## Groups -/

/-- A part of a pattern. -/
structure Part where
  height : Nat := 0
  /-- It can be repeated; a change of mode cannot. -/
  repeatable : Bool := true

/-- A group that is not read to its end, or the pattern as a whole. -/
structure Group where
  mode : Mode := {}
  /-- The heights of the branches before this one. -/
  branches : List Nat := []
  /-- The parts of this branch, last one first. -/
  parts : List Part := []

namespace Group

def branchHeight (g : Group) : Nat := joinedHeight (g.parts.map (·.height))

def height (g : Group) : Nat :=
  if g.branches.isEmpty then g.branchHeight
  else joinedHeight (g.branchHeight :: g.branches)

def add (g : Group) (p : Part) : Group := { g with parts := p :: g.parts }

/-- Ends a branch. -/
def branch (g : Group) : Group :=
  { g with branches := g.branchHeight :: g.branches, parts := [] }

/-- Repeats the last part. -/
def repeated? (g : Group) : Option Group :=
  match g.parts with
  | p :: rest =>
    if p.repeatable then some { g with parts := { height := 1 + p.height } :: rest } else none
  | [] => none

end Group

/-- Reads switches up to the colon or parenthesis behind them; gives that as well
as the switches, last one first.  Each may be written once, and a dash turns those
behind it off. -/
def switches : (seen : List Char) → (on : Bool) → Mode → List Char →
    Option (List Char × Char × Mode × List Char)
  | _, _, _, [] => none
  | seen, on, m, c :: rest =>
    let further (m : Mode) := switches (c :: seen) on m rest
    if c = ':' || c = ')' then if seen.head? = some '-' then none else some (seen, c, m, rest)
    else if seen.contains c then none
    else match c with
      | '-' => switches (c :: seen) false m rest
      | 'i' => further { m with caseless := on }
      | 'u' => further { m with unicode := on }
      | 'x' => further { m with spaced := on }
      | 'm' | 's' | 'U' | 'R' => further m
      | _ => none

/-- Reads a group's name and the bracket behind it. -/
def groupName? (cs : List Char) : Option (String × List Char) :=
  let name := cs.takeWhile (· ≠ '>')
  match name, cs.drop name.length with
  | first :: others, _ :: rest =>
    let isInside (c : Char) := c = '_' || c = '.' || c = '[' || c = ']' || Text.isAlphanumeric c
    if (first = '_' || Text.isLetter first) && others.all isInside then
      some (String.ofList name, rest)
    else none
  | _, _ => none

/-! ## The whole -/

/-- How far a pattern was read. -/
structure Progress where
  group : Group := {}
  /-- The groups around it, the nearest first. -/
  outer : List Group := []
  /-- The names of groups so far. -/
  names : List String := []
  /-- The edges of words of any script matter. -/
  wordEdge : Bool := false

namespace Progress

def add (p : Progress) (part : Part) : Progress := { p with group := p.group.add part }

/-- Begins a group. -/
def enter (p : Progress) (m : Mode) : Progress :=
  { p with group := { mode := m }, outer := p.group :: p.outer }

/-- Reads on behind an opening parenthesis. -/
def opened? (p : Progress) (cs : List Char) : Option (Progress × List Char) :=
  let m := p.group.mode
  let named (cs : List Char) := do
    let (name, rest) ← groupName? cs
    if p.names.contains name then none
    else some ({ p.enter m with names := name :: p.names }, rest)
  match m.skip cs with
  | '?' :: 'P' :: '<' :: rest => named rest
  | '?' :: '<' :: rest => named rest
  | '?' :: rest => do
    let (seen, ending, m, rest) ← switches [] true m rest
    if ending = ':' then some (p.enter m, rest)
    else if seen.isEmpty then none
    else some ({ p with group := { p.group.add { repeatable := false } with mode := m } }, rest)
  | rest => some (p.enter m, rest)

/-- Takes in an atom. -/
def take? (p : Progress) (a : Atom) : Option Progress :=
  if a.isAllowed p.group.mode then
    some { p.add {} with wordEdge := p.wordEdge || (a = .wordEdge && p.group.mode.unicode) }
  else none

/-- Reads on over one character and what belongs to it. -/
def step? (p : Progress) (c : Char) (rest : List Char) : Option (Progress × List Char) :=
  match c with
  | '(' => p.opened? rest
  | ')' =>
    match p.outer with
    | [] => none
    | around :: outer =>
      some ({ p with group := around.add { height := 1 + p.group.height }, outer }, rest)
  | '|' => some ({ p with group := p.group.branch }, rest)
  | '[' => do
    let m := p.group.mode
    let (height, rest) ← Class.read m (rest.length + 1) {} [] (← Class.opened? m rest)
    some (p.add { height }, rest)
  | '?' | '*' | '+' => do
    let group ← p.group.repeated?
    some ({ p with group }, if rest.head? = some '?' then rest.tail else rest)
  | '\x7b' => none
  | '\\' => do
    let (a, rest) ← escaped p.group.mode rest
    some (← p.take? a, rest)
  | '.' => if p.group.mode.unicode then some (p.add {}, rest) else none
  | '^' | '$' => some (p.add {}, rest)
  | _ => do some (← p.take? (.char c), rest)

/-- Reads a pattern to its end. -/
def read? : (fuel : Nat) → Progress → List Char → Option Progress
  | 0, _, _ => none
  | fuel + 1, p, cs =>
    match p.group.mode.skip cs with
    | [] => if p.outer.isEmpty && p.group.height ≤ maxHeight then some p else none
    | c :: rest => do
      let (p, rest) ← p.step? c rest
      read? fuel p rest

end Progress

/-- What is wrong with a pattern. -/
def fault? (text : String) : Option Fault :=
  match Progress.read? (text.length + 1) {} text.toList with
  | none => some .malformed
  | some p => if p.wordEdge then some .wordEdge else none

end Pattern

end StreamGate
