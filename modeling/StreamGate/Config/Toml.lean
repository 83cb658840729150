import StreamGate.Text.Decimal

/-!
# TOML values

The values of a TOML document, and the rules by which keys and table headers
build them up.

A table remembers how it came about, because that decides who may add to it.  A
table in braces is closed.  A table with a header of its own takes no additions
through dotted keys.  A table that was only named on the way to another one may
still get its own header, once.
-/

namespace StreamGate

/-- How a table came about. -/
inductive Toml.Origin where
  /-- Written in braces. -/
  | inline
  /-- Opened by a header. -/
  | header
  /-- Named on the way to another header. -/
  | implied
  /-- Named on the way to a dotted key. -/
  | dotted
deriving DecidableEq, Repr

/-- A TOML value. -/
inductive Toml where
  | text (s : String)
  | integer (n : Int)
  | float
  | boolean (b : Bool)
  | datetime
  | array (items : List Toml)
  | table (origin : Toml.Origin) (entries : List (String × Toml))
  /-- Tables opened one after another by headers in double brackets. -/
  | tables (items : List (List (String × Toml)))

namespace Toml

/-- The entries of a table. -/
abbrev Entries := List (String × Toml)

/-- The value under a key. -/
def find? (key : String) (es : Entries) : Option Toml := (es.find? fun e => e.1 = key).map (·.2)

/-- Replaces the value under a key that is there. -/
def replace (key : String) (v : Toml) (es : Entries) : Entries :=
  es.map fun e => if e.1 = key then (key, v) else e

/-- Goes down a path, making the tables that are missing, and changes the table
at its end.  `act` is also told whether that table came from a dotted key. -/
def descend (byKey : Bool) (act : Bool → Entries → Option Entries) :
    (fromKey : Bool) → (path : List String) → Entries → Option Entries
  | fromKey, [], es => act fromKey es
  | _, key :: rest, es =>
    match find? key es with
    | none => do
      let sub ← descend byKey act byKey rest []
      return es ++ [(key, .table (if byKey then .dotted else .implied) sub)]
    | some (.table origin sub) =>
      if origin = .inline ∨ (byKey ∧ origin = .header) then none
      else do
        let sub ← descend byKey act (origin = .dotted) rest sub
        return replace key (.table origin sub) es
    | some (.tables items) => do
      let sub ← descend byKey act false rest (← items.getLast?)
      return replace key (.tables (items.dropLast ++ [sub])) es
    | some _ => none

/-- Adds a value under a dotted key, given as the way to it and its last part. -/
def addPair (path : List String) (key : String) (v : Toml) (es : Entries) : Option Entries :=
  descend true
    (fun fromKey es =>
      if fromKey = path.isEmpty || (find? key es).isSome then none else some (es ++ [(key, v)]))
    false path es

/-- Opens a table by a header. -/
def openTable (path : List String) (key : String) (es : Entries) : Option Entries :=
  descend false
    (fun _ es =>
      match find? key es with
      | none => some (es ++ [(key, .table .header [])])
      | some (.table .implied sub) => some (replace key (.table .header sub) es)
      | some _ => none)
    false path es

/-- Opens one more table in a row of tables. -/
def openItem (path : List String) (key : String) (es : Entries) : Option Entries :=
  descend false
    (fun _ es =>
      match find? key es with
      | none => some (es ++ [(key, .tables [[]])])
      | some (.tables items) => some (replace key (.tables (items ++ [[]])) es)
      | some _ => none)
    false path es

/-- Changes the table that the last header opened. -/
def inTable (act : Entries → Option Entries) : (path : List String) → Entries → Option Entries
  | [], es => act es
  | key :: rest, es =>
    match find? key es with
    | some (.table origin sub) => do
      let sub ← inTable act rest sub
      return replace key (.table origin sub) es
    | some (.tables items) => do
      let sub ← inTable act rest (← items.getLast?)
      return replace key (.tables (items.dropLast ++ [sub])) es
    | _ => none

end Toml

end StreamGate
