import StreamGate.Json.Magnitude

/-!
# Values of JSON parts

What the parts of a JSON text mean: the text of a string, the value of a
natural number, and whether a whole part has a value at all.

An object may embed a text instead of holding members.  It then stands for the
value of that text, which may embed further texts.
-/

namespace StreamGate.Json

def isHighSurrogate (code : Nat) : Bool := 0xD800 ≤ code && code ≤ 0xDBFF
def isLowSurrogate (code : Nat) : Bool := 0xDC00 ≤ code && code ≤ 0xDFFF

/-- The characters of a string, unless a surrogate stands alone. -/
def chars? : List Piece → Option (List Char)
  | [] => some []
  | .char c :: rest => (chars? rest).map (c :: ·)
  | .unit high :: .unit low :: rest =>
    if isHighSurrogate high then
      if isLowSurrogate low then
        (chars? rest).map (Char.ofNat (0x10000 + (high - 0xD800) * 0x400 + (low - 0xDC00)) :: ·)
      else none
    else if isLowSurrogate high then none
    else (chars? (.unit low :: rest)).map (Char.ofNat high :: ·)
  | .unit code :: rest =>
    if isHighSurrogate code || isLowSurrogate code then none
    else (chars? rest).map (Char.ofNat code :: ·)

/-- The text of a string. -/
def text? : Json → Option String
  | string pieces => (chars? pieces).map String.ofList
  | _ => none

def bool? : Json → Option Bool
  | bool b => some b
  | _ => none

/-- A natural number below a bound, written without sign, point or exponent. -/
def natBelow? (bound : Nat) : Json → Option Nat
  | number ⟨false, whole, none, none⟩ => Decimal.parseBelow? bound whole
  | _ => none

/-- The deepest nesting of arrays and objects that has a value. -/
def depthLimit : Nat := 127

/-- The first key of an object that embeds a text. -/
def embeddingKey : String := "$serde_json::private::RawValue"

/-- The object embeds a text. -/
def embeds (members : List (List Piece × Json)) : Bool :=
  match members with
  | (key, _) :: _ => chars? key = some embeddingKey.toList
  | [] => false

/-- The text that an object embeds; nothing may stand beside it. -/
def embedded? : List (List Piece × Json) → Option String
  | [(_, item)] => item.text?
  | _ => none

mutual

/-- A part of which every string and number has a value and whose nesting stays
within `depth`.  Embedded texts must be `valid`. -/
def hasValueGiven (valid : String → Bool) : (depth : Nat) → Json → Bool
  | _, null => true
  | _, bool _ => true
  | _, number n => !n.overflows
  | _, string pieces => (chars? pieces).isSome
  | 0, array _ => false
  | 0, object _ => false
  | depth + 1, array items => allHaveValue valid depth items
  | depth + 1, object members =>
    if embeds members then (embedded? members).any valid else membersHaveValue valid depth members

def allHaveValue (valid : String → Bool) : (depth : Nat) → List Json → Bool
  | _, [] => true
  | depth, item :: rest => hasValueGiven valid depth item && allHaveValue valid depth rest

def membersHaveValue (valid : String → Bool) : (depth : Nat) → List (List Piece × Json) → Bool
  | _, [] => true
  | depth, (key, item) :: rest =>
    (chars? key).isSome && hasValueGiven valid depth item && membersHaveValue valid depth rest

end

/-- A text that has a value.  `layers` bounds how many texts are embedded in one
another. -/
def textHasValue : (layers : Nat) → String → Bool
  | 0, _ => false
  | layers + 1, text => (parse? text).any (hasValueGiven (textHasValue layers) depthLimit)

/-- A part of a text of `size` characters that has a value.  An embedded text is
shorter than the one around it, so `size` bounds the layers. -/
def hasValue (size depth : Nat) (tree : Json) : Bool := hasValueGiven (textHasValue size) depth tree

/-- The members of a record as read from an object or an array: one entry per
field, empty if the object lacks it.

An object may hold further members, which are not looked at, but no field
twice; every key must be a proper string.  An array holds the fields in order
and nothing else. -/
def fields? (names : List String) : Json → Option (List (Option Json))
  | object members => do
    let keyed ← members.mapM fun (key, item) => do return (String.ofList (← chars? key), item)
    names.mapM fun name =>
      match keyed.filter (·.1 == name) with
      | [] => some none
      | [(_, item)] => some (some item)
      | _ => none
  | array items => if items.length = names.length then some (items.map some) else none
  | _ => none

/-- Like `fields?`, for records of which every field must be there. -/
def allFields? (names : List String) (tree : Json) : Option (List Json) := do
  (← fields? names tree).mapM id

end StreamGate.Json
