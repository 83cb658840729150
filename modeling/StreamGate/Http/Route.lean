import StreamGate.Bytes.Hex
import StreamGate.Text.Split

/-!
# Routes

Which resource a request path names.  A path is matched as it is written, case
and slashes included; its parameters are decoded afterwards, so an encoded slash
does not split a parameter.
-/

namespace StreamGate

/-- The resources of the gateway. -/
inductive Resource where
  | file
  | block
  | archive
  | health
  | version
  | metrics
deriving DecidableEq, Repr

/-- A resource with the undecoded parameters of the path, each with its name. -/
structure Route where
  resource : Resource
  params : List (String × String)
deriving DecidableEq, Repr

namespace Route

/-- A character that a scheme may hold. -/
def isSchemeChar (c : Char) : Bool := c.isAlphanum || c = '+' || c = '-' || c = '.'

/-- What comes before a query or fragment. -/
def beforeQuery (cs : List Char) : List Char := cs.takeWhile fun c => c ≠ '?' && c ≠ '#'

/-- The path of a request target.  A target starts with its path or is a whole
address, of which scheme and authority are not looked at; any other form has no
path. -/
def pathOf (target : String) : List Char :=
  match target.toList with
  | '/' :: rest => '/' :: beforeQuery rest
  | cs =>
    match cs.dropWhile isSchemeChar with
    | ':' :: '/' :: '/' :: rest => beforeQuery (rest.dropWhile fun c => c ≠ '/' && c ≠ '?' && c ≠ '#')
    | _ => []

/-- The route of a request target.  The last parameter is never empty. -/
def ofTarget? (target : String) : Option Route :=
  match (Text.splitOn '/' (pathOf target)).map String.ofList with
  | ["", "files", token, name] =>
    if name = "" then none else some ⟨.file, [("token", token), ("filename", name)]⟩
  | ["", "blks", token, id] =>
    if id = "" then none else some ⟨.block, [("token", token), ("block_id", id)]⟩
  | ["", "zip", token] => if token = "" then none else some ⟨.archive, [("token", token)]⟩
  | ["", "health"] => some ⟨.health, []⟩
  | ["", "version"] => some ⟨.version, []⟩
  | ["", "metrics"] => some ⟨.metrics, []⟩
  | _ => none

/-- Replaces escapes of two hexadecimal digits; anything else stays. -/
def decodePercent : Bytes → Bytes
  | 37 :: high :: low :: rest =>
    match Hex.digitValue? high, Hex.digitValue? low with
    | some h, some l => (h * 16 + l) :: decodePercent rest
    | _, _ => 37 :: decodePercent (high :: low :: rest)
  | b :: rest => b :: decodePercent rest
  | [] => []

/-- The decoded parameters, or the name of the first one that is no text. -/
def decodeParams : List (String × String) → Except String (List String)
  | [] => .ok []
  | (name, raw) :: rest =>
    match Bytes.toText? (decodePercent (Bytes.ofText raw)) with
    | none => .error name
    | some text => (decodeParams rest).map (text :: ·)

end Route

end StreamGate
