import StreamGate.Bytes.Hex
import StreamGate.Failure
import StreamGate.Hash.Blake3

/-!
# Block ids

A block is named by a hexadecimal digest: 40 digits for blocks that were named
elsewhere, 64 for blocks named by the Blake3 hash of their content.  An id is
kept in lower case, so two spellings of one digest are one id; the canonical
form is part of the type.
-/

namespace StreamGate

/-- A text is an id in canonical form. -/
structure IsBlockId (text : String) : Prop where
  length_eq : text.toList.length = 40 ∨ text.toList.length = 64
  lowerDigits : ∀ c ∈ text.toList, c ∈ Hex.lowerDigits

/-- The name of a block. -/
structure BlockId where
  text : String
  canonical : IsBlockId text

namespace BlockId

@[ext] theorem ext {a b : BlockId} (h : a.text = b.text) : a = b := by
  cases a; cases b; cases h; rfl

instance : DecidableEq BlockId := fun a b =>
  if h : a.text = b.text then isTrue (ext h) else isFalse fun e => h (congrArg text e)

/-- Why a text is no block id. -/
inductive Malformed where
  /-- The text has this many bytes. -/
  | length (bytes : Nat)
  /-- The text holds a character that is no hexadecimal digit. -/
  | digit (text : String)
deriving DecidableEq, Repr

namespace Malformed

def message : Malformed → String
  | length bytes => s!"Invalid length: expected 40 or 64, got {bytes}"
  | digit text => s!"Non-hex character in {text}"

/-- The failure that a malformed id causes. -/
def failure (m : Malformed) : Failure := .invalidBlockId m.message

end Malformed

/-- The text with its letters in lower case. -/
def lower (text : String) : String := String.ofList (text.toList.map Char.toLower)

theorem isBlockId_lower {text : String}
    (length : text.utf8ByteSize = 40 ∨ text.utf8ByteSize = 64)
    (digits : ∀ c ∈ text.toList, c ∈ Hex.allDigits) : IsBlockId (lower text) := by
  have size : text.utf8ByteSize = text.toList.length := by
    have := Bytes.utf8ByteSize_ofList fun c hc => Hex.utf8Size_of_mem_allDigits (digits c hc)
    rwa [String.ofList_toList] at this
  constructor
  · simpa [lower, size] using length
  · intro c hc
    simp only [lower, String.toList_ofList, List.mem_map] at hc
    obtain ⟨d, hd, rfl⟩ := hc
    exact Hex.toLower_mem_lowerDigits (digits d hd)

/-- Reads an id in either case.  The length is looked at first. -/
def parse (text : String) : Except Malformed BlockId :=
  if length : text.utf8ByteSize = 40 ∨ text.utf8ByteSize = 64 then
    if digits : Hex.isHex text then
      .ok ⟨lower text, isBlockId_lower length (Hex.isHex_iff.1 digits)⟩
    else .error (.digit text)
  else .error (.length text.utf8ByteSize)

/-- The id of a block's content: its Blake3 hash. -/
def ofContent (data : Bytes) : BlockId where
  text := Hex.encode (Blake3.hash data)
  canonical := ⟨Or.inr (by simp), fun _ => Hex.mem_lowerDigits_of_mem_encode⟩

/-- The id is a content hash rather than a name given elsewhere. -/
def isContentHash (id : BlockId) : Bool := id.text.toList.length == 64

/-- The first two digits, which group blocks on disk. -/
def group (id : BlockId) : String := String.ofList (id.text.toList.take 2)

/-- The digits after the group. -/
def member (id : BlockId) : String := String.ofList (id.text.toList.drop 2)

/-- The short form for logs: the first eight digits. -/
def short (id : BlockId) : String := s!"BlockId({String.ofList (id.text.toList.take 8)})"

end BlockId

end StreamGate
