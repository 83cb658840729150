import StreamGate.Bytes.Hex

/-!
# Failures

What can go wrong below the gateway: a block that is missing or cannot be read,
key material that does not fit, ciphertext that does not decrypt, a record that
cannot be read back, a storage area that cannot be set up.

A failure says what went wrong; `Failure.message` puts it into words.
-/

namespace StreamGate

/-- Why a block, a key or a record could not be had. -/
inductive Failure where
  /-- The store holds no such block. -/
  | blockNotFound (store block : String)
  /-- The text is no block id. -/
  | invalidBlockId (detail : String)
  /-- The block is there but reading it failed. -/
  | blockRead (block reason : String)
  | manifest (detail : String)
  | decryption (detail : String)
  | encryption (detail : String)
  /-- Key or initial vector of the wrong length, in bytes. -/
  | invalidKeyLength (expected actual : Nat)
  | storage (detail : String)
  | io (detail : String)
  | serialization (detail : String)
  | internal (detail : String)
deriving DecidableEq, Repr, Inhabited

namespace Failure

/-- The failure in words. -/
def message : Failure → String
  | blockNotFound store block => s!"Block not found: {store}:{block}"
  | invalidBlockId detail => s!"Invalid block ID: {detail}"
  | blockRead block reason => s!"Block read failed for {block}: {reason}"
  | manifest detail => s!"Manifest error: {detail}"
  | decryption detail => s!"Decryption error: {detail}"
  | encryption detail => s!"Encryption error: {detail}"
  | invalidKeyLength expected actual =>
    s!"Invalid key length: expected {expected}, got {actual}"
  | storage detail => s!"Storage error: {detail}"
  | io detail => s!"I/O error: {detail}"
  | serialization detail => s!"Serialization error: {detail}"
  | internal detail => s!"Internal error: {detail}"

/-- The one failure that means "there is no such block" rather than trouble. -/
def isNotFound : Failure → Bool
  | blockNotFound _ _ => true
  | _ => false

end Failure

end StreamGate
