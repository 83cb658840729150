import StreamGate.Failure
import StreamGate.Http.Headers

/-!
# Refused requests

What is decided before a body is on its way, and so can still be answered with a
status.  A failure below the gateway is never shown to the client: it is an
internal error without detail.
-/

namespace StreamGate

/-- Why a request is refused. -/
inductive AccessError where
  | badRequest (text : String)
  | forbidden (text : String)
  /-- The range does not lie within a file of this size, or is no range. -/
  | rangeNotSatisfiable (size : UInt64)
  | internal (text : String)
  /-- The block is not part of the granted file. -/
  | blockUnavailable
deriving DecidableEq, Repr

namespace AccessError

def tokenNotFound : AccessError := forbidden "Access token not found"
def operationMismatch : AccessError := forbidden "Operation does not match access token."
def badRepo : AccessError := badRequest "Bad repo id"
def missingKey : AccessError := badRequest "Repo is encrypted. Please provide password to view it."
def invalidFile : AccessError := badRequest "Invalid file id"
def internalError : AccessError := internal "Internal server error"

/-- A failure below the gateway, as the client gets to know it. -/
def ofFailure (_ : Failure) : AccessError := internalError

def status : AccessError → Nat
  | badRequest _ => 400
  | forbidden _ => 403
  | rangeNotSatisfiable _ => 416
  | internal _ => 500
  | blockUnavailable => 400

def message : AccessError → String
  | badRequest text | forbidden text | internal text => text
  | rangeNotSatisfiable _ => "Requested range not satisfiable"
  | blockUnavailable => "Block not available"

/-- The headers of the answer. -/
def headers : AccessError → List Header
  | rangeNotSatisfiable size => [("content-range", ByteRange.unsatisfied size)]
  | blockUnavailable => []
  | _ => [("content-type", "text/plain; charset=utf-8")]

/-- The body of the answer. -/
def body : AccessError → String
  | rangeNotSatisfiable _ | blockUnavailable => ""
  | e => e.message ++ "\n"

end AccessError

end StreamGate
