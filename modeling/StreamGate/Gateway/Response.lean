import StreamGate.Gateway.State
import StreamGate.Http.AccessError

/-!
# Requests and responses

A response has a status, headers and a body, which is either known or still to
be streamed by a session.  A streamed body is read frame by frame.
-/

namespace StreamGate

/-- What a request wants done. -/
inductive Method where
  | get
  | head
  | options
  | other (name : String)
deriving DecidableEq, Repr

def Method.ofName (name : String) : Method :=
  match name with
  | "GET" => get
  | "HEAD" => head
  | "OPTIONS" => options
  | name => other name

/-- A request. -/
structure Request where
  method : Method
  /-- The path with its query. -/
  target : String
  headers : List Header
  /-- The connection it came on, if that is known. -/
  connection : Option ConnectionId
deriving DecidableEq, Repr

namespace Request

/-- The client's description of itself, if it can be shown. -/
def userAgent (r : Request) : Option String :=
  (Header.get? r.headers "user-agent").bind Header.visible?

/-- The range header.  One that cannot be shown is as good as an empty one. -/
def range (r : Request) : Option String :=
  (Header.get? r.headers "range").map fun v => (Header.visible? v).getD ""

end Request

/-- What follows the headers of a response. -/
inductive Body (State : Type) where
  | known (bytes : Bytes)
  /-- A session on a connection. -/
  | streamed (conn : Option ConnectionId) (session : Session State)

/-- A response. -/
structure Response (State : Type) where
  status : Nat
  headers : List Header
  body : Body State

namespace Response

variable {State : Type}

/-- A response without a body. -/
def bare (status : Nat) (headers : List Header) : Response State := ⟨status, headers, .known []⟩

/-- A response with a text. -/
def text (status : Nat) (t : String) : Response State :=
  ⟨status, [("content-type", "text/plain; charset=utf-8")], .known (Bytes.ofText t)⟩

/-- The answer to a refused request. -/
def ofError (e : AccessError) : Response State :=
  ⟨e.status, e.headers, .known (Bytes.ofText e.body)⟩

/-- Announces the length of a known body, unless a length is announced. -/
def withLength (r : Response State) : Response State :=
  match r.body with
  | .known bytes =>
    if (Header.get? r.headers "content-length").isSome then r
    else { r with headers := r.headers ++ [("content-length", toString bytes.length)] }
  | .streamed .. => r

end Response

/-- A piece of a body as it goes out. -/
inductive Frame where
  | data (bytes : Bytes)
  | failed (error : TransferError)
  | done

/-- What a step of a session puts into the body. -/
def Frame.ofStep : Option (Except TransferError Bytes) → Frame
  | none => done
  | some (.ok bytes) => data bytes
  | some (.error e) => failed e

namespace Body

variable {World Handle File : Type}

/-- The next frame of a body. -/
def next (svc : Services World Handle File) (b : Body (Delivering Handle File))
    (g : Gateway World) : Frame × Body (Delivering Handle File) × Gateway World :=
  match b with
  | .known [] => (.done, b, g)
  | .known bytes => (.data bytes, .known [], g)
  | .streamed conn s =>
    let (r, s, g) := s.step svc.source (Gateway.host svc.countsUsage conn) g
    (.ofStep r, .streamed conn s, g)

/-- The rest of a body. -/
structure Rest where
  frames : List Bytes
  /-- The error it ended with. -/
  error : Option TransferError

/-- Reads at most `limit` frames, its end included. -/
def readUpTo (svc : Services World Handle File) : (limit : Nat) → Body (Delivering Handle File) →
    Gateway World → Rest × Body (Delivering Handle File) × Gateway World
  | 0, b, g => (⟨[], none⟩, b, g)
  | limit + 1, b, g =>
    match b.next svc g with
    | (.done, b, g) => (⟨[], none⟩, b, g)
    | (.failed e, b, g) => (⟨[], some e⟩, b, g)
    | (.data bytes, b, g) =>
      let (rest, b, g) := readUpTo svc limit b g
      ({ rest with frames := bytes :: rest.frames }, b, g)

/-- How many bytes can still come, going by what was announced. -/
def left {State : Type} : Body State → Nat
  | .known bytes => bytes.length
  | .streamed _ s => s.contentLength - s.sent

/-- Reads a body to its end.  No frame is empty, so there are at most as many as
bytes, and the end. -/
def readAll (svc : Services World Handle File) (b : Body (Delivering Handle File))
    (g : Gateway World) : Rest × Body (Delivering Handle File) × Gateway World :=
  b.readUpTo svc (b.left + 1) g

/-- Drops a body; a session that is not over is aborted. -/
def drop (svc : Services World Handle File) (b : Body (Delivering Handle File))
    (g : Gateway World) : Gateway World :=
  match b with
  | .known _ => g
  | .streamed conn s => s.drop svc.source (Gateway.host svc.countsUsage conn) g

end Body

end StreamGate
