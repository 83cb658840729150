import StreamGate.Clock
import StreamGate.Http.Disposition
import StreamGate.Http.MediaType
import StreamGate.Range

/-!
# Response headers

The headers of the four kinds of delivery.  A value is made of arbitrary text by
leaving out the control characters other than the tab; everything else goes out
as it is.
-/

namespace StreamGate

/-- A header field: its name in lower case and its value. -/
abbrev Header := String × String

namespace Header

/-- A character that may stand in a value. -/
def allowed (c : Char) : Bool := c = '\t' || (0x20 ≤ c.toNat && c.toNat ≠ 0x7f)

/-- A value made of any text. -/
def value (text : String) : String := String.ofList (text.toList.filter allowed)

/-- A field with such a value. -/
def ofText (name text : String) : Header := (name, value text)

/-- The first value under a name. -/
def get? (headers : List Header) (name : String) : Option String :=
  (headers.find? fun h => h.1 = name).map (·.2)

/-- A value that is visible ASCII, blanks and tabs included. -/
def visible? (text : String) : Option String :=
  if text.toList.all fun c => c = '\t' || (0x20 ≤ c.toNat && c.toNat < 0x7f) then some text else none

end Header

/-- What the headers of all deliveries depend on. -/
structure Delivery where
  contentSecurityPolicy : String
  /-- How long a client may keep a body, in seconds. -/
  maxAge : Nat

namespace Delivery

/-- The fields for caches. -/
def caching (d : Delivery) (now : Instant) : List Header :=
  [("last-modified", now.httpDate), ("cache-control", s!"max-age={d.maxAge}")]

/-- The fields about a file's content. -/
def content (d : Delivery) (name : String) : List Header :=
  [Header.ofText "content-security-policy" d.contentSecurityPolicy,
    ("x-content-type-options", "nosniff"), ("content-type", MediaType.contentType name)]

/-- For a whole file. -/
def file (d : Delivery) (now : Instant) (name : String) (op : Operation) (size : UInt64)
    (userAgent : Option String) : List Header :=
  d.caching now ++ [("access-control-allow-origin", "*")] ++ d.content name ++
    [("content-length", toString size),
      Header.ofText "content-disposition"
        (Disposition.file op name (Disposition.isFirefox userAgent))]

/-- For a range of a file. -/
def range (d : Delivery) (now : Instant) (name : String) (op : Operation) (r : ByteRange)
    (size : UInt64) (userAgent : Option String) : List Header :=
  d.caching now ++ [("accept-ranges", "bytes")] ++ d.content name ++
    [("content-length", toString r.length), ("content-range", r.contentRange size),
      Header.ofText "content-disposition"
        (Disposition.range op name (Disposition.isFirefox userAgent))]

/-- For a stored block. -/
def block (d : Delivery) (now : Instant) (id : String) (size : Nat) (userAgent : Option String) :
    List Header :=
  d.caching now ++
    [("access-control-allow-origin", "*"),
      Header.ofText "content-disposition" (Disposition.block id (Disposition.isFirefox userAgent)),
      ("content-length", toString size)]

/-- For an archive. -/
def archive (d : Delivery) (now : Instant) (name : String) (size : Nat) : List Header :=
  d.caching now ++
    [("content-type", "application/zip"), ("content-length", toString size),
      Header.ofText "content-disposition" (Disposition.archive name)]

end Delivery

/-- The request says that the client has a copy.  Any value counts. -/
def hasCachedCopy (headers : List Header) : Bool := (Header.get? headers "if-modified-since").isSome

end StreamGate
