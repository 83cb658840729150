import StreamGate.Bytes

/-!
# Media types

The media type of a file, from what follows the last dot of its name.
-/

namespace StreamGate.MediaType

/-- The known endings; case counts. -/
def known : List (String × String) :=
  [("txt", "text/plain"),
    ("doc", "application/vnd.ms-word"),
    ("docx", "application/vnd.openxmlformats-officedocument.wordprocessingml.document"),
    ("ppt", "application/vnd.ms-powerpoint"),
    ("pptx", "application/vnd.openxmlformats-officedocument.presentationml.presentation"),
    ("xls", "application/vnd.ms-excel"),
    ("xlsx", "application/vnd.openxmlformats-officedocument.spreadsheetml.sheet"),
    ("pdf", "application/pdf"),
    ("zip", "application/zip"),
    ("mp3", "audio/mp3"),
    ("mpeg", "video/mpeg"),
    ("mp4", "video/mp4"),
    ("jpg", "image/jpeg"),
    ("JPG", "image/jpeg"),
    ("jpeg", "image/jpeg"),
    ("JPEG", "image/jpeg"),
    ("png", "image/png"),
    ("PNG", "image/png"),
    ("gif", "image/gif"),
    ("GIF", "image/gif"),
    ("svg", "image/svg+xml"),
    ("SVG", "image/svg+xml")]

/-- What follows the last dot. -/
def ending? (name : List Char) : Option (List Char) :=
  if name.contains '.' then some (name.reverse.takeWhile (· ≠ '.')).reverse else none

/-- The media type of a file name, if its ending is known. -/
def ofName? (name : String) : Option String := do
  let ending ← ending? name.toList
  (known.find? fun e => e.1.toList = ending).map (·.2)

/-- The content type a file is sent with. -/
def contentType (name : String) : String :=
  match ofName? name with
  | some media => if "text/".toList.isPrefixOf media.toList then media ++ "; charset=gbk" else media
  | none => "application/octet-stream"

end StreamGate.MediaType
