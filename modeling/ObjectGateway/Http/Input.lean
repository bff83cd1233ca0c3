import ObjectGateway.Http.Header
import ObjectGateway.Multipart
import ObjectGateway.Store.Object
import ObjectGateway.Text.Percent
import ObjectGateway.Text.Quoted
import ObjectGateway.Time.Read

/-!
# Inputs of requests

What a request asks of the gateway: the path below the mount without its escapes, the conditions of
a read, and the file of an upload.
-/

namespace ObjectGateway

/-- What is asked of a read. -/
structure GetInput where
  requestPath : String
  conditions : GetConditions
  deriving Repr, DecidableEq

/-- What is asked of a write. -/
structure PutInput where
  requestPath : String
  filename : String
  contentType : String
  contentSize : Int
  body : Bytes
  deriving Repr, DecidableEq

namespace Http

/-- A path without its escapes. -/
def decodePath (raw : String) : Answer String :=
  match Text.Utf8.decode (Text.Percent.decode (Text.Utf8.encode raw)) with
  | .ok s => .ok s
  | .error d => .error (.internal ("cannot unescape path " ++ raw ++ ": " ++ d.message))

/-- The text of a header that is not empty. -/
def nonemptyText? (hs : Headers) (name : String) : Option String :=
  (hs.text? name).bind fun s => if s.isEmpty then none else some s

/-- The instant of a header. -/
def readInstant? (hs : Headers) (name : String) : Answer (Option Instant) :=
  match hs.get? name with
  | none => .ok none
  | some raw =>
    match valueText? raw with
    | none => .error (.badRequest (name ++ " is not valid ASCII"))
    | some s =>
      if s.isEmpty then .ok none
      else
        match Time.readHeaderDate s with
        | .ok t => .ok (some t)
        | .error e =>
          .error (.badRequest
            ("invalid " ++ name ++ " " ++ Text.Quoted.quote s ++ ": " ++ e.message))

/-- What a request for an object asks for. -/
def readGetInput (path : String) (hs : Headers) : Answer GetInput := do
  let ifModifiedSince ← readInstant? hs "if-modified-since"
  let ifUnmodifiedSince ← readInstant? hs "if-unmodified-since"
  return ⟨path, {
    ifModifiedSince := ifModifiedSince
    ifUnmodifiedSince := ifUnmodifiedSince
    ifMatch := nonemptyText? hs "if-match"
    ifNoneMatch := nonemptyText? hs "if-none-match"
    range := nonemptyText? hs "range" }⟩

/-- What an upload asks for. -/
def readPutInput (path : String) (hs : Headers) (body : Bytes) : Answer PutInput := do
  let boundary ← Multipart.readBoundary ((hs.text? "content-type").getD "")
  let upload ← Multipart.readUpload body boundary
  return ⟨path, upload.filename, upload.contentType, upload.data.length, upload.data⟩

end Http

end ObjectGateway
