import ObjectGateway.Gateway.Effect
import ObjectGateway.Http.Body
import ObjectGateway.Http.Header
import ObjectGateway.Request
import ObjectGateway.Text.Split

/-!
# Responses

The answers that need no template: files, redirects, echoes, and the page that is left when no other
can be rendered.
-/

namespace ObjectGateway.Http

/-- An answer. -/
structure Response where
  status : Nat
  headers : Headers
  body : Body
  deriving Repr, DecidableEq

/-- A header with a text. -/
def textHeader (name value : String) : Header := ⟨name, Text.Utf8.encode value⟩

/-- A character of a text as markup. -/
def escapeMarkup (c : Char) : List Char :=
  if c = '<' then "&lt;".toList
  else if c = '>' then "&gt;".toList
  else if c = '&' then "&amp;".toList
  else if c = '"' then "&quot;".toList
  else if c.toNat = 39 then "&#x27;".toList
  else [c]

/-- The type of rendered pages. -/
def markupType : String := "text/html; charset=utf-8"

namespace Response

/-- An answer without a body. -/
def bare (status : Nat) : Response := ⟨status, [], .empty⟩

/-- An answer with a page. -/
def markup (status : Nat) (text : String) : Response :=
  ⟨status, [textHeader "content-type" markupType], .ofText text⟩

/-- The page that is left when no other can be rendered. -/
def fallback (message : String) : Response :=
  markup 500 <|
    "<!DOCTYPE html>\n<html>\n  <body>\n    <h1>Internal Server Error</h1>\n    <p>" ++
      String.ofList (message.toList.flatMap escapeMarkup) ++ "</p>\n  </body>\n</html>"

/-- An answer with JSON. -/
def ofJson (status : Nat) (j : Json) : Response :=
  ⟨status, [textHeader "content-type" "application/json"], .ofText j.compact⟩

/-- A redirect to an address, if it can stand in a header. -/
def redirect (location : String) : Response :=
  let value := Text.Utf8.encode location
  if isValue value then ⟨302, [⟨"location", value⟩], .empty⟩
  else fallback "failed to parse header value"

end Response

/-- The path of a request as a folder, with the query of the request. -/
def folderLocation (r : RequestInfo) : String :=
  let path := if r.path.toList.head? = some '/' then r.path else "/" ++ r.path
  let path := if path.toList.getLast? = some '/' then path else path ++ "/"
  match Text.splitOnce '?' r.url.toList with
  | some (_, query) => path ++ "?" ++ String.ofList query
  | none => path

/-- The greatest length that can be written. -/
def lengthBound : Int := Int.pow 2 63

/-- The length that a text denotes. -/
def readLength? (cs : List Char) : Option Int :=
  let (sign, ds) : Int × List Char := match cs with
    | '-' :: rest => (-1, rest)
    | '+' :: rest => (1, rest)
    | _ => (1, cs)
  if ds.isEmpty || !ds.all Char.isDigit then none
  else
    let n : Int := sign * ds.foldl (fun n c => n * 10 + (c.toNat - '0'.toNat : Nat)) 0
    if -lengthBound ≤ n ∧ n < lengthBound then some n else none

/-- The length of the whole object that a content range tells. -/
def rangeTotal? (range : String) : Option Int :=
  ((Text.splitOn '/' range.toList)[1]?).bind fun cs =>
    readLength? (Text.trimList Text.isBlank cs)

/-- The status of a file: partial content, unless the range is that of the whole object. -/
def fileStatus (m : ObjectMetadata) : Nat :=
  if m.contentRange.isEmpty then 200
  else if rangeTotal? m.contentRange = some m.contentLength then 200
  else 206

/-- The texts that are known about a file, with the names of their headers. -/
def fileTexts (m : ObjectMetadata) : List (String × String) :=
  [("cache-control", m.cacheControl),
    ("expires", m.expires),
    ("content-disposition", m.contentDisposition),
    ("content-encoding", m.contentEncoding),
    ("content-language", m.contentLanguage),
    ("content-range", m.contentRange),
    ("content-type", m.contentType),
    ("etag", m.etag),
    ("content-digest", m.contentDigest)]

/-- The headers of a file.  What is not known is left out. -/
def fileHeaders (m : ObjectMetadata) : Headers :=
  ((fileTexts m).filter fun p => !p.2.isEmpty).map (fun p => textHeader p.1 p.2) ++
    (if 0 < m.contentLength then [textHeader "content-length" (toString m.contentLength)] else []) ++
    (match m.lastModified with
      | some t => [textHeader "last-modified" t.httpDate]
      | none => [])

/-- An answer with a file; fails if something that is known about it cannot stand in a header. -/
def fileResponse (f : FileAnswer) : Answer Response :=
  let headers := fileHeaders f.metadata
  if headers.all (fun h => isValue h.value) then
    .ok ⟨fileStatus f.metadata, headers,
      match f.body with
      | some stream => .streaming stream
      | none => .empty⟩
  else .error (.internal "file headers")

end ObjectGateway.Http
