import ObjectGateway.Failure
import ObjectGateway.Text.Blank
import ObjectGateway.Text.Split
import ObjectGateway.Text.Utf8

/-!
# Uploads in forms

A form is sent as parts between delimiters.  The upload is the first part named `file`; a part
begins after a delimiter and a line break and ends before the line break of the next delimiter.
Parts are given by where they lie in the body.
-/

namespace ObjectGateway.Multipart

/-- The offset of the first occurrence of octets; no octets occur nowhere. -/
def find? (needle : Bytes) : Bytes → Option Nat
  | [] => none
  | b :: rest =>
    if needle.isEmpty then none
    else if needle.isPrefixOf (b :: rest) then some 0
    else (find? needle rest).map (· + 1)

/-- A carriage return and a line feed. -/
def lineBreak : Bytes := [13, 10]

/-- Two hyphens. -/
def hyphens : Bytes := [45, 45]

/-- A part of a body: from `start` up to `stop`. -/
structure Part where
  start : Nat
  stop : Nat
  deriving Repr, DecidableEq

/-- The octets of a part. -/
def Part.content (p : Part) (body : Bytes) : Bytes :=
  (body.take p.stop).drop p.start

/-- The octets of the line break that a text begins with. -/
def leadingBreak (bs : Bytes) : Nat := if lineBreak.isPrefixOf bs then 2 else 0

/-- The octets of the line break that a text ends with. -/
def trailingBreak (bs : Bytes) : Nat := if lineBreak.isSuffixOf bs then 2 else 0

/-- The parts that begin behind a delimiter, which ends at `offset`; `rest` is what follows it. -/
def partsFrom (delimiter : Bytes) (offset : Nat) (rest : Bytes) : List Part :=
  if hyphens.isPrefixOf rest then []
  else
    let start := offset + leadingBreak rest
    let content := rest.drop (leadingBreak rest)
    match find? delimiter content with
    | none => []
    | some n =>
      let stop := start + n - trailingBreak (content.take n)
      let later :=
        if _h : (content.drop (n + delimiter.length)).length < rest.length then
          partsFrom delimiter (start + n + delimiter.length) (content.drop (n + delimiter.length))
        else []
      if start < stop then ⟨start, stop⟩ :: later else later
termination_by rest.length
decreasing_by exact _h

/-- The parts between the delimiters of a body; empty parts are left out. -/
def parts (delimiter body : Bytes) : List Part :=
  match find? delimiter body with
  | none => []
  | some n => partsFrom delimiter (n + delimiter.length) (body.drop (n + delimiter.length))

/-- The pieces of a text between line breaks. -/
def splitLines : List Char → List (List Char)
  | [] => [[]]
  | '\r' :: '\n' :: rest => [] :: splitLines rest
  | c :: rest =>
    match splitLines rest with
    | line :: lines => (c :: line) :: lines
    | [] => [[c]]

/-- Drop the blanks at both ends. -/
def trim (cs : List Char) : List Char := Text.trimList Text.isBlank cs

/-- Whether two texts are equal up to the case of ASCII letters. -/
def sameName (cs : List Char) (name : String) : Bool :=
  Text.eqIgnoringCase (String.ofList cs) name

/-- A value without the quotes around it. -/
def unquote (cs : List Char) : List Char :=
  match cs with
  | '"' :: rest => if rest.getLast? = some '"' then rest.dropLast else cs
  | _ => cs

/-- The value of a parameter in one piece of a header line. -/
def parameterOf? (name : String) (piece : List Char) : Option String := do
  let (key, value) ← Text.splitOnce '=' piece
  if sameName (trim key) name then some (String.ofList (unquote (trim value))) else none

/-- The value of a parameter of a header line. -/
def parameter? (line : List Char) (name : String) : Option String :=
  ((Text.splitOn ';' line).drop 1).findSome? (parameterOf? name)

/-- Whether a text starts with another, up to the case of ASCII letters. -/
def startsIgnoringCase (start : String) (cs : List Char) : Bool :=
  start.toList.isPrefixOf (cs.map Char.toLower)

/-- The line that tells what a part is. -/
def disposition? (lines : List (List Char)) : Option (List Char) :=
  lines.find? (startsIgnoringCase "content-disposition:")

/-- The type that a line declares. -/
def contentTypeOf? (line : List Char) : Option String := do
  let (name, value) ← Text.splitOnce ':' line
  if sameName (trim name) "content-type" then some (String.ofList (trim value)) else none

/-- An uploaded file. -/
structure Upload where
  filename : String
  contentType : String
  data : Bytes
  deriving Repr, DecidableEq

/-- The upload that a part holds, if it is named `file`. -/
def Part.upload? (p : Part) (body : Bytes) : Option Upload := do
  let content := p.content body
  let n ← find? (lineBreak ++ lineBreak) content
  let lines := splitLines (Text.Utf8.decodeLossy (content.take n)).toList
  let line ← disposition? lines
  if parameter? line "name" = some "file" then
    some {
      filename := (parameter? line "filename").getD ""
      contentType := (lines.findSome? contentTypeOf?).getD ""
      data := content.drop (n + 4) }
  else none

/-- The delimiter of a boundary. -/
def delimiter (boundary : String) : Bytes :=
  hyphens ++ Text.Utf8.encode boundary

/-- The first upload in a body. -/
def readUpload (body : Bytes) (boundary : String) : Answer Upload :=
  match (parts (delimiter boundary) body).findSome? (·.upload? body) with
  | some u => .ok u
  | none => .error (.badRequest "missing file field in multipart form data")

/-- The boundary in one parameter of a content type. -/
def boundaryOf? (piece : List Char) : Option String :=
  (Text.stripStart? "boundary=".toList (trim piece)).map fun value =>
    String.ofList (Text.trimList (· == '"') value)

/-- The boundary that a content type declares: that of the first parameter of this name. -/
def readBoundary (contentType : String) : Answer String :=
  if !startsIgnoringCase "multipart/form-data" contentType.toList then
    .error (.badRequest
      ("PUT requires Content-Type multipart/form-data, got: " ++ contentType))
  else
    let missing : Answer String := .error (.badRequest "missing boundary in Content-Type")
    match (Text.splitOn ';' contentType.toList).findSome? boundaryOf? with
    | some b => if b.isEmpty then missing else .ok b
    | none => missing

end ObjectGateway.Multipart
