import ObjectGateway.Json
import ObjectGateway.TextMap
import ObjectGateway.Text.Utf8
import ObjectGateway.Time.Instant

/-!
# Objects

What a store knows about objects: the entries of a listing, the metadata of an object, its content
as a stream of chunks, and the parameters of reads and writes.
-/

namespace ObjectGateway

/-- The kinds of entries of a listing. -/
inductive ObjectKind
  | file
  | folder
  deriving Repr, DecidableEq

/-- The name of a kind. -/
def ObjectKind.name : ObjectKind → String
  | file => "FILE"
  | folder => "FOLDER"

/-- An instant as JSON; null when it is not known. -/
def Json.ofInstant? : Option Instant → Json
  | some t => .str t.timestamp
  | none => .null

/-- An entry of a listing. -/
structure Descriptor where
  kind : ObjectKind
  key : String
  /-- The key without the listed start. -/
  name : String
  etag : String
  size : Int
  lastModified : Option Instant
  deriving Repr, DecidableEq

/-- An entry as JSON. -/
def Descriptor.toJson (d : Descriptor) : Json :=
  .obj [
    ("kind", .str d.kind.name),
    ("key", .str d.key),
    ("name", .str d.name),
    ("etag", .str d.etag),
    ("size", .int d.size),
    ("lastModified", Json.ofInstant? d.lastModified)]

/-- Where an operation took place. -/
structure ResultInfo where
  bucket : String
  region : String
  /-- The address of the store; empty where it is the usual one. -/
  endpoint : String
  key : String
  deriving Repr, DecidableEq, Inhabited

/-- Where an operation took place, as JSON; the usual address is left out. -/
def ResultInfo.toJson (i : ResultInfo) : Json :=
  .obj ([("bucket", .str i.bucket), ("region", .str i.region)] ++
    (if i.endpoint.isEmpty then [] else [("s3Endpoint", .str i.endpoint)]) ++
    [("key", .str i.key)])

/-- What is known about the content of an object; an unknown text is empty. -/
structure ObjectMetadata where
  cacheControl : String
  expires : String
  contentDisposition : String
  contentEncoding : String
  contentLanguage : String
  contentLength : Int
  contentRange : String
  contentType : String
  etag : String
  lastModified : Option Instant
  contentDigest : String
  /-- Metadata of the user. -/
  user : TextMap String
  deriving Repr, DecidableEq

/-- Nothing is known. -/
def ObjectMetadata.empty : ObjectMetadata :=
  ⟨"", "", "", "", "", 0, "", "", "", none, "", []⟩

/-- A piece of a stream: octets, or the reason why it broke off. -/
inductive Chunk
  | data (bytes : Bytes)
  | broken (reason : String)
  deriving Repr, DecidableEq

/-- The content of an object, piece by piece. -/
abbrev ObjectStream := List Chunk

/-- The octets of a stream, or the reason why it broke off. -/
def ObjectStream.collect : ObjectStream → Except String Bytes
  | [] => .ok []
  | .data bs :: rest => (collect rest).map (bs ++ ·)
  | .broken reason :: _ => .error reason

/-- The answer to a question about an object. -/
structure HeadOutput where
  key : String
  metadata : ObjectMetadata
  deriving Repr, DecidableEq

/-- An object that was opened. -/
structure GetOutput where
  body : ObjectStream
  metadata : ObjectMetadata
  deriving Repr, DecidableEq

/-- The conditions of a read, and the part that is asked for. -/
structure GetConditions where
  ifModifiedSince : Option Instant
  ifUnmodifiedSince : Option Instant
  ifMatch : Option String
  ifNoneMatch : Option String
  range : Option String
  deriving Repr, DecidableEq

/-- No conditions. -/
def GetConditions.none : GetConditions := ⟨.none, .none, .none, .none, .none⟩

/-- The conditions for the whole of an object. -/
def GetConditions.withoutRange (c : GetConditions) : GetConditions := { c with range := .none }

/-- An object to be stored. -/
structure PutRequest where
  key : String
  body : Bytes
  contentType : String
  contentSize : Int
  cacheControl : Option String
  contentDisposition : Option String
  contentEncoding : Option String
  contentLanguage : Option String
  expires : Option Instant
  metadata : Option (TextMap String)
  storageClass : Option String
  cannedAcl : Option String
  deriving Repr, DecidableEq

/-- An object without metadata. -/
def PutRequest.plain (key : String) (body : Bytes) (contentType : String) (contentSize : Int) :
    PutRequest :=
  ⟨key, body, contentType, contentSize, none, none, none, none, none, none, none, none⟩

end ObjectGateway
