import ObjectGateway.Store.Call
import ObjectGateway.Store.Listing

/-!
# A store in memory

A bucket that holds its objects in a map and records every call.  Calls can be made to fail: for a
key, before anything is done, or for one operation on a key, after it has been done.  What is known
about an object can be replaced as well.
-/

namespace ObjectGateway

/-- What replaces the metadata and the content of an object in the replies of a store. -/
structure MetadataOverride where
  cacheControl : Option String
  expires : Option String
  contentDisposition : Option String
  contentEncoding : Option String
  contentLanguage : Option String
  contentLength : Option Int
  contentRange : Option String
  contentType : Option String
  etag : Option String
  lastModified : Option Instant
  contentDigest : Option String
  chunks : Option ObjectStream
  deriving Repr, DecidableEq

/-- Replace metadata. -/
def MetadataOverride.apply (o : MetadataOverride) (m : ObjectMetadata) : ObjectMetadata :=
  { m with
    cacheControl := o.cacheControl.getD m.cacheControl
    expires := o.expires.getD m.expires
    contentDisposition := o.contentDisposition.getD m.contentDisposition
    contentEncoding := o.contentEncoding.getD m.contentEncoding
    contentLanguage := o.contentLanguage.getD m.contentLanguage
    contentLength := o.contentLength.getD m.contentLength
    contentRange := o.contentRange.getD m.contentRange
    contentType := o.contentType.getD m.contentType
    etag := o.etag.getD m.etag
    lastModified := o.lastModified <|> m.lastModified
    contentDigest := o.contentDigest.getD m.contentDigest }

/-- A bucket in memory. -/
structure MemoryStore where
  objects : TextMap Bytes
  /-- Keys whose calls fail. -/
  failures : TextMap Failure
  /-- Calls that fail after they have been done. -/
  lateFailures : TextMap Failure
  overrides : TextMap MetadataOverride
  /-- The calls so far. -/
  calls : List String
  lastPut : Option PutRequest
  /-- The conditions of the last signed address. -/
  lastSigned : Option GetConditions
  deriving Repr, DecidableEq

namespace MemoryStore

/-- A bucket that holds some objects. -/
def ofObjects (objects : TextMap Bytes) : MemoryStore :=
  ⟨objects, [], [], [], [], none, none⟩

/-- Where an operation on a key takes place. -/
def info (key : String) : ResultInfo := ⟨"fake-bucket", "us-east-1", "", key⟩

/-- The entity tag of every object. -/
def etag : String := "\"fake\""

/-- What is known about an object with a content. -/
def metadata (content : Bytes) : ObjectMetadata :=
  { ObjectMetadata.empty with
    contentLength := content.length, contentType := "text/plain", etag := etag }

/-- The objects below a start of keys, by what follows it. -/
def below (s : MemoryStore) (keyPrefix : String) : List (List Char × Bytes) :=
  s.objects.filterMap fun (key, content) =>
    (Text.stripStart? keyPrefix.toList key.toList).map (·, content)

/-- The folders below a start of keys. -/
def folders (s : MemoryStore) (keyPrefix : String) : List Descriptor :=
  let names := (s.below keyPrefix).filterMap fun (rest, _) =>
    (Text.splitOnce '/' rest).map fun (name, _) => String.ofList (name ++ ['/'])
  (TextMap.ofList (names.map (·, ()))).keys.map fun name =>
    ⟨.folder, keyPrefix ++ name, name, "", 0, none⟩

/-- The files directly below a start of keys. -/
def files (s : MemoryStore) (keyPrefix : String) : List Descriptor :=
  (s.below keyPrefix).filterMap fun (rest, content) =>
    if rest.isEmpty || rest.contains '/' then none
    else
      let name := String.ofList rest
      let key := keyPrefix ++ name
      let d : Descriptor := ⟨.file, key, name, etag, content.length, none⟩
      match s.overrides.get? key with
      | some o => some { d with
          etag := o.etag.getD d.etag, size := o.contentLength.getD d.size,
          lastModified := o.lastModified }
      | none => some d

/-- The metadata of an object, as it is replied. -/
def shownMetadata (s : MemoryStore) (key : String) (content : Bytes) : ObjectMetadata :=
  (s.overrides.get? key).elim (metadata content) (·.apply (metadata content))

/-- The content of an object, as it is replied. -/
def shownBody (s : MemoryStore) (key : String) (content : Bytes) : ObjectStream :=
  ((s.overrides.get? key).bind (·.chunks)).getD [.data content]

/-- Carry out a call. -/
def perform (s : MemoryStore) : (c : StoreCall) → c.Reply × MemoryStore
  | .list p => (.ok (s.folders p ++ s.files p, info p), s)
  | .head key =>
    match s.objects.get? key with
    | some content => (.ok (⟨key, s.shownMetadata key content⟩, info key), s)
    | none => (.error .notFound, s)
  | .get key _ =>
    match s.objects.get? key with
    | some content =>
      (.ok (⟨s.shownBody key content, s.shownMetadata key content⟩, info key), s)
    | none => (.error .notFound, s)
  | .put r =>
    (.ok (info r.key), { s with objects := s.objects.insert r.key r.body, lastPut := some r })
  | .delete key => (.ok (info key), { s with objects := s.objects.erase key })
  | .signedUrl key conditions expiration =>
    (.ok ("https://signed.example/" ++ key ++ "?expires=" ++ toString expiration.seconds),
      { s with lastSigned := some conditions })

/-- Reply to a call: record it, and carry it out unless the key fails. -/
def reply (c : StoreCall) (s : MemoryStore) : c.Reply × MemoryStore :=
  let s := { s with calls := s.calls ++ [c.label] }
  match s.failures.get? c.key with
  | some f => (c.fail f, s)
  | none =>
    let (r, s) := s.perform c
    match s.lateFailures.get? c.label with
    | some f => (if c.succeeded r then c.fail f else r, s)
    | none => (r, s)

/-- The text of an object; what is no text in it is replaced. -/
def content? (s : MemoryStore) (key : String) : Option String :=
  (s.objects.get? key).map Text.Utf8.decodeLossy

end MemoryStore

end ObjectGateway
