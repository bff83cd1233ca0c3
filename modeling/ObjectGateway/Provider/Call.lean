import ObjectGateway.Checksum
import ObjectGateway.Failure
import ObjectGateway.Http.Header
import ObjectGateway.Store.Listing

/-!
# Calls of a provider

What a bucket asks of its provider, what the provider replies, and what its failures mean.  A
failure has the code that the provider gave and the status of the reply, or neither where no reply
came.  Three failures are expected ones; a code always outweighs the status.
-/

namespace ObjectGateway

/-- Why a provider refused a call: its code and the status of its reply. -/
structure ProviderFailure where
  code : Option String
  status : Option Nat
  deriving Repr, DecidableEq

namespace ProviderFailure

/-- No reply came. -/
def unanswered : ProviderFailure := ⟨none, none⟩

/-- Whether a failure has one of some codes, or no code and a status. -/
def tells (f : ProviderFailure) (codes : List String) (status : Nat) : Bool :=
  match f.code with
  | some code => codes.contains code
  | none => f.status == some status

/-- The expected failure that a failure stands for, if it does. -/
def expected? (f : ProviderFailure) : Option Failure :=
  if f.tells ["NoSuchKey", "NotFound"] 404 then some .notFound
  else if f.tells ["NotModified"] 304 then some .notModified
  else if f.tells ["PreconditionFailed"] 412 then some .preconditionFailed
  else none

end ProviderFailure

/-- What a provider tells about an object. -/
structure ProviderObject where
  cacheControl : Option String
  expires : Option String
  contentDisposition : Option String
  contentEncoding : Option String
  contentLanguage : Option String
  contentLength : Option Int
  contentRange : Option String
  contentType : Option String
  etag : Option String
  lastModified : Option Instant
  checksums : Checksums
  user : Option (TextMap String)
  deriving Repr, DecidableEq

/-- What is known about an object; what the provider does not tell is empty. -/
def ProviderObject.metadata (o : ProviderObject) : ObjectMetadata :=
  { cacheControl := o.cacheControl.getD ""
    expires := o.expires.getD ""
    contentDisposition := o.contentDisposition.getD ""
    contentEncoding := o.contentEncoding.getD ""
    contentLanguage := o.contentLanguage.getD ""
    contentLength := o.contentLength.getD 0
    contentRange := o.contentRange.getD ""
    contentType := o.contentType.getD ""
    etag := o.etag.getD ""
    lastModified := o.lastModified
    contentDigest := o.checksums.digest
    user := o.user.getD [] }

/-- What a provider lists of an object. -/
structure ProviderEntry where
  key : Option String
  etag : Option String
  size : Option Int
  lastModified : Option Instant
  deriving Repr, DecidableEq

/-- A page of a listing, as the provider tells it. -/
structure ProviderPage where
  folders : List (Option String)
  objects : List ProviderEntry
  keyCount : Option Int
  next : Option String
  deriving Repr, DecidableEq

/-- The page of a listing.  Common starts without a text are left out, and an empty token is
none. -/
def ProviderPage.page (p : ProviderPage) : ListPage :=
  { folders := p.folders.filterMap id
    objects := p.objects.map fun o =>
      ⟨o.key.getD "", o.etag.getD "", o.size.getD 0, o.lastModified⟩
    keyCount := p.keyCount.getD 0
    next := p.next.filter (!·.isEmpty) }

/-- A call of a provider. -/
inductive ProviderCall
  | listPage (request : PageRequest)
  | head (key : String)
  | get (key : String) (conditions : GetConditions)
  | put (request : PutRequest)
  | delete (key : String)
  deriving Repr, DecidableEq

/-- The reply to a call. -/
def ProviderCall.Reply : ProviderCall → Type
  | listPage _ => Except ProviderFailure ProviderPage
  | head _ => Except ProviderFailure ProviderObject
  | get _ _ => Except ProviderFailure (ObjectStream × ProviderObject)
  | put _ => Except ProviderFailure Unit
  | delete _ => Except ProviderFailure Unit

/-- A reply that is a failure. -/
def ProviderCall.fail (c : ProviderCall) (f : ProviderFailure) : c.Reply :=
  match c with
  | listPage _ => .error f
  | head _ => .error f
  | get _ _ => .error f
  | put _ => .error f
  | delete _ => .error f

/-- Providers know instants to the second. -/
def Instant.wholeSecond (t : Instant) : Instant := ⟨t.seconds, 0⟩

/-- Conditions as a provider is told them. -/
def GetConditions.wholeSeconds (c : GetConditions) : GetConditions :=
  { c with
    ifModifiedSince := c.ifModifiedSince.map Instant.wholeSecond
    ifUnmodifiedSince := c.ifUnmodifiedSince.map Instant.wholeSecond }

/-- An object to be stored, as a provider is told of it. -/
def PutRequest.wholeSeconds (r : PutRequest) : PutRequest :=
  { r with expires := r.expires.map Instant.wholeSecond }

/-- The configured headers that can be sent; a later spelling of a name replaces an earlier one. -/
def sendableHeaders (configured : TextMap String) : TextMap String :=
  TextMap.ofList <| configured.filterMap fun (name, value) =>
    if Http.isName name && Http.isValue (Text.Utf8.encode value) then
      some (Text.asciiLower name, value)
    else none

end ObjectGateway
