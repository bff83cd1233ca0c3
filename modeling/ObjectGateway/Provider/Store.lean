import ObjectGateway.Config.Secret
import ObjectGateway.Metrics
import ObjectGateway.Provider.Signed
import ObjectGateway.Store.Call

/-!
# The store behind a bucket

The calls of a store as calls of a provider.  Each list, head, get, put and delete is counted once,
whatever comes of it; a signed address is made without a call and is not counted.  Expected failures
of a read are told apart, and all others name the operation and the key.
-/

namespace ObjectGateway

/-- What a store asks for. -/
inductive ProviderEffect
  /-- Call the provider, with further headers. -/
  | call (c : ProviderCall) (headers : TextMap String)
  /-- Sign an address. -/
  | sign (a : Provider.UnsignedAddress)
  | count (c : Count)
  deriving Repr, DecidableEq

/-- What a store gets back. -/
def ProviderEffect.Reply : ProviderEffect → Type
  | call c _ => c.Reply
  | sign _ => Signature
  | count _ => Unit

/-- The interface of a provider. -/
def ProviderInterface : Interface := ⟨ProviderEffect, ProviderEffect.Reply⟩

/-- A flow that calls a provider. -/
abbrev ProviderFlow := Flow ProviderInterface

/-- The store behind the bucket of a target. -/
structure BucketStore where
  target : String
  bucket : BucketConfig
  /-- The key pair, if one is known. -/
  keys : Option KeyPair
  deriving Repr, DecidableEq

/-- A failure that only names the operation and the key. -/
def operationFailure (operation key : String) : Failure :=
  .internal (operation ++ " failed for " ++ key)

/-- The key pair that the environment holds, if it holds both keys. -/
def KeyPair.ofEnvironment? (env : Environment) : Option KeyPair :=
  match env.lookup "AWS_ACCESS_KEY_ID", env.lookup "AWS_SECRET_ACCESS_KEY" with
  | some access, some secret => some ⟨access, secret, env.lookup "AWS_SESSION_TOKEN"⟩
  | _, _ => none

namespace BucketStore

/-- The store of a target; fails if a configured key cannot be resolved. -/
def ofTarget (w : Surroundings) (t : TargetConfig) : Answer BucketStore :=
  match t.bucket.credentials with
  | none => .ok ⟨t.name, t.bucket, KeyPair.ofEnvironment? w.env⟩
  | some c => do
    let accessKey ← c.accessKey.resolve w
    let secretKey ← c.secretKey.resolve w
    return ⟨t.name, t.bucket, some ⟨accessKey, secretKey, none⟩⟩

/-- Where an operation on a key takes place. -/
def info (s : BucketStore) (key : String) : ResultInfo :=
  ⟨s.bucket.name, s.bucket.region, s.bucket.endpointText, key⟩

/-- Count an operation. -/
def count (s : BucketStore) (operation : String) : ProviderFlow Unit :=
  .ask (I := ProviderInterface) (.count (.storeCall s.target s.bucket.name operation))

/-- Call the provider. -/
def call (c : ProviderCall) (headers : TextMap String) : ProviderFlow c.Reply :=
  .ask (I := ProviderInterface) (.call c (sendableHeaders headers))

/-- Ask whether an object exists.  Only its absence is an expected failure. -/
def head (s : BucketStore) (key : String) : ProviderFlow (Answer (HeadOutput × ResultInfo)) := do
  let reply ← call (.head key) s.bucket.headers.get
  s.count "head-object"
  match reply with
  | .ok o => return .ok (⟨key, { o.metadata with contentRange := "" }⟩, s.info key)
  | .error f =>
    if f.expected? = some .notFound then return .error .notFound
    else return .error (operationFailure "head-object" key)

/-- Open an object. -/
def get (s : BucketStore) (key : String) (conditions : GetConditions) :
    ProviderFlow (Answer (GetOutput × ResultInfo)) := do
  let reply ← call (.get key conditions.wholeSeconds) s.bucket.headers.get
  s.count "get-object"
  match reply with
  | .ok (body, o) => return .ok (⟨body, o.metadata⟩, s.info key)
  | .error f => return .error (f.expected?.getD (operationFailure "get-object" key))

/-- Store an object. -/
def put (s : BucketStore) (request : PutRequest) : ProviderFlow (Answer ResultInfo) := do
  let reply ← call (.put request.wholeSeconds) s.bucket.headers.put
  s.count "put-object"
  match reply with
  | .ok () => return .ok (s.info request.key)
  | .error _ => return .error (operationFailure "put-object" request.key)

/-- Remove an object. -/
def delete (s : BucketStore) (key : String) : ProviderFlow (Answer ResultInfo) := do
  let reply ← call (.delete key) s.bucket.headers.delete
  s.count "delete-object"
  match reply with
  | .ok () => return .ok (s.info key)
  | .error _ => return .error (operationFailure "delete-object" key)

/-- What a listing gets from the provider. -/
def supply (s : BucketStore) : (e : ListingEffect) → ProviderFlow e.Reply
  | .fetch request => do
    let reply ← call (.listPage request) s.bucket.headers.list
    match reply with
    | .ok p => return .ok p.page
    | .error _ => return .error (operationFailure "list-objects" request.keyPrefix)
  | .count c => .ask (I := ProviderInterface) (.count c)

/-- List a folder by at most so many pages; none when the listing would go on after them. -/
def list (s : BucketStore) (most : Nat) (keyPrefix : String) :
    ProviderFlow (Option (Answer (List Descriptor × ResultInfo))) := do
  let listing := countedListing s.target s.bucket.name most keyPrefix s.bucket.listMaxKeys
  let result ← listing.translate s.supply
  return result.map fun r => r.map fun entries => (entries, s.info keyPrefix)

/-- An address that waits for its signature. -/
def unsigned (s : BucketStore) (key : String) (conditions : GetConditions) (seconds : Nat) :
    Option Provider.UnsignedAddress := do
  let keys ← s.keys
  let address ← Provider.objectAddress? s.bucket key
  let headers ← Provider.conditionHeaders? conditions.wholeSeconds
  return ⟨address, headers, s.bucket.region, keys, seconds⟩

/-- An address from which an object can be read for some time. -/
def signedUrl (s : BucketStore) (key : String) (conditions : GetConditions)
    (expiration : Timespan) : ProviderFlow (Answer String) := do
  if Provider.longestExpiration * Timespan.nanosPerSecond < expiration.nanos then
    return .error (.internal "invalid presign expiration")
  else
    match s.unsigned key conditions expiration.seconds with
    | none => return .error (operationFailure "presign-get-object" key)
    | some a =>
      let signature ← (.ask (I := ProviderInterface) (.sign a) : ProviderFlow Signature)
      return .ok (a.signed signature)

/-- Carry out a call of the store; none for a listing that would go on after so many pages. -/
def perform (s : BucketStore) (most : Nat) : (c : StoreCall) → ProviderFlow (Option c.Reply)
  | .list p => s.list most p
  | .head key => some <$> s.head key
  | .get key conditions => some <$> s.get key conditions
  | .put request => some <$> s.put request
  | .delete key => some <$> s.delete key
  | .signedUrl key conditions expiration => some <$> s.signedUrl key conditions expiration

end BucketStore

end ObjectGateway
