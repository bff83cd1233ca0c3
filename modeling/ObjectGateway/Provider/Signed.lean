import ObjectGateway.Provider.Address
import ObjectGateway.Provider.Call

/-!
# Signed addresses

An address from which anyone can read an object for some time.  Its query names the algorithm, the
key pair, the time and the headers that a reader has to send, and ends with a signature.  Who knows
the time and the secret key is asked for both.
-/

namespace ObjectGateway

/-- The key pair of a bucket, with the token of a session if there is one. -/
structure KeyPair where
  accessKey : String
  secretKey : String
  sessionToken : Option String
  deriving Repr, DecidableEq

/-- When an address was signed, and the signature. -/
structure Signature where
  day : String
  time : String
  code : String
  deriving Repr, DecidableEq

namespace Provider

/-- The longest time that a signed address is valid, in seconds: a week. -/
def longestExpiration : Nat := 604800

/-- The years of which a provider accepts dates. -/
def hasYear (t : Instant) : Bool :=
  let y := (Time.Date.ofDays t.day).year
  1 ≤ y && y ≤ 9999

/-- The headers of conditions by their names in order, if all of them can be sent. -/
def conditionHeaders? (c : GetConditions) : Option (List (String × String)) :=
  let date? (t : Instant) : Option String := if hasYear t then some t.httpDate else none
  let text? (s : String) : Option String :=
    if Http.isValue (Text.Utf8.encode s) then some s else none
  let header? (name : String) : Option (Option String) → Option (List (String × String))
    | none => some []
    | some none => none
    | some (some value) => some [(name, value)]
  (fun parts => parts.flatten) <$> [
    header? "if-match" (c.ifMatch.map text?),
    header? "if-modified-since" (c.ifModifiedSince.map date?),
    header? "if-none-match" (c.ifNoneMatch.map text?),
    header? "if-unmodified-since" (c.ifUnmodifiedSince.map date?),
    header? "range" (c.range.map text?)].mapM id

/-- An address that waits for its signature. -/
structure UnsignedAddress where
  /-- The address without a query. -/
  address : String
  /-- The headers that a reader has to send, besides the host. -/
  headers : List (String × String)
  region : String
  keys : KeyPair
  /-- How long the address is valid, in seconds. -/
  seconds : Nat
  deriving Repr, DecidableEq

namespace UnsignedAddress

/-- What a signature by a key pair is good for. -/
def credential (a : UnsignedAddress) (s : Signature) : String :=
  String.intercalate "/" [a.keys.accessKey, s.day, a.region, "s3", "aws4_request"]

/-- The names of the headers that a reader has to send. -/
def headerNames (a : UnsignedAddress) : String :=
  String.intercalate ";" ("host" :: a.headers.map (·.1))

/-- The query of a signed address. -/
def query (a : UnsignedAddress) (s : Signature) : List (String × String) :=
  [("x-id", "GetObject"),
    ("X-Amz-Algorithm", "AWS4-HMAC-SHA256"),
    ("X-Amz-Credential", a.credential s),
    ("X-Amz-Date", s.time),
    ("X-Amz-Expires", toString a.seconds),
    ("X-Amz-SignedHeaders", a.headerNames)] ++
    (match a.keys.sessionToken with
      | some token => [("X-Amz-Security-Token", token)]
      | none => []) ++
    [("X-Amz-Signature", s.code)]

/-- A signed address. -/
def signed (a : UnsignedAddress) (s : Signature) : String :=
  a.address ++ "?" ++
    String.intercalate "&" ((a.query s).map fun (name, value) =>
      name ++ "=" ++ Text.Percent.encode value)

end UnsignedAddress

end Provider

end ObjectGateway
