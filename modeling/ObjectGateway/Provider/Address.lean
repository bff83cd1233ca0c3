import ObjectGateway.Config.Basic
import ObjectGateway.Http.Uri
import ObjectGateway.Text.Percent

/-!
# Addresses of objects

Where a provider keeps the objects of a bucket.  A configured endpoint is used as it is, with the
bucket as a segment of the path.  Without one the bucket becomes part of the host if it can, and a
segment of the path otherwise.
-/

namespace ObjectGateway

/-- The endpoint of a bucket with a scheme; empty when none is configured. -/
def BucketConfig.endpointText (b : BucketConfig) : String :=
  match b.endpoint with
  | none => ""
  | some e =>
    if e.startsWith "http://" || e.startsWith "https://" then e
    else (if b.disableSsl then "http" else "https") ++ "://" ++ e

namespace Provider

/-- Whether a character may stand in the host or the port of an endpoint. -/
def isAuthorityChar (c : Char) : Bool :=
  c.isAlphanum || "-._~!$&'()*+,;=:@[]%".toList.contains c

/-- A path that ends in a slash. -/
def closePath (path : String) : String :=
  if path.toList.getLast? = some '/' then path else path ++ "/"

/-- An endpoint up to and with the slash before the bucket, if it is an address without a query. -/
def endpointBase? (endpoint : String) : Option String :=
  let u := Http.Uri.ofText endpoint
  if u.authority.isEmpty || !u.authority.toList.all isAuthorityChar then none
  else if (u.query?.getD "") ≠ "" then none
  else
    let scheme := String.ofList (endpoint.toList.takeWhile (· ≠ ':'))
    some (scheme ++ "://" ++ u.authority ++ closePath u.path)

/-- Whether a character may stand in a label of a host. -/
def isLabelChar (c : Char) : Bool := c.isLower || c.isDigit || c == '-'

/-- Whether a bucket can be a label of a host: 3 to 63 characters, at both ends no hyphen. -/
def isHostLabel (bucket : String) : Bool :=
  let cs := bucket.toList
  3 ≤ cs.length && cs.length ≤ 63 && cs.all isLabelChar && cs.head? ≠ some '-' &&
    cs.getLast? ≠ some '-'

/-- The host of a region. -/
def regionHost (region : String) : String := "s3." ++ region ++ ".amazonaws.com"

/-- The address that keys are put behind, if there is one. -/
def bucketBase? (b : BucketConfig) : Option String :=
  if b.endpointText.isEmpty then
    if isHostLabel b.name then some ("https://" ++ b.name ++ "." ++ regionHost b.region ++ "/")
    else
      some ("https://" ++ regionHost b.region ++ "/" ++ Text.Percent.encode b.name ++ "/")
  else (endpointBase? b.endpointText).map fun base => base ++ Text.Percent.encode b.name ++ "/"

/-- The address of an object; an empty key has none. -/
def objectAddress? (b : BucketConfig) (key : String) : Option String :=
  if key.isEmpty then none
  else (bucketBase? b).map fun base => base ++ Text.Percent.encodePath key

end Provider

end ObjectGateway
