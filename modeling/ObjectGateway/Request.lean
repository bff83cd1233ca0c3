import ObjectGateway.Json
import ObjectGateway.TextMap

/-!
# Requests as templates see them

What is known about a request and about who makes it, and its form as JSON.
-/

namespace ObjectGateway

/-- A request, as it was received. -/
structure RequestInfo where
  method : String
  /-- The path and the query. -/
  url : String
  /-- The path, with its escapes. -/
  path : String
  host : String
  /-- The headers; the values of a repeated header are joined. -/
  headers : TextMap String
  deriving Repr, DecidableEq, Inhabited

/-- A request as JSON. -/
def RequestInfo.toJson (r : RequestInfo) : Json :=
  .obj [
    ("method", .str r.method),
    ("url", .str r.url),
    ("path", .str r.path),
    ("host", .str r.host),
    ("headers", Json.ofTextMap r.headers)]

/-- Who makes a request. -/
structure User where
  username : String
  email : Option String
  groups : List String
  deriving Repr, DecidableEq, Inhabited

/-- A user as JSON. -/
def User.toJson (u : User) : Json :=
  .obj [
    ("username", .str u.username),
    ("email", Json.ofText? u.email),
    ("groups", Json.ofTexts u.groups)]

/-- The user of a request as JSON; null when nobody is known. -/
def User.toJson? : Option User → Json
  | some u => u.toJson
  | none => .null

/-- What is known about a request while it is answered. -/
structure RequestContext where
  request : RequestInfo
  user : Option User
  /-- The mount path below which the request arrived. -/
  mountPath : String
  deriving Repr, DecidableEq, Inhabited

end ObjectGateway
