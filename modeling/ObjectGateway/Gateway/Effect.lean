import ObjectGateway.Hook.Event
import ObjectGateway.Store.Call

/-!
# What a gateway does

While it answers a request, a gateway calls the store of its target, tells hooks what was done, and
answers.  Sending a file can fail, and the gateway then goes on to answer otherwise.
-/

namespace ObjectGateway

/-- An entry of a listing, with the path that leads to it. -/
structure Entry where
  kind : ObjectKind
  etag : String
  name : String
  key : String
  path : String
  size : Int
  lastModified : Option Instant
  deriving Repr, DecidableEq

/-- An entry as JSON. -/
def Entry.toJson (e : Entry) : Json :=
  .obj [
    ("type", .str e.kind.name),
    ("etag", .str e.etag),
    ("name", .str e.name),
    ("key", .str e.key),
    ("path", .str e.path),
    ("size", .int e.size),
    ("lastModified", Json.ofInstant? e.lastModified)]

/-- A file to be sent; without a body only what is known about it is sent. -/
structure FileAnswer where
  body : Option ObjectStream
  metadata : ObjectMetadata
  deriving Repr, DecidableEq

/-- What is told of a file that was stored. -/
structure PutEcho where
  key : String
  contentType : String
  contentSize : Int
  metadata : TextMap String
  storageClass : String
  filename : String
  deriving Repr, DecidableEq

/-- What is told of a stored file, as JSON. -/
def PutEcho.toJson (e : PutEcho) : Json :=
  .obj [
    ("key", .str e.key),
    ("contentType", .str e.contentType),
    ("contentSize", .int e.contentSize),
    ("metadata", Json.ofTextMap e.metadata),
    ("storageClass", .str e.storageClass),
    ("filename", .str e.filename)]

/-- An answer that cannot fail. -/
inductive Outcome
  | notFound
  | forbidden (f : Failure)
  | badRequest (f : Failure)
  | unauthorized (f : Failure)
  | internalServerError (f : Failure)
  | notModified
  | preconditionFailed
  | redirect (url : String)
  /-- A redirect to the path of the request as a folder. -/
  | redirectWithTrailingSlash
  | listing (entries : List Entry)
  | stored (echo : PutEcho)
  | removed (key : String)
  deriving Repr, DecidableEq

/-- What a gateway asks for. -/
inductive Effect
  | store (call : StoreCall)
  | dispatch (event : HookEvent)
  | sendFile (file : FileAnswer)
  | respond (outcome : Outcome)
  deriving Repr, DecidableEq

/-- What a gateway gets back. -/
abbrev Effect.Reply : Effect → Type
  | store c => c.Reply
  | dispatch _ => Unit
  | sendFile _ => Answer Unit
  | respond _ => Unit

/-- The interface of a gateway. -/
abbrev GatewayInterface : Interface := ⟨Effect, Effect.Reply⟩

/-- A flow of a gateway. -/
abbrev GatewayFlow := Flow GatewayInterface

namespace GatewayFlow

/-- Call the store. -/
def store (c : StoreCall) : GatewayFlow c.Reply := .call (.store c) .done

/-- Tell hooks of an event. -/
def dispatch (e : HookEvent) : GatewayFlow Unit := .call (.dispatch e) .done

/-- Send a file. -/
def sendFile (f : FileAnswer) : GatewayFlow (Answer Unit) := .call (.sendFile f) .done

/-- Answer. -/
def respond (o : Outcome) : GatewayFlow Unit := .call (.respond o) .done

/-- Ask whether an object exists. -/
def head (key : String) : GatewayFlow (Answer (HeadOutput × ResultInfo)) := store (.head key)

/-- Open an object. -/
def get (key : String) (c : GetConditions) : GatewayFlow (Answer (GetOutput × ResultInfo)) :=
  store (.get key c)

/-- List a folder. -/
def list (key : String) : GatewayFlow (Answer (List Descriptor × ResultInfo)) := store (.list key)

/-- Store an object. -/
def put (r : PutRequest) : GatewayFlow (Answer ResultInfo) := store (.put r)

/-- Remove an object. -/
def delete (key : String) : GatewayFlow (Answer ResultInfo) := store (.delete key)

/-- Sign an address. -/
def signedUrl (key : String) (c : GetConditions) (t : Timespan) : GatewayFlow (Answer String) :=
  store (.signedUrl key c t)

end GatewayFlow

end ObjectGateway
