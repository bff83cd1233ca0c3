import ObjectGateway.Gateway.Basic
import ObjectGateway.Http.Input

/-!
# Writing objects

An upload is stored at the key of its folder and its name.  The metadata of the object is rendered
from templates, and unless it is allowed, no object is replaced.
-/

namespace ObjectGateway.Gateway

open GatewayFlow

/-- How objects are written. -/
def putConfig? (g : Gateway) : Option PutConfig :=
  g.target.config.actions.put.bind (·.config)

/-- The path of an upload: its folder, a slash and its name. -/
def uploadPath (input : PutInput) : String :=
  let folder := input.requestPath
  (if folder.toList.getLast? = some '/' then folder else folder ++ "/") ++ input.filename

/-- The values that templates of metadata see. -/
def putValues (ctx : RequestContext) (input : PutInput) (key : String) : Json :=
  .obj [
    ("user", User.toJson? ctx.user),
    ("input", .obj [
      ("requestPath", .str input.requestPath),
      ("filename", .str input.filename),
      ("contentType", .str input.contentType),
      ("contentSize", .int input.contentSize)]),
    ("key", .str key)]

/-- The text of a template in one line; nothing where that is empty. -/
def renderValue (g : Gateway) (values : Json) (source : String) : Answer (Option String) :=
  (g.engine.render source values).map fun s =>
    let line := Text.stripLineBreaks s
    if line.isEmpty then none else some line

/-- The text of a template that need not be there. -/
def renderOptional (g : Gateway) (values : Json) : Option String → Answer (Option String)
  | none => .ok none
  | some source => if source.isEmpty then .ok none else g.renderValue values source

/-- Read the instant after which an object is out of date. -/
def readExpires (s : String) : Answer Instant :=
  match Time.readTimestamp s with
  | .ok t => .ok t
  | .error _ => .error (.internal ("parse expires " ++ s))

/-- The instant after which an object is out of date. -/
def renderExpires (g : Gateway) (values : Json) (source : Option String) :
    Answer (Option Instant) := do
  match ← g.renderOptional values source with
  | none => return none
  | some s => (readExpires s).map some

/-- Add the headers that are kept with an object. -/
def withSystemMetadata (g : Gateway) (values : Json) (m : SystemMetadata) (r : PutRequest) :
    Answer PutRequest := do
  let cacheControl ← g.renderOptional values m.cacheControl
  let contentDisposition ← g.renderOptional values m.contentDisposition
  let contentEncoding ← g.renderOptional values m.contentEncoding
  let contentLanguage ← g.renderOptional values m.contentLanguage
  let expires ← g.renderExpires values m.expires
  return { r with
    cacheControl := cacheControl
    contentDisposition := contentDisposition
    contentEncoding := contentEncoding
    contentLanguage := contentLanguage
    expires := expires }

/-- Render the metadata of an object in order; what renders to nothing is left out. -/
def renderMetadata (g : Gateway) (values : Json) : List (String × String) →
    Answer (TextMap String)
  | [] => .ok []
  | (name, source) :: rest => do
    let value ← g.renderValue values source
    let others ← g.renderMetadata values rest
    return match value with
      | some v => (name, v) :: others
      | none => others

/-- Add the headers that are kept with an object, if the configuration has any. -/
def withConfiguredHeaders (g : Gateway) (c : PutConfig) (values : Json) (r : PutRequest) :
    Answer PutRequest :=
  match c.systemMetadata with
  | some m => g.withSystemMetadata values m r
  | none => .ok r

/-- The metadata of the user; without templates there are none. -/
def renderUserMetadata (g : Gateway) (values : Json) (sources : TextMap String) :
    Answer (Option (TextMap String)) :=
  if sources.isEmpty then .ok none else (g.renderMetadata values sources).map some

/-- Add what the configuration says about an object. -/
def withMetadata (g : Gateway) (c : PutConfig) (values : Json) (r : PutRequest) :
    Answer PutRequest := do
  let r ← g.withConfiguredHeaders c values r
  let metadata ← g.renderUserMetadata values c.metadata
  let storageClass ← g.renderOptional values c.storageClass
  return { r with
    metadata := metadata, storageClass := storageClass, cannedAcl := c.cannedAcl }

/-- The object of an upload without metadata. -/
def plainRequest (input : PutInput) (key : String) : PutRequest :=
  .plain key input.body input.contentType input.contentSize

/-- Fail unless there is no object at a key. -/
def requireAbsent (key : String) : GatewayFlow (Answer Unit) := do
  match ← head key with
  | .ok _ => return .error (.objectExists key)
  | .error .notFound => return .ok ()
  | .error f => return .error f

/-- The object that an upload is to be stored as. -/
def preparePut (g : Gateway) (ctx : RequestContext) (input : PutInput) (key : String) :
    GatewayFlow (Answer PutRequest) := do
  match g.putConfig? with
  | none => return .ok (plainRequest input key)
  | some c =>
    match g.withMetadata c (putValues ctx input key) (plainRequest input key) with
    | .error f => return .error f
    | .ok r =>
      if c.allowOverride then return .ok r
      else
        match ← requireAbsent key with
        | .error f => return .error f
        | .ok () => return .ok r

/-- What is told of a stored upload. -/
def putEcho (input : PutInput) (r : PutRequest) : PutEcho :=
  ⟨r.key, input.contentType, input.contentSize, r.metadata.getD [], r.storageClass.getD "",
    input.filename⟩

/-- The event of a write. -/
def putEvent (g : Gateway) (input : PutInput) (info : ResultInfo) : HookEvent :=
  ⟨.put, g.name, input.requestPath,
    some (.put input.filename input.contentType input.contentSize), info⟩

/-- Store the object of an upload, and answer with what was stored. -/
def storeUpload (g : Gateway) (input : PutInput) (r : PutRequest) : GatewayFlow Unit := do
  match ← put r with
  | .error f => respond (failureOutcome f)
  | .ok info =>
    dispatch (g.putEvent input info)
    respond (.stored (putEcho input r))

/-- Answer an upload. -/
def write (g : Gateway) (ctx : RequestContext) (input : PutInput) : GatewayFlow Unit := do
  match g.rewrite ctx (g.startKey (uploadPath input)) with
  | .error f => respond (failureOutcome f)
  | .ok key =>
    match ← g.preparePut ctx input key with
    | .error f => respond (failureOutcome f)
    | .ok r => g.storeUpload input r

end ObjectGateway.Gateway
