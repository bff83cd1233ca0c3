import ObjectGateway.Gateway.Basic
import ObjectGateway.Http.Input

/-!
# Reading objects

A path that names a file is answered by the object of its key, or by a signed address of it.  A path
that names a folder is answered by its index document, if there is one, or else by its listing.  A
question about an object goes the same ways and sends no content.
-/

namespace ObjectGateway.Gateway

open GatewayFlow

/-- Whether content is asked for. -/
inductive ReadMode
  | get
  | head
  deriving Repr, DecidableEq

/-- How objects are read. -/
def getConfig (g : Gateway) : GetConfig :=
  g.target.config.actions.get.elim .standard (·.config)

/-- The event of a read.  The part of an object that is asked for does not matter to a question. -/
def readEvent (g : Gateway) (mode : ReadMode) (input : GetInput) (info : ResultInfo) : HookEvent :=
  match mode with
  | .get => ⟨.get, g.name, input.requestPath, some (.get input.conditions), info⟩
  | .head =>
    ⟨.head, g.name, input.requestPath, some (.head input.conditions.withoutRange), info⟩

/-- Answer with what is known about an object. -/
def answerHead (g : Gateway) (input : GetInput) (head : HeadOutput) (info : ResultInfo) :
    GatewayFlow (Answer Unit) := do
  dispatch (g.readEvent .head input info)
  sendFile ⟨none, head.metadata⟩

/-- Answer with a signed address of an object. -/
def redirectToSignedUrl (g : Gateway) (key : String) (input : GetInput) :
    GatewayFlow (Answer Unit) := do
  match g.getConfig.expiration with
  | .error f => return .error f
  | .ok expiration =>
    match ← signedUrl key input.conditions expiration with
    | .error f => return .error f
    | .ok url =>
      respond (.redirect url)
      return .ok ()

/-- Answer with an object. -/
def streamFile (g : Gateway) (key : String) (input : GetInput) : GatewayFlow (Answer Unit) := do
  match ← get key input.conditions with
  | .error f => return .error f
  | .ok (output, info) =>
    match ← sendFile ⟨some output.body, output.metadata⟩ with
    | .error f => return .error f
    | .ok () =>
      dispatch (g.readEvent .get input info)
      return .ok ()

/-- Answer with an object that was found, whose content is at `contentKey`. -/
def answerFound (g : Gateway) (mode : ReadMode) (key contentKey : String) (input : GetInput)
    (head : HeadOutput) (info : ResultInfo) : GatewayFlow (Answer Unit) :=
  match mode with
  | .head => g.answerHead input head info
  | .get =>
    if g.getConfig.redirectToSignedUrl then g.redirectToSignedUrl key input
    else g.streamFile contentKey input

/-- Answer with the object of a key. -/
def readFile (g : Gateway) (mode : ReadMode) (key : String) (input : GetInput) :
    GatewayFlow (Answer Unit) := do
  if mode = .head ∨ g.getConfig.redirectToSignedUrl then
    match ← head key with
    | .error f => return .error f
    | .ok (found, info) => g.answerFound mode key key input found info
  else g.streamFile key input

/-- Answer with the listing of a folder. -/
def listFolder (g : Gateway) (ctx : RequestContext) (mode : ReadMode) (key : String)
    (input : GetInput) : GatewayFlow Unit := do
  if g.getConfig.disableListing then respond (.listing [])
  else
    match ← list key with
    | .error f => respond (.internalServerError f)
    | .ok (descriptors, info) =>
      dispatch (g.readEvent mode input info)
      respond (.listing (g.entries ctx.mountPath descriptors))

/-- The index document of folders. -/
def indexDocument? (g : Gateway) : Option String :=
  g.getConfig.indexDocument.bind fun d => if d.isEmpty then none else some d

/-- Answer a request for a folder. -/
def readFolder (g : Gateway) (ctx : RequestContext) (mode : ReadMode) (key : String)
    (input : GetInput) : GatewayFlow Unit := do
  match g.indexDocument? with
  | none => g.listFolder ctx mode key input
  | some index =>
    let indexKey := joinKey key index
    match ← head indexKey with
    | .ok (found, info) =>
      match ← g.answerFound mode indexKey found.key input found info with
      | .ok () => return
      | .error f => respond (readOutcome f)
    | .error .notFound => g.listFolder ctx mode key input
    | .error f => respond (.internalServerError f)

/-- The answer to a failure to read the object of a path. -/
def fileFailure (g : Gateway) (path : String) (f : Failure) : Outcome :=
  if f = .notFound ∧ g.getConfig.redirectWithTrailingSlash ∧ path.toList.getLast? ≠ some '/' then
    .redirectWithTrailingSlash
  else readOutcome f

/-- Answer a request for a path. -/
def read (g : Gateway) (ctx : RequestContext) (mode : ReadMode) (input : GetInput) :
    GatewayFlow Unit := do
  match g.rewrite ctx (g.startKey input.requestPath) with
  | .error f => respond (failureOutcome f)
  | .ok key =>
    if isFolderPath input.requestPath then g.readFolder ctx mode key input
    else
      match ← g.readFile mode key input with
      | .ok () => return
      | .error f => respond (g.fileFailure input.requestPath f)

end ObjectGateway.Gateway
