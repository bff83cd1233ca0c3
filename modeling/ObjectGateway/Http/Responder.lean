import ObjectGateway.Http.Page
import ObjectGateway.Http.Response
import ObjectGateway.Registry

/-!
# Answering

The answers of a gateway as responses.  Pages are rendered from the template of the target, or else
the one for every target, or else the embedded one.  If that fails, the page of an internal failure
takes its place, and if that fails too, a page without a template.
-/

namespace ObjectGateway.Http

/-- What an answer is made from. -/
structure Responder where
  request : RequestInfo
  user : Option User
  /-- The target that the request was routed to, if there is one. -/
  target : Option Target
  snapshot : Snapshot
  engine : TemplateEngine
  files : LocalFiles

namespace Responder

/-- The helpers that are put before every template. -/
def helpers (r : Responder) : String :=
  match r.target with
  | some t => t.helpers
  | none => r.snapshot.globalHelpers

/-- The template of a page. -/
def template (r : Responder) (page : Page) : Flow StoreInterface (Answer String) :=
  match r.target.bind fun t => t.config.templates.pages.get page with
  | some item => readTemplate r.files item
  | none =>
    match r.snapshot.templates.pages.get page with
    | some path => .done (readLocal r.files path)
    | none => .done (.ok page.embedded)

/-- Render a page. -/
def renderPage (r : Responder) (page : Page) (values : Json) :
    Flow StoreInterface (Answer Response) := do
  match ← r.template page with
  | .error f => return .error f
  | .ok source =>
    return (r.engine.renderMarkup (r.helpers ++ "\n" ++ source) values).map
      (Response.markup page.status)

/-- The values that the page of a failure sees. -/
def failureValues (r : Responder) (message : String) : Json :=
  .obj [
    ("request", r.request.toJson),
    ("user", User.toJson? r.user),
    ("error", .str message)]

/-- The values that a listing sees. -/
def listingValues (r : Responder) (entries : List Entry) : Json :=
  .obj [
    ("request", r.request.toJson),
    ("user", User.toJson? r.user),
    ("entries", .arr (entries.map Entry.toJson)),
    ("bucketName", .str (r.target.elim "" (·.config.bucket.name))),
    ("name", .str (r.target.elim "" (·.config.name))),
    ("path", .str r.request.url)]

/-- The responses that have been made, latest first. -/
abbrev Slot := List Response

/-- A flow that makes responses. -/
abbrev Answering (I : Interface) := StateT Slot (Flow I)

/-- Make a response. -/
def put {I : Interface} (response : Response) : Answering I Unit := modify (response :: ·)

/-- Answer with the page of an internal failure. -/
def internalPage (r : Responder) (message : String) : Answering StoreInterface Unit := do
  match ← StateT.lift (r.renderPage .internalServerError (r.failureValues message)) with
  | .ok response => put response
  | .error f => put (.fallback f.message)

/-- Answer with a page, or with that of an internal failure. -/
def pageOrInternal (r : Responder) (page : Page) (values : Json) :
    Answering StoreInterface Unit := do
  match ← StateT.lift (r.renderPage page values) with
  | .ok response => put response
  | .error f => r.internalPage f.message

/-- Answer with the page of a failure. -/
def failurePage (r : Responder) (page : Page) (message : String) : Answering StoreInterface Unit :=
  r.pageOrInternal page (r.failureValues message)

/-- Answer with the response of an outcome. -/
def respond (r : Responder) : Outcome → Answering StoreInterface Unit
  | .notFound => r.failurePage .notFound "Not Found"
  | .forbidden f => r.failurePage .forbidden f.message
  | .badRequest f => r.failurePage .badRequest f.message
  | .unauthorized f => r.failurePage .unauthorized f.message
  | .internalServerError f => r.internalPage f.message
  | .notModified => put (.bare 304)
  | .preconditionFailed => put (.bare 412)
  | .redirect url => put (.redirect url)
  | .redirectWithTrailingSlash => put (.redirect (folderLocation r.request))
  | .listing entries => r.pageOrInternal .folderList (r.listingValues entries)
  | .stored echo => put (.ofJson 200 echo.toJson)
  | .removed _ => put (.bare 204)

end Responder

/-- What remains to be asked for when a gateway is answered over HTTP. -/
inductive TargetEffect
  | store (call : StoreCall)
  | dispatch (event : HookEvent)
  deriving Repr, DecidableEq

/-- What is got back. -/
def TargetEffect.Reply : TargetEffect → Type
  | store c => c.Reply
  | dispatch _ => Unit

/-- The interface of a target: its store and its hooks. -/
def TargetInterface : Interface := ⟨TargetEffect, TargetEffect.Reply⟩

/-- Calls of a store as those of a target. -/
def callStore {α : Type} (flow : Flow StoreInterface α) : Flow TargetInterface α :=
  flow.translate fun c => .call (.store c) .done

namespace Responder

/-- Reply to what a gateway asks for: answers become responses. -/
def handle (r : Responder) (e : GatewayInterface.Op) :
    Answering TargetInterface (GatewayInterface.Reply e) :=
  match e with
  | .store c => fun slot => .call (.store c) fun reply => .done (reply, slot)
  | .dispatch event => fun slot => .call (.dispatch event) fun () => .done ((), slot)
  | .sendFile f =>
    match fileResponse f with
    | .ok response => do
      put response
      return .ok ()
    | .error failure => return .error failure
  | .respond o => fun slot => callStore ((r.respond o).run slot)

/-- Run a gateway, which begins without a response. -/
def run (r : Responder) (flow : GatewayFlow Unit) : Flow TargetInterface Slot := do
  let ((), slot) ← (flow.run r.handle).run []
  return slot

/-- The last response that was made. -/
def finish (slot : Slot) : Response :=
  slot.headD (.fallback "no response rendered")

end Responder

end ObjectGateway.Http
