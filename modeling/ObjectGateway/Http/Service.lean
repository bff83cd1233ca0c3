import ObjectGateway.Gateway.Delete
import ObjectGateway.Gateway.Get
import ObjectGateway.Gateway.Put
import ObjectGateway.Http.Responder
import ObjectGateway.Http.Uri
import ObjectGateway.Metrics
import ObjectGateway.Router

/-!
# The service

A request is answered by the first of these that applies: the health check, the counters, the page
of a path that no target is mounted at, the refusal of a method that the target does not serve, and
the gateway of the target.  Every answer is counted.
-/

namespace ObjectGateway.Http

/-- A request. -/
structure Request where
  method : String
  uri : Uri
  headers : Headers
  body : ObjectStream
  deriving Repr, DecidableEq

/-- What a service asks for. -/
inductive ServiceEffect
  /-- Call the store of a target. -/
  | store (target : TargetConfig) (call : StoreCall)
  | dispatch (event : HookEvent)
  /-- The text of all counters. -/
  | counters
  /-- Count something. -/
  | count (c : Count)

/-- What a service gets back. -/
def ServiceEffect.Reply : ServiceEffect → Type
  | store _ c => c.Reply
  | dispatch _ => Unit
  | counters => String
  | count _ => Unit

/-- The interface of a service. -/
def ServiceInterface : Interface := ⟨ServiceEffect, ServiceEffect.Reply⟩

/-- What a target asks for, as asked by the service. -/
def askFor (t : TargetConfig) : (e : TargetEffect) → Flow ServiceInterface e.Reply
  | .store c => Flow.ask (I := ServiceInterface) (.store t c)
  | .dispatch event => Flow.ask (I := ServiceInterface) (.dispatch event)

/-- A flow of a target as one of the service. -/
def forTarget {α : Type} (t : TargetConfig) (flow : Flow TargetInterface α) :
    Flow ServiceInterface α :=
  flow.translate (askFor t)

/-- Calls of a store where there is none: each of them fails. -/
def withoutStore {α : Type} (flow : Flow StoreInterface α) : Flow ServiceInterface α :=
  flow.translate fun c => .done (StoreCall.fail c .notFound)

namespace Service

/-- What a service is made from. -/
structure Setup where
  engine : TemplateEngine
  files : LocalFiles

/-- Whether a target serves a method. -/
def methodEnabled (a : Actions) (method : String) : Bool :=
  if method == "GET" || method == "HEAD" then a.getEnabled
  else if method == "PUT" then a.putEnabled
  else if method == "DELETE" then a.deleteEnabled
  else false

/-- The methods that a target serves. -/
def allowedMethods (a : Actions) : List String :=
  (if a.getEnabled then ["GET", "HEAD"] else []) ++ (if a.putEnabled then ["PUT"] else []) ++
    (if a.deleteEnabled then ["DELETE"] else [])

/-- The refusal of a method. -/
def methodNotAllowed (a : Actions) : Response :=
  ⟨405, [textHeader "allow" (String.intercalate ", " (allowedMethods a))], .empty⟩

/-- The answer of the health check. -/
def healthy : Response :=
  .ofJson 200 (.obj [("status", .str "ok"), ("service", .str "s3gate")])

/-- The answer with the counters. -/
def countersResponse (text : String) : Response :=
  ⟨200, [textHeader "content-type" "text/plain; version=0.0.4; charset=utf-8"], .ofText text⟩

/-- The octets of the body of a request. -/
def readBody (stream : ObjectStream) : Answer Bytes :=
  match stream.collect with
  | .ok bs => .ok bs
  | .error _ => .error (.internal "read request body")

/-- What the gateway of a target does for a request whose path has been decoded. -/
def perform (g : Gateway) (ctx : RequestContext) (request : Request) (path : String) :
    GatewayFlow Unit :=
  if request.method == "PUT" then
    match (do readPutInput path request.headers (← readBody request.body) : Answer PutInput) with
    | .ok input => g.write ctx input
    | .error f => GatewayFlow.respond (.internalServerError f)
  else if request.method == "DELETE" then g.remove ctx path
  else
    match readGetInput path request.headers with
    | .ok input => g.read ctx (if request.method == "HEAD" then .head else .get) input
    | .error f => GatewayFlow.respond (.badRequest f)

/-- What the gateway of a target does for a request. -/
def serve (g : Gateway) (ctx : RequestContext) (request : Request) (rawPath : String) :
    GatewayFlow Unit :=
  match decodePath rawPath with
  | .ok path => perform g ctx request path
  | .error f => GatewayFlow.respond (.internalServerError f)

/-- The host that a request is routed by. -/
def routingHost (request : Request) : Option String := request.headers.text? "host"

/-- The target and the path below its mount that a request goes to. -/
def routeOf (snapshot : Snapshot) (request : Request) : Option (Route Target) :=
  route (fun t : Target => t.config.mount) snapshot.targets (routingHost request) request.uri.path

/-- The responses that a responder makes of a request.  A method that the target does not serve is
refused before there is a responder. -/
def render (s : Setup) (snapshot : Snapshot) (request : Request) :
    Except Response (Flow ServiceInterface Responder.Slot) :=
  let info := requestInfo request.method request.uri request.headers
  match routeOf snapshot request with
  | none =>
    let r : Responder := ⟨info, none, none, snapshot, s.engine, s.files⟩
    .ok do
      let ((), slot) ← withoutStore ((r.respond .notFound).run [])
      return slot
  | some route =>
    let t := route.target
    if !methodEnabled t.config.actions request.method then
      .error (methodNotAllowed t.config.actions)
    else
      let ctx : RequestContext := ⟨info, none, route.mountPath⟩
      let r : Responder := ⟨info, none, some t, snapshot, s.engine, s.files⟩
      .ok (forTarget t.config (r.run (serve ⟨t, s.engine⟩ ctx request route.rawPath)))

/-- Answer a request by its target. -/
def process (s : Setup) (snapshot : Snapshot) (request : Request) :
    Flow ServiceInterface Response := do
  match render s snapshot request with
  | .error refusal => return refusal
  | .ok responses => return Responder.finish (← responses)

/-- Answer a request, before it is counted. -/
def respond (s : Setup) (snapshot : Snapshot) (request : Request) :
    Flow ServiceInterface Response := do
  if request.method == "GET" && request.uri.path == "/healthz" then return healthy
  else if request.method == "GET" && request.uri.path == "/metrics" then
    let text ← (.call .counters .done : Flow ServiceInterface String)
    return countersResponse text
  else process s snapshot request

/-- Answer a request and count the answer. -/
def handle (s : Setup) (snapshot : Snapshot) (request : Request) :
    Flow ServiceInterface Response := do
  let response ← respond s snapshot request
  (.call (.count (.answered request.method response.status)) .done : Flow ServiceInterface Unit)
  return response

end Service

end ObjectGateway.Http
