import ObjectGateway.Gateway.Effect
import ObjectGateway.Gateway.Path
import ObjectGateway.Rewrite

/-!
# Gateways

A gateway answers the requests for one target.  The path of a request becomes a key: the start of
every key of the bucket and the path without its first slash, rewritten by the rules of the target.
-/

namespace ObjectGateway

/-- A target that is ready to be served. -/
structure Target where
  config : TargetConfig
  rules : List Rule
  /-- The helpers of the target and those for every target, put before every template of a rule. -/
  helpers : String

/-- A target with an engine for its templates. -/
structure Gateway where
  target : Target
  engine : TemplateEngine

namespace Gateway

/-- The name of the target. -/
def name (g : Gateway) : String := g.target.config.name

/-- The start of every key. -/
def rootPrefix (g : Gateway) : String := g.target.config.bucket.rootPrefix

/-- The key of a path before it is rewritten. -/
def startKey (g : Gateway) (path : String) : String :=
  g.rootPrefix ++ dropLeadingSlash path

/-- Rewrite a key by the rules of the target. -/
def rewrite (g : Gateway) (ctx : RequestContext) (key : String) : Answer String :=
  let c : RewriteContext :=
    ⟨ctx.request, ctx.user, g.target.config, g.target.helpers, g.engine⟩
  c.rewrite g.target.rules key

/-- The path that leads to an entry below a mount. -/
def entryPath (g : Gateway) (mountPath : String) (d : Descriptor) : String :=
  let path := joinPath mountPath (dropStart g.rootPrefix d.key)
  match d.kind with
  | .folder => path ++ "/"
  | .file => path

/-- Entries with the paths that lead to them. -/
def entries (g : Gateway) (mountPath : String) (ds : List Descriptor) : List Entry :=
  ds.map fun d => ⟨d.kind, d.etag, d.name, d.key, g.entryPath mountPath d, d.size, d.lastModified⟩

/-- The answer to a failure that a flow has no answer of its own for. -/
def failureOutcome : Failure → Outcome
  | .objectExists key => .forbidden (.objectExists key)
  | .removalFolder => .badRequest .removalFolder
  | .badRequest reason => .badRequest (.badRequest reason)
  | f => .internalServerError f

/-- The answer to a failure to read an object. -/
def readOutcome : Failure → Outcome
  | .notFound => .notFound
  | .notModified => .notModified
  | .preconditionFailed => .preconditionFailed
  | f => .internalServerError f

end Gateway

end ObjectGateway
