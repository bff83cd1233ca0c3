import ObjectGateway.TextMap
import ObjectGateway.Timespan.Fraction

/-!
# Configurations

What a gateway is told: how to listen, which pages to answer with, and its targets.  A target
exposes one bucket below some mount paths, rewrites request paths to keys by a list of rules, and
says for each action whether it is served and how.
-/

namespace ObjectGateway

/-- The pages that are rendered from templates. -/
inductive Page
  | folderList
  | notFound
  | internalServerError
  | forbidden
  | badRequest
  | unauthorized
  deriving Repr, DecidableEq

/-- Something for each page. -/
structure Pages (α : Type) where
  folderList : α
  notFound : α
  internalServerError : α
  forbidden : α
  badRequest : α
  unauthorized : α
  deriving Repr, DecidableEq

namespace Pages

variable {α : Type}

/-- The same for every page. -/
def const (a : α) : Pages α := ⟨a, a, a, a, a, a⟩

/-- What is given for one page. -/
def get (p : Pages α) : Page → α
  | .folderList => p.folderList
  | .notFound => p.notFound
  | .internalServerError => p.internalServerError
  | .forbidden => p.forbidden
  | .badRequest => p.badRequest
  | .unauthorized => p.unauthorized

end Pages

/-- How the server listens, logs and delivers webhooks. -/
structure ServerConfig where
  listen : String
  logLevel : String
  logFormat : String
  webhookWorkers : Nat
  webhookQueueCapacity : Nat
  deriving Repr, DecidableEq

namespace ServerConfig

/-- The settings of a server that is told nothing. -/
def standard : ServerConfig := ⟨"0.0.0.0:8080", "info", "text", 4, 1024⟩

/-- Whether logs are written as JSON. -/
def jsonLogs (s : ServerConfig) : Bool :=
  Text.eqIgnoringCase s.logFormat "json"

end ServerConfig

/-- Templates for every target, read from local files. -/
structure GlobalTemplates where
  /-- Paths of the files that are put before every template. -/
  helpers : List String
  /-- Paths of the files with the pages. -/
  pages : Pages (Option String)
  deriving Repr, DecidableEq

/-- A secret text: given in place, in a variable of the environment or in a local file. -/
structure Secret where
  path : Option String
  env : Option String
  value : Option String
  deriving Repr, DecidableEq

/-- A call that is made after an action. -/
structure Webhook where
  url : String
  method : String
  headers : TextMap String
  /-- Headers whose values are secret. -/
  secretHeaders : TextMap Secret
  /-- How many times a call that got no answer is repeated. -/
  retryCount : Nat
  /-- How long to wait before the first repetition. -/
  defaultWaitTime : Option String
  /-- How long to wait at most. -/
  maxWaitTime : Option String
  deriving Repr, DecidableEq

namespace Webhook

/-- The wait before the first repetition, unless configured. -/
def standardWait : Timespan := .ofMillis 100

/-- The longest wait, unless configured. -/
def standardMaxWait : Timespan := .ofSeconds 2

/-- A configured span, or another one where none is configured. -/
def waitOr (standard : Timespan) : Option String → Answer Timespan
  | some s => Timespan.parse s
  | none => .ok standard

/-- The first and the longest wait; the longest is not shorter than the first. -/
def retryWaits (w : Webhook) : Answer (Timespan × Timespan) := do
  let wait ← waitOr standardWait w.defaultWaitTime
  let longest ← waitOr standardMaxWait w.maxWaitTime
  return (wait, longest.max wait)

end Webhook

/-- Where a target is exposed. -/
structure Mount where
  /-- The only host that reaches the target, if it is bound to one. -/
  host : Option String
  paths : List String
  deriving Repr, DecidableEq

/-- The key pair for a bucket. -/
structure BucketCredentials where
  accessKey : Secret
  secretKey : Secret
  deriving Repr, DecidableEq

/-- Further headers of the requests to a store. -/
structure OperationHeaders where
  list : TextMap String
  get : TextMap String
  put : TextMap String
  delete : TextMap String
  deriving Repr, DecidableEq

/-- The bucket behind a target. -/
structure BucketConfig where
  name : String
  /-- The configured start of every key. -/
  keyPrefix : String
  region : String
  endpoint : Option String
  credentials : Option BucketCredentials
  disableSsl : Bool
  /-- How many entries a listing has at most. -/
  listMaxKeys : Int
  headers : OperationHeaders
  deriving Repr, DecidableEq

/-- The start of every key of a bucket: the configured one, with a slash behind it unless it is
empty or ends in one. -/
def BucketConfig.rootPrefix (b : BucketConfig) : String :=
  if b.keyPrefix.isEmpty || b.keyPrefix.toList.getLast? = some '/' then b.keyPrefix
  else b.keyPrefix ++ "/"

/-- How the target of a rewrite rule is read. -/
inductive RuleKind
  /-- As text that refers to the groups of the match. -/
  | expansion
  /-- As a template. -/
  | template
  deriving Repr, DecidableEq

/-- A rule that rewrites keys. -/
structure RuleConfig where
  source : String
  target : String
  kind : RuleKind
  deriving Repr, DecidableEq

/-- A template, in a local file or in the bucket of the target. -/
structure TemplateItem where
  path : String
  inBucket : Bool
  deriving Repr, DecidableEq

/-- The templates of one target. -/
structure TargetTemplates where
  helpers : List TemplateItem
  pages : Pages (Option TemplateItem)
  deriving Repr, DecidableEq

/-- An action that is or is not served, and how. -/
structure Action (α : Type) where
  enabled : Bool
  config : α
  deriving Repr, DecidableEq

/-- How objects are read. -/
structure GetConfig where
  /-- Whether a path that names no object is answered by a redirect to it as a folder. -/
  redirectWithTrailingSlash : Bool
  /-- The name of the object that stands for a folder. -/
  indexDocument : Option String
  disableListing : Bool
  redirectToSignedUrl : Bool
  signedUrlExpiration : Option String
  webhooks : List Webhook
  deriving Repr, DecidableEq

namespace GetConfig

/-- Objects are answered and folders are listed. -/
def standard : GetConfig := ⟨false, none, false, false, none, []⟩

/-- How long a signed address is valid, unless configured. -/
def standardExpiration : Timespan := .ofSeconds 900

/-- How long a signed address is valid. -/
def expiration (g : GetConfig) : Answer Timespan :=
  match g.signedUrlExpiration with
  | some s => Timespan.parse s
  | none => .ok standardExpiration

end GetConfig

/-- Templates for the headers that are kept with an object. -/
structure SystemMetadata where
  cacheControl : Option String
  contentDisposition : Option String
  contentEncoding : Option String
  contentLanguage : Option String
  expires : Option String
  deriving Repr, DecidableEq

/-- How objects are written. -/
structure PutConfig where
  /-- Templates for the metadata of an object. -/
  metadata : TextMap String
  systemMetadata : Option SystemMetadata
  storageClass : Option String
  allowOverride : Bool
  cannedAcl : Option String
  webhooks : List Webhook
  deriving Repr, DecidableEq

/-- How objects are removed. -/
structure DeleteConfig where
  webhooks : List Webhook
  deriving Repr, DecidableEq

/-- The actions of a target. -/
structure Actions where
  get : Option (Action GetConfig)
  put : Option (Action (Option PutConfig))
  delete : Option (Action DeleteConfig)
  deriving Repr, DecidableEq

namespace Actions

/-- Whether objects can be read. -/
def getEnabled (a : Actions) : Bool := a.get.elim false (·.enabled)

/-- Whether objects can be written. -/
def putEnabled (a : Actions) : Bool := a.put.elim false (·.enabled)

/-- Whether objects can be removed. -/
def deleteEnabled (a : Actions) : Bool := a.delete.elim false (·.enabled)

/-- The calls after an object was read. -/
def getWebhooks (a : Actions) : List Webhook := a.get.elim [] (·.config.webhooks)

/-- The calls after an object was written. -/
def putWebhooks (a : Actions) : List Webhook := (a.put.bind (·.config)).elim [] (·.webhooks)

/-- The calls after an object was removed. -/
def deleteWebhooks (a : Actions) : List Webhook := a.delete.elim [] (·.config.webhooks)

/-- All calls. -/
def webhooks (a : Actions) : List Webhook := a.getWebhooks ++ a.putWebhooks ++ a.deleteWebhooks

end Actions

/-- A bucket that is exposed below mount paths. -/
structure TargetConfig where
  name : String
  mount : Mount
  bucket : BucketConfig
  rules : List RuleConfig
  templates : TargetTemplates
  actions : Actions
  deriving Repr, DecidableEq

/-- A whole configuration. -/
structure Config where
  server : ServerConfig
  templates : GlobalTemplates
  targets : List TargetConfig
  deriving Repr, DecidableEq

/-- The first target of a name. -/
def Config.target? (c : Config) (name : String) : Option TargetConfig :=
  c.targets.find? (·.name == name)

end ObjectGateway
