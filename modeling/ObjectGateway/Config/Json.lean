import ObjectGateway.Config.Read
import ObjectGateway.Json

/-!
# Configurations as JSON

A configuration is shown to templates as JSON.  Secrets are left out: neither the key pair of a
bucket nor the secret headers of a webhook appear.
-/

namespace ObjectGateway

/-- The settings of the server. -/
def ServerConfig.toJson (s : ServerConfig) : Json :=
  .obj [
    ("listen", .str s.listen),
    ("logLevel", .str s.logLevel),
    ("logFormat", .str s.logFormat),
    ("webhookWorkers", .int s.webhookWorkers),
    ("webhookQueueCapacity", .int s.webhookQueueCapacity)]

/-- A value, or null when there is none. -/
def Json.ofOption {α : Type} (f : α → Json) : Option α → Json
  | some a => f a
  | none => .null

/-- What is given for each page. -/
def Pages.toMembers {α : Type} (f : α → Json) (p : Pages (Option α)) : List (String × Json) :=
  let names := Config.pageNames
  [ (names.folderList, Json.ofOption f p.folderList),
    (names.notFound, Json.ofOption f p.notFound),
    (names.internalServerError, Json.ofOption f p.internalServerError),
    (names.forbidden, Json.ofOption f p.forbidden),
    (names.badRequest, Json.ofOption f p.badRequest),
    (names.unauthorized, Json.ofOption f p.unauthorized)]

/-- The templates for every target. -/
def GlobalTemplates.toJson (t : GlobalTemplates) : Json :=
  .obj (("helpers", Json.ofTexts t.helpers) :: t.pages.toMembers .str)

/-- A webhook, without its secret headers. -/
def Webhook.toJson (w : Webhook) : Json :=
  .obj [
    ("url", .str w.url),
    ("method", .str w.method),
    ("headers", Json.ofTextMap w.headers),
    ("retryCount", .int w.retryCount),
    ("defaultWaitTime", Json.ofText? w.defaultWaitTime),
    ("maxWaitTime", Json.ofText? w.maxWaitTime)]

/-- A list of webhooks. -/
def Webhook.listToJson (ws : List Webhook) : Json :=
  .arr (ws.map Webhook.toJson)

/-- Where a target is exposed. -/
def Mount.toJson (m : Mount) : Json :=
  .obj [("host", Json.ofText? m.host), ("paths", Json.ofTexts m.paths)]

/-- Further headers of requests. -/
def OperationHeaders.toJson (h : OperationHeaders) : Json :=
  .obj [
    ("listHeaders", Json.ofTextMap h.list),
    ("getHeaders", Json.ofTextMap h.get),
    ("putHeaders", Json.ofTextMap h.put),
    ("deleteHeaders", Json.ofTextMap h.delete)]

/-- A bucket, without its key pair. -/
def BucketConfig.toJson (b : BucketConfig) : Json :=
  .obj [
    ("name", .str b.name),
    ("prefix", .str b.keyPrefix),
    ("region", .str b.region),
    ("s3Endpoint", Json.ofText? b.endpoint),
    ("disableSsl", .bool b.disableSsl),
    ("s3ListMaxKeys", .int b.listMaxKeys),
    ("requestConfig", b.headers.toJson)]

/-- The name of a kind of rule. -/
def RuleKind.name : RuleKind → String
  | expansion => "REGEX"
  | template => "TEMPLATE"

/-- A rewrite rule. -/
def RuleConfig.toJson (r : RuleConfig) : Json :=
  .obj [
    ("source", .str r.source),
    ("target", .str r.target),
    ("targetType", .str r.kind.name)]

/-- A template in a file or in the bucket. -/
def TemplateItem.toJson (t : TemplateItem) : Json :=
  .obj [("path", .str t.path), ("inBucket", .bool t.inBucket)]

/-- The templates of a target. -/
def TargetTemplates.toJson (t : TargetTemplates) : Json :=
  .obj (("helpers", .arr (t.helpers.map TemplateItem.toJson)) ::
    t.pages.toMembers TemplateItem.toJson)

/-- How objects are read. -/
def GetConfig.toJson (g : GetConfig) : Json :=
  .obj [
    ("redirectWithTrailingSlashForNotFoundFile", .bool g.redirectWithTrailingSlash),
    ("indexDocument", Json.ofText? g.indexDocument),
    ("disableListing", .bool g.disableListing),
    ("redirectToSignedUrl", .bool g.redirectToSignedUrl),
    ("signedUrlExpiration", Json.ofText? g.signedUrlExpiration),
    ("webhooks", Webhook.listToJson g.webhooks)]

/-- Templates for the headers that are kept with an object. -/
def SystemMetadata.toJson (m : SystemMetadata) : Json :=
  .obj [
    ("cacheControl", Json.ofText? m.cacheControl),
    ("contentDisposition", Json.ofText? m.contentDisposition),
    ("contentEncoding", Json.ofText? m.contentEncoding),
    ("contentLanguage", Json.ofText? m.contentLanguage),
    ("expires", Json.ofText? m.expires)]

/-- How objects are written. -/
def PutConfig.toJson (p : PutConfig) : Json :=
  .obj [
    ("metadata", Json.ofTextMap p.metadata),
    ("systemMetadata", Json.ofOption SystemMetadata.toJson p.systemMetadata),
    ("storageClass", Json.ofText? p.storageClass),
    ("allowOverride", .bool p.allowOverride),
    ("cannedAcl", Json.ofText? p.cannedAcl),
    ("webhooks", Webhook.listToJson p.webhooks)]

/-- How objects are removed. -/
def DeleteConfig.toJson (d : DeleteConfig) : Json :=
  .obj [("webhooks", Webhook.listToJson d.webhooks)]

/-- An action. -/
def Action.toJson {α : Type} (f : α → Json) (a : Action α) : Json :=
  .obj [("enabled", .bool a.enabled), ("config", f a.config)]

/-- The actions of a target. -/
def Actions.toJson (a : Actions) : Json :=
  .obj [
    ("GET", Json.ofOption (Action.toJson GetConfig.toJson) a.get),
    ("PUT", Json.ofOption (Action.toJson (Json.ofOption PutConfig.toJson)) a.put),
    ("DELETE", Json.ofOption (Action.toJson DeleteConfig.toJson) a.delete)]

/-- A target. -/
def TargetConfig.toJson (t : TargetConfig) : Json :=
  .obj [
    ("name", .str t.name),
    ("mount", t.mount.toJson),
    ("bucket", t.bucket.toJson),
    ("keyRewriteList", .arr (t.rules.map RuleConfig.toJson)),
    ("templates", t.templates.toJson),
    ("actions", t.actions.toJson)]

/-- A configuration. -/
def Config.toJson (c : Config) : Json :=
  .obj [
    ("server", c.server.toJson),
    ("templates", c.templates.toJson),
    ("targets", .arr (c.targets.map TargetConfig.toJson))]

end ObjectGateway
