import ObjectGateway.Config.Basic
import ObjectGateway.Yaml.Document

/-!
# Reading a configuration

A configuration is read from the nodes of a YAML document.  A member that is not known is ignored,
a known one may be given once, and each has a rule for what it may hold.  Anything else is refused
as a whole.
-/

namespace ObjectGateway.Config

open Yaml (Node)

/-- The members of a record. -/
abbrev Fields := List (String × Node)

/-- Whether no text of a list is known and given twice. -/
def knownOnce (known : List String) : List String → Bool
  | [] => true
  | k :: rest => !(known.contains k && rest.contains k) && knownOnce known rest

/-- The members of a node that is a record with the given names. -/
def fields? (known : List String) (n : Node) : Option Fields := do
  let members ← n.members?
  let fields ← members.mapM fun (k, v) => k.text?.map (·, v)
  if knownOnce known (fields.map (·.1)) then some fields else none

/-- A member that must be given. -/
def Fields.required {α : Type} (f : Fields) (name : String) (read : Node → Option α) : Option α :=
  (f.lookup name).bind read

/-- A member that has a value where it is not given. -/
def Fields.getD {α : Type} (f : Fields) (name : String) (standard : α)
    (read : Node → Option α) : Option α :=
  match f.lookup name with
  | some n => read n
  | none => some standard

/-- A member that may hold nothing. -/
def Fields.given {α : Type} (f : Fields) (name : String) (read : Node → Option α) :
    Option (Option α) :=
  match f.lookup name with
  | some n => do
    if ← n.given? then some (some (← read n)) else some none
  | none => some none

/-- A list of values. -/
def readList {α : Type} (read : Node → Option α) (n : Node) : Option (List α) := do
  (← n.items?).mapM read

/-- A map of values. -/
def readMap {α : Type} (read : Node → Option α) (n : Node) : Option (TextMap α) := do
  let pairs ← (← n.members?).mapM fun (k, v) => do some (← k.text?, ← read v)
  some (TextMap.ofList pairs)

/-- A number below a bound. -/
def readBelow (bound : Nat) (n : Node) : Option Nat :=
  n.nat?.bind fun k => if k < bound then some k else none

/-- A number of 32 bits with a sign. -/
def readInt32 (n : Node) : Option Int :=
  n.int?.bind fun k => if -Int.pow 2 31 ≤ k ∧ k < Int.pow 2 31 then some k else none

/-- The settings of the server. -/
def readServer (n : Node) : Option ServerConfig := do
  let f ← fields? ["listen", "logLevel", "logFormat", "webhookWorkers", "webhookQueueCapacity"] n
  let d := ServerConfig.standard
  some {
    listen := ← f.getD "listen" d.listen Node.text?
    logLevel := ← f.getD "logLevel" d.logLevel Node.text?
    logFormat := ← f.getD "logFormat" d.logFormat Node.text?
    webhookWorkers := ← f.getD "webhookWorkers" d.webhookWorkers (readBelow (Nat.pow 2 64))
    webhookQueueCapacity :=
      ← f.getD "webhookQueueCapacity" d.webhookQueueCapacity (readBelow (Nat.pow 2 64)) }

/-- The names of the pages. -/
def pageNames : Pages String :=
  ⟨"folderList", "notFound", "internalServerError", "forbidden", "badRequest", "unauthorized"⟩

/-- The names of the members of a record with templates. -/
def templateNames : List String :=
  ["helpers", pageNames.folderList, pageNames.notFound, pageNames.internalServerError,
    pageNames.forbidden, pageNames.badRequest, pageNames.unauthorized]

/-- What is given for each page. -/
def readPages {α : Type} (f : Fields) (read : Node → Option α) : Option (Pages (Option α)) := do
  some {
    folderList := ← f.given pageNames.folderList read
    notFound := ← f.given pageNames.notFound read
    internalServerError := ← f.given pageNames.internalServerError read
    forbidden := ← f.given pageNames.forbidden read
    badRequest := ← f.given pageNames.badRequest read
    unauthorized := ← f.given pageNames.unauthorized read }

/-- The templates for every target. -/
def readGlobalTemplates (n : Node) : Option GlobalTemplates := do
  let f ← fields? templateNames n
  some {
    helpers := ← f.getD "helpers" [] (readList Node.text?)
    pages := ← readPages f Node.text? }

/-- Where a secret is. -/
def readSecret (n : Node) : Option Secret := do
  let f ← fields? ["path", "env", "value"] n
  some {
    path := ← f.given "path" Node.text?
    env := ← f.given "env" Node.text?
    value := ← f.given "value" Node.text? }

/-- A webhook. -/
def readWebhook (n : Node) : Option Webhook := do
  let f ← fields? ["url", "method", "headers", "secretHeaders", "retryCount", "defaultWaitTime",
    "maxWaitTime"] n
  some {
    url := ← f.required "url" Node.text?
    method := ← f.getD "method" "POST" Node.text?
    headers := ← f.getD "headers" [] (readMap Node.text?)
    secretHeaders := ← f.getD "secretHeaders" [] (readMap readSecret)
    retryCount := ← f.getD "retryCount" 0 (readBelow (Nat.pow 2 32))
    defaultWaitTime := ← f.given "defaultWaitTime" Node.text?
    maxWaitTime := ← f.given "maxWaitTime" Node.text? }

/-- Webhooks of an action. -/
def readWebhooks (f : Fields) : Option (List Webhook) :=
  f.getD "webhooks" [] (readList readWebhook)

/-- Where a target is exposed. -/
def readMount (n : Node) : Option Mount := do
  let f ← fields? ["host", "paths"] n
  some {
    host := ← f.given "host" Node.text?
    paths := ← f.required "paths" (readList Node.text?) }

/-- The key pair for a bucket. -/
def readCredentials (n : Node) : Option BucketCredentials := do
  let f ← fields? ["accessKey", "secretKey"] n
  some {
    accessKey := ← f.required "accessKey" readSecret
    secretKey := ← f.required "secretKey" readSecret }

/-- Further headers of requests. -/
def readOperationHeaders (n : Node) : Option OperationHeaders := do
  let f ← fields? ["listHeaders", "getHeaders", "putHeaders", "deleteHeaders"] n
  some {
    list := ← f.getD "listHeaders" [] (readMap Node.text?)
    get := ← f.getD "getHeaders" [] (readMap Node.text?)
    put := ← f.getD "putHeaders" [] (readMap Node.text?)
    delete := ← f.getD "deleteHeaders" [] (readMap Node.text?) }

/-- The bucket behind a target. -/
def readBucket (n : Node) : Option BucketConfig := do
  let f ← fields? ["name", "prefix", "region", "s3Endpoint", "credentials", "disableSsl",
    "s3ListMaxKeys", "requestConfig"] n
  some {
    name := ← f.required "name" Node.text?
    keyPrefix := ← f.getD "prefix" "" Node.text?
    region := ← f.getD "region" "us-east-1" Node.text?
    endpoint := ← f.given "s3Endpoint" Node.text?
    credentials := ← f.given "credentials" readCredentials
    disableSsl := ← f.getD "disableSsl" false Node.bool?
    listMaxKeys := ← f.getD "s3ListMaxKeys" 1000 readInt32
    headers := ← f.getD "requestConfig" ⟨[], [], [], []⟩ readOperationHeaders }

/-- The kind of rule that a text names. -/
def ruleKind? (s : String) : Option RuleKind :=
  if s == "REGEX" then some .expansion
  else if s == "TEMPLATE" then some .template
  else none

/-- The kind of a rule: a name, or a tag of its own on nothing. -/
def readRuleKind : Node → Option RuleKind
  | .scalar _ none s => ruleKind? s
  | .scalar style (some tag) s =>
    let isNull := match style with
      | .plain => s.isEmpty || Yaml.isNullText s
      | _ => false
    if !tag.startsWith "!" then ruleKind? s
    else if isNull then ruleKind? (tag.drop 1).toString
    else none
  | _ => none

/-- A rewrite rule. -/
def readRule (n : Node) : Option RuleConfig := do
  let f ← fields? ["source", "target", "targetType"] n
  some {
    source := ← f.required "source" Node.text?
    target := ← f.required "target" Node.text?
    kind := ← f.getD "targetType" .expansion readRuleKind }

/-- A template in a file or in the bucket. -/
def readTemplateItem (n : Node) : Option TemplateItem := do
  let f ← fields? ["path", "inBucket"] n
  some {
    path := ← f.required "path" Node.text?
    inBucket := ← f.getD "inBucket" false Node.bool? }

/-- The templates of a target. -/
def readTargetTemplates (n : Node) : Option TargetTemplates := do
  let f ← fields? templateNames n
  some {
    helpers := ← f.getD "helpers" [] (readList readTemplateItem)
    pages := ← readPages f readTemplateItem }

/-- How objects are read. -/
def readGetConfig (n : Node) : Option GetConfig := do
  let f ← fields? ["redirectWithTrailingSlashForNotFoundFile", "indexDocument", "disableListing",
    "redirectToSignedUrl", "signedUrlExpiration", "webhooks"] n
  some {
    redirectWithTrailingSlash :=
      ← f.getD "redirectWithTrailingSlashForNotFoundFile" false Node.bool?
    indexDocument := ← f.given "indexDocument" Node.text?
    disableListing := ← f.getD "disableListing" false Node.bool?
    redirectToSignedUrl := ← f.getD "redirectToSignedUrl" false Node.bool?
    signedUrlExpiration := ← f.given "signedUrlExpiration" Node.text?
    webhooks := ← readWebhooks f }

/-- Templates for the headers that are kept with an object. -/
def readSystemMetadata (n : Node) : Option SystemMetadata := do
  let f ← fields? ["cacheControl", "contentDisposition", "contentEncoding", "contentLanguage",
    "expires"] n
  some {
    cacheControl := ← f.given "cacheControl" Node.text?
    contentDisposition := ← f.given "contentDisposition" Node.text?
    contentEncoding := ← f.given "contentEncoding" Node.text?
    contentLanguage := ← f.given "contentLanguage" Node.text?
    expires := ← f.given "expires" Node.text? }

/-- How objects are written. -/
def readPutConfig (n : Node) : Option PutConfig := do
  let f ← fields? ["metadata", "systemMetadata", "storageClass", "allowOverride", "cannedAcl",
    "webhooks"] n
  some {
    metadata := ← f.getD "metadata" [] (readMap Node.text?)
    systemMetadata := ← f.given "systemMetadata" readSystemMetadata
    storageClass := ← f.given "storageClass" Node.text?
    allowOverride := ← f.getD "allowOverride" false Node.bool?
    cannedAcl := ← f.given "cannedAcl" Node.text?
    webhooks := ← readWebhooks f }

/-- How objects are removed. -/
def readDeleteConfig (n : Node) : Option DeleteConfig := do
  let f ← fields? ["webhooks"] n
  some { webhooks := ← readWebhooks f }

/-- The fields of an action. -/
def actionFields? (n : Node) : Option Fields :=
  fields? ["enabled", "config"] n

/-- An action whose configuration has a value where it is not given. -/
def readAction {α : Type} (standard : α) (read : Node → Option α) (n : Node) :
    Option (Action α) := do
  let f ← actionFields? n
  some {
    enabled := ← f.getD "enabled" false Node.bool?
    config := ← f.getD "config" standard read }

/-- The action that writes objects; its configuration may be nothing. -/
def readPutAction (n : Node) : Option (Action (Option PutConfig)) := do
  let f ← actionFields? n
  some {
    enabled := ← f.getD "enabled" false Node.bool?
    config := ← f.given "config" readPutConfig }

/-- The actions of a target. -/
def readActions (n : Node) : Option Actions := do
  let f ← fields? ["GET", "PUT", "DELETE"] n
  some {
    get := ← f.given "GET" (readAction .standard readGetConfig)
    put := ← f.given "PUT" readPutAction
    delete := ← f.given "DELETE" (readAction ⟨[]⟩ readDeleteConfig) }

/-- A target. -/
def readTarget (n : Node) : Option TargetConfig := do
  let f ← fields? ["name", "mount", "bucket", "keyRewriteList", "templates", "actions"] n
  some {
    name := ← f.required "name" Node.text?
    mount := ← f.required "mount" readMount
    bucket := ← f.required "bucket" readBucket
    rules := ← f.getD "keyRewriteList" [] (readList readRule)
    templates := ← f.getD "templates" ⟨[], .const none⟩ readTargetTemplates
    actions := ← f.getD "actions" ⟨none, none, none⟩ readActions }

/-- A configuration. -/
def ofNode? (n : Node) : Option Config := do
  let f ← fields? ["server", "templates", "targets"] n
  some {
    server := ← f.getD "server" .standard readServer
    templates := ← f.getD "templates" ⟨[], .const none⟩ readGlobalTemplates
    targets := ← f.getD "targets" [] (readList readTarget) }

/-- The configuration that a text holds, not yet validated. -/
def ofText? (s : String) : Option Config :=
  (Yaml.document? s).bind ofNode?

end ObjectGateway.Config
