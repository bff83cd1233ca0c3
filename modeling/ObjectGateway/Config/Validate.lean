import ObjectGateway.Config.Read
import ObjectGateway.Config.Secret
import ObjectGateway.Pattern.Size

/-!
# Valid configurations

What the members of a configuration must satisfy together: targets have distinct names, mount paths
start and end with a slash, and every pattern and every span of time in it can be read.  Loading a
configuration reads, validates and, from a file, takes over the settings of the environment.
-/

namespace ObjectGateway

/-- Fail as a configuration, unless a condition holds. -/
def Config.require (condition : Bool) (reason : String) : Answer Unit :=
  if condition then .ok () else .error (.config reason)

/-- Whether a mount path starts and ends with a slash. -/
def Mount.isRooted (path : String) : Bool :=
  path.toList.head? = some '/' && path.toList.getLast? = some '/'

namespace TargetConfig

/-- How the failures of a target begin. -/
def label (t : TargetConfig) : String := "target " ++ t.name ++ ": "

/-- Fail unless the waits of a webhook can be read. -/
def validateWebhook (t : TargetConfig) (w : Webhook) : Answer Unit :=
  match w.retryWaits with
  | .ok _ => .ok ()
  | .error .aborted => .error .aborted
  | .error f => .error (.config (t.label ++ "webhook " ++ w.url ++ ": " ++ f.message))

/-- Fail unless the target can be served. -/
def validate (t : TargetConfig) : Answer Unit := do
  Config.require (!t.mount.paths.isEmpty) (t.label ++ "at least one mount path is required")
  t.mount.paths.forM fun path =>
    Config.require (Mount.isRooted path)
      (t.label ++ "mount path " ++ path ++ " must start and end with /")
  Config.require (!t.bucket.name.isEmpty) (t.label ++ "bucket name is required")
  Config.require (decide (0 < t.bucket.listMaxKeys))
    (t.label ++ "s3ListMaxKeys must be greater than 0")
  t.rules.forM fun rule =>
    match Pattern.load rule.source with
    | .ok _ => .ok ()
    | .error e =>
      .error (.config (t.label ++ "invalid rewrite source " ++ rule.source ++ e.detail))
  t.actions.webhooks.forM t.validateWebhook
  match t.actions.get with
  | some action => action.config.expiration.map fun _ => ()
  | none => .ok ()

end TargetConfig

namespace Config

/-- Validate targets in order, given the names before them. -/
def validateTargets (names : List String) : List TargetConfig → Answer Unit
  | [] => .ok ()
  | t :: rest => do
    require (!t.name.isEmpty) "target name must not be empty"
    require (!names.contains t.name) ("duplicate target name: " ++ t.name)
    t.validate
    validateTargets (t.name :: names) rest

/-- Fail unless the configuration can be served. -/
def validate (c : Config) : Answer Unit :=
  validateTargets [] c.targets

/-- The valid configuration that a text holds. -/
def ofText (s : String) : Answer Config :=
  match ofText? s with
  | none => .error (.config "invalid YAML")
  | some c => do
    c.validate
    return c

/-- The valid configuration in a file, with the settings of the environment. -/
def load (w : Surroundings) (path : String) : Answer Config :=
  match w.files.readText path with
  | .error e => .error (.config ("cannot read " ++ path ++ ": " ++ e.message))
  | .ok s => do
    let c ← ofText s
    return { c with server := c.server.withEnvironment w.env }

end Config

end ObjectGateway
