import ObjectGateway.Config.Validate
import ObjectGateway.Gateway.Basic

/-!
# Loading targets

A configuration is loaded as a whole: the stores, the rules and the helpers of all targets and then
their hooks.  If anything fails, what was in force stays in force.
-/

namespace ObjectGateway

/-- Calls of the stores of several targets. -/
abbrev BucketsInterface : Interface := ⟨TargetConfig × StoreCall, fun p => p.2.Reply⟩

/-- Call the store of one target. -/
def callBucket {α : Type} (t : TargetConfig) (flow : Flow StoreInterface α) :
    Flow BucketsInterface α :=
  flow.translate fun c => .call ((t, c) : TargetConfig × StoreCall) .done

/-- All targets that are served. -/
structure Snapshot where
  targets : List Target
  templates : GlobalTemplates
  /-- The helpers for every target. -/
  globalHelpers : String

namespace Snapshot

/-- No targets at all. -/
def empty : Snapshot := ⟨[], ⟨[], .const none⟩, ""⟩

/-- The target of a name. -/
def target? (s : Snapshot) (name : String) : Option Target :=
  s.targets.find? (·.config.name == name)

end Snapshot

/-- The text of a template in a local file. -/
def readLocal (files : LocalFiles) (path : String) : Answer String :=
  match files.readText path with
  | .ok s => .ok s
  | .error _ => .error (.internal ("read template " ++ path))

/-- The text of a template of a target. -/
def readTemplate (files : LocalFiles) (item : TemplateItem) : Flow StoreInterface (Answer String) :=
  if item.inBucket then readObject item.path else .done (readLocal files item.path)

/-- The texts of templates in order, up to the first failure. -/
def readTemplates (files : LocalFiles) :
    List TemplateItem → Flow StoreInterface (Answer (List String))
  | [] => .done (.ok [])
  | item :: rest => do
    match ← readTemplate files item with
    | .error f => return .error f
    | .ok s =>
      match ← readTemplates files rest with
      | .error f => return .error f
      | .ok ss => return .ok (s :: ss)

/-- Texts with line feeds between them. -/
def joinLines (ss : List String) : String := String.intercalate "\n" ss

/-- What loading does to the hooks in force: it succeeds or fails, and leaves some hooks behind. -/
def HookChange (H : Type) : Type := H → Answer Unit × H

/-- Put hooks in force, whatever is in force. -/
def HookChange.ok {H : Type} (hooks : H) : HookChange H := fun _ => (.ok (), hooks)

/-- What a configuration is loaded with. -/
structure Loader (H : Type) where
  files : LocalFiles
  /-- Open the store of a target, or fail. -/
  openStore : TargetConfig → Answer Unit
  /-- Load the hooks of all targets. -/
  loadHooks : List TargetConfig → HookChange H

namespace Loader

variable {H : Type}

/-- Load one target. -/
def loadTarget (l : Loader H) (globalHelpers : List String) (c : TargetConfig) :
    Flow BucketsInterface (Answer Target) := do
  match l.openStore c with
  | .error f => return .error f
  | .ok () =>
    match Rule.ofConfigs c.rules with
    | .error f => return .error f
    | .ok rules =>
      match ← callBucket c (readTemplates l.files c.templates.helpers) with
      | .error f => return .error f
      | .ok helpers => return .ok ⟨c, rules, joinLines (helpers ++ globalHelpers)⟩

/-- Load targets in order, up to the first failure. -/
def loadTargets (l : Loader H) (globalHelpers : List String) :
    List TargetConfig → Flow BucketsInterface (Answer (List Target))
  | [] => .done (.ok [])
  | c :: rest => do
    match ← l.loadTarget globalHelpers c with
    | .error f => return .error f
    | .ok t =>
      match ← l.loadTargets globalHelpers rest with
      | .error f => return .error f
      | .ok ts => return .ok (t :: ts)

/-- Load everything of a configuration but its hooks. -/
def loadSnapshot (l : Loader H) (c : Config) : Flow BucketsInterface (Answer Snapshot) := do
  match c.templates.helpers.mapM (readLocal l.files) with
  | .error f => return .error f
  | .ok globalHelpers =>
    match ← l.loadTargets globalHelpers c.targets with
    | .error f => return .error f
    | .ok targets => return .ok ⟨targets, c.templates, joinLines globalHelpers⟩

end Loader

/-- The targets and hooks in force. -/
structure Registry (H : Type) where
  snapshot : Snapshot
  hooks : H

/-- Load a configuration and put it in force.  The hooks come last, so that nothing can fail once
they are changed. -/
def Registry.reload {H : Type} (r : Registry H) (l : Loader H) (c : Config) :
    Flow BucketsInterface (Answer Unit × Registry H) := do
  match ← l.loadSnapshot c with
  | .error f => return (.error f, r)
  | .ok snapshot =>
    match l.loadHooks c.targets r.hooks with
    | (.error f, hooks) => return (.error f, { r with hooks := hooks })
    | (.ok (), hooks) => return (.ok (), ⟨snapshot, hooks⟩)

end ObjectGateway
