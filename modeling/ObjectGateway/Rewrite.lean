import ObjectGateway.Config.Json
import ObjectGateway.Pattern.Expand
import ObjectGateway.Pattern.Size
import ObjectGateway.Request
import ObjectGateway.Template.Engine

/-!
# Rewriting keys

A list of rules turns the key of a request into the key of an object.  The first rule whose pattern
occurs in the key decides; a key that no rule matches stays as it is.
-/

namespace ObjectGateway

/-- A rule with its pattern read. -/
structure Rule where
  pattern : Pattern.Compiled
  target : String
  kind : RuleKind

namespace Rule

/-- Read the pattern of a rule. -/
def ofConfig (c : RuleConfig) : Answer Rule :=
  match Pattern.load c.source with
  | .ok p => .ok ⟨p, c.target, c.kind⟩
  | .error e => .error (.config ("invalid rewrite source " ++ c.source ++ e.detail))

/-- Read the patterns of rules in order. -/
def ofConfigs (cs : List RuleConfig) : Answer (List Rule) :=
  cs.mapM ofConfig

/-- Whether the pattern of a rule occurs in a key. -/
def occursIn (r : Rule) (key : String) : Bool :=
  (r.pattern.search key.toList).isSome

end Rule

/-- What templates of rules are rendered with. -/
structure RewriteContext where
  request : RequestInfo
  user : Option User
  target : TargetConfig
  /-- Put before every template. -/
  helpers : String
  engine : TemplateEngine

namespace RewriteContext

/-- The values that a template sees. -/
def values (c : RewriteContext) (key : String) : Json :=
  .obj [
    ("request", c.request.toJson),
    ("user", User.toJson? c.user),
    ("target", c.target.toJson),
    ("key", .str key)]

/-- The key that a matching rule yields. -/
def apply (c : RewriteContext) (r : Rule) (key : String) : Answer String :=
  if r.pattern.groupCount ≤ 1 then .ok r.target
  else
    match r.kind with
    | .expansion =>
      match r.pattern.search key.toList with
      | some groups =>
        .ok (String.ofList (Pattern.Match.expand ⟨groups, r.pattern.names⟩ r.target.toList))
      | none => .ok ""
    | .template => c.engine.renderLine (c.helpers ++ "\n" ++ r.target) (c.values key)

/-- Rewrite a key by the first rule that matches. -/
def rewrite (c : RewriteContext) (rules : List Rule) (key : String) : Answer String :=
  match rules.find? (·.occursIn key) with
  | some r => c.apply r key
  | none => .ok key

end RewriteContext

end ObjectGateway
