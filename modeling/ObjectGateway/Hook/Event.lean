import ObjectGateway.Store.Object

/-!
# Events

After an action has been carried out, the hooks of its target are told of it by an event: what was
asked for, where it took place, and who was asked.
-/

namespace ObjectGateway

/-- The actions that hooks are told of. -/
inductive HookAction
  | get
  | head
  | put
  | delete
  deriving Repr, DecidableEq

/-- The name of an action. -/
def HookAction.name : HookAction → String
  | get => "GET"
  | head => "HEAD"
  | put => "PUT"
  | delete => "DELETE"

/-- What was asked for. -/
inductive HookInput
  | get (conditions : GetConditions)
  /-- The part that is asked for does not matter. -/
  | head (conditions : GetConditions)
  | put (filename contentType : String) (contentSize : Int)
  deriving Repr, DecidableEq

/-- A conditional instant as it appears in an event. -/
def HookInput.instantText : Option Instant → String
  | some t => t.timestampSeconds
  | none => ""

/-- The conditions of a read, without the part that is asked for. -/
def HookInput.conditionMembers (c : GetConditions) : List (String × Json) :=
  [("ifModifiedSince", .str (instantText c.ifModifiedSince)),
    ("ifMatch", .str (c.ifMatch.getD "")),
    ("ifNoneMatch", .str (c.ifNoneMatch.getD "")),
    ("ifUnmodifiedSince", .str (instantText c.ifUnmodifiedSince))]

/-- What was asked for, as JSON. -/
def HookInput.toJson : HookInput → Json
  | get c => .obj (conditionMembers c ++ [("range", .str (c.range.getD ""))])
  | head c => .obj (conditionMembers c)
  | put filename contentType contentSize =>
    .obj [("filename", .str filename), ("contentType", .str contentType),
      ("contentSize", .int contentSize)]

/-- An action that has been carried out. -/
structure HookEvent where
  action : HookAction
  target : String
  requestPath : String
  input : Option HookInput
  output : ResultInfo
  deriving Repr, DecidableEq

/-- The body that hooks are sent. -/
def HookEvent.body (e : HookEvent) : Json :=
  .obj ((match e.input with
      | some i => [("inputMetadata", i.toJson)]
      | none => []) ++
    [("outputMetadata", e.output.toJson),
      ("target", .obj [("name", .str e.target)]),
      ("action", .str e.action.name),
      ("requestPath", .str e.requestPath)])

end ObjectGateway
