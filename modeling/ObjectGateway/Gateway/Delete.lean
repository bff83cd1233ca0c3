import ObjectGateway.Gateway.Basic

/-!
# Removing objects

A path that names a file removes the object of its key.  Folders are never removed.
-/

namespace ObjectGateway.Gateway

open GatewayFlow

/-- Answer a request to remove the object of a path. -/
def remove (g : Gateway) (ctx : RequestContext) (path : String) : GatewayFlow Unit := do
  match g.rewrite ctx (g.startKey path) with
  | .error f => respond (failureOutcome f)
  | .ok key =>
    if isFolderPath path then respond (failureOutcome .removalFolder)
    else
      match ← delete key with
      | .error f => respond (failureOutcome f)
      | .ok info =>
        dispatch ⟨.delete, g.name, path, none, info⟩
        respond (.removed key)

end ObjectGateway.Gateway
