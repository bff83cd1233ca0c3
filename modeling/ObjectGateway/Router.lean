import ObjectGateway.Config.Basic
import ObjectGateway.Text.Split

/-!
# Routing

A request belongs to the target with the best mount: one bound to the host of the request before one
that is bound to none, then the longest path, then the first in the configuration.
-/

namespace ObjectGateway

/-- A host without its port. -/
def hostWithoutPort (cs : List Char) : List Char :=
  match cs with
  | '[' :: _ =>
    match Text.splitOnce ']' cs with
    | some (before, _) => before ++ [']']
    | none => cs
  | _ => cs.takeWhile (· ≠ ':')

/-- Whether two hosts are the same, apart from their ports and the case of ASCII letters. -/
def sameHost (h k : String) : Bool :=
  (hostWithoutPort h.toList).map Char.toLower == (hostWithoutPort k.toList).map Char.toLower

/-- A target and a mount path that match a request. -/
structure Candidate (α : Type) where
  target : α
  /-- Whether the target is bound to the host of the request. -/
  hostBound : Bool
  mountPath : String
  deriving Repr, DecidableEq

namespace Candidate

variable {α : Type}

/-- Whether a candidate is better than another. -/
def better (c d : Candidate α) : Bool :=
  if c.hostBound == d.hostBound then decide (d.mountPath.toList.length < c.mountPath.toList.length)
  else c.hostBound

/-- The best candidate so far and one more; the earlier of two equally good ones stays. -/
def choose (best : Option (Candidate α)) (c : Candidate α) : Option (Candidate α) :=
  match best with
  | none => some c
  | some b => if c.better b then some c else some b

/-- The best of some candidates. -/
def best (cs : List (Candidate α)) : Option (Candidate α) :=
  cs.foldl choose none

end Candidate

/-- Whether a mount accepts a host, and if so whether it is bound to it. -/
def Mount.acceptsHost? (m : Mount) (host : Option String) : Option Bool :=
  match m.host with
  | none => some false
  | some wanted => if host.elim false (sameHost · wanted) then some true else none

/-- The mounts of a target that match a request. -/
def Mount.candidates {α : Type} (target : α) (m : Mount) (host : Option String)
    (path : List Char) : List (Candidate α) :=
  match m.acceptsHost? host with
  | none => []
  | some bound =>
    (m.paths.filter fun p => p.toList.isPrefixOf path).map fun p => ⟨target, bound, p⟩

/-- Where a request goes. -/
structure Route (α : Type) where
  target : α
  mountPath : String
  /-- The path below the mount, with its escapes and a slash in front. -/
  rawPath : String
  deriving Repr, DecidableEq

/-- The target and the path below its mount that a request goes to. -/
def route {α : Type} (mountOf : α → Mount) (targets : List α) (host : Option String)
    (path : String) : Option (Route α) :=
  (Candidate.best (targets.flatMap fun t => (mountOf t).candidates t host path.toList)).map
    fun c => ⟨c.target, c.mountPath,
      String.ofList (path.toList.drop (c.mountPath.toList.length - 1))⟩

end ObjectGateway
