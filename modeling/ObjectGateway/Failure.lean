/-!
# Failures

What can go wrong while a request is answered.  `notFound`, `notModified` and
`preconditionFailed` are expected answers of a store; `removalFolder` and `objectExists` refuse a
request that the configuration does not allow; everything else is opaque to the client.  `aborted`
is no answer at all: the program gives up where a text is cut inside a character.
-/

namespace ObjectGateway

/-- Why an operation failed. -/
inductive Failure
  | notFound
  | notModified
  | preconditionFailed
  | removalFolder
  | objectExists (key : String)
  | badRequest (reason : String)
  | config (reason : String)
  | template (reason : String)
  | internal (reason : String)
  | aborted
  deriving Repr, DecidableEq, Inhabited

namespace Failure

/-- The text shown for a failure. -/
def message : Failure → String
  | notFound => "not found"
  | notModified => "not modified"
  | preconditionFailed => "precondition failed"
  | removalFolder => "can't remove folder"
  | objectExists key =>
    "file detected on path " ++ key ++ " for PUT request and override isn't allowed"
  | badRequest reason => "bad request: " ++ reason
  | config reason => "configuration error: " ++ reason
  | template reason => "template error: " ++ reason
  | internal reason => reason
  | aborted => "text cut inside a character"

end Failure

/-- The result of an operation that may fail. -/
abbrev Answer (α : Type) := Except Failure α

end ObjectGateway
