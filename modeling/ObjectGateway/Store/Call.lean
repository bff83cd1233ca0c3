import ObjectGateway.Failure
import ObjectGateway.Flow
import ObjectGateway.Store.Object
import ObjectGateway.Timespan.Basic

/-!
# Calls of a store

What can be asked of the store behind a target, and what it replies.
-/

namespace ObjectGateway

/-- A call of a store. -/
inductive StoreCall
  /-- The direct children below a start of keys, folders first. -/
  | list (keyPrefix : String)
  | head (key : String)
  | get (key : String) (conditions : GetConditions)
  | put (request : PutRequest)
  | delete (key : String)
  /-- An address from which an object can be read for some time. -/
  | signedUrl (key : String) (conditions : GetConditions) (expiration : Timespan)
  deriving Repr, DecidableEq

namespace StoreCall

/-- The reply to a call. -/
abbrev Reply : StoreCall → Type
  | list _ => Answer (List Descriptor × ResultInfo)
  | head _ => Answer (HeadOutput × ResultInfo)
  | get _ _ => Answer (GetOutput × ResultInfo)
  | put _ => Answer ResultInfo
  | delete _ => Answer ResultInfo
  | signedUrl _ _ _ => Answer String

/-- The key, or the start of keys, that a call is about. -/
def key : StoreCall → String
  | list p => p
  | head k => k
  | get k _ => k
  | put r => r.key
  | delete k => k
  | signedUrl k _ _ => k

/-- The name of the operation. -/
def operation : StoreCall → String
  | list _ => "list"
  | head _ => "head"
  | get _ _ => "get"
  | put _ => "put"
  | delete _ => "delete"
  | signedUrl _ _ _ => "signed_url"

/-- A call as it is recorded. -/
def label (c : StoreCall) : String := c.operation ++ " " ++ c.key

/-- A reply that is a failure. -/
def fail (c : StoreCall) (f : Failure) : c.Reply :=
  match c with
  | list _ => .error f
  | head _ => .error f
  | get _ _ => .error f
  | put _ => .error f
  | delete _ => .error f
  | signedUrl _ _ _ => .error f

/-- Whether a reply is no failure. -/
def succeeded (c : StoreCall) : c.Reply → Bool :=
  match c with
  | list _ => Except.toBool
  | head _ => Except.toBool
  | get _ _ => Except.toBool
  | put _ => Except.toBool
  | delete _ => Except.toBool
  | signedUrl _ _ _ => Except.toBool

end StoreCall

/-- The interface of one store. -/
abbrev StoreInterface : Interface := ⟨StoreCall, StoreCall.Reply⟩

/-- The text of an object whose content was opened. -/
def readText (key : String) (body : ObjectStream) : Answer String :=
  match body.collect with
  | .error _ => .error (.internal ("read object " ++ key))
  | .ok bytes =>
    match Text.Utf8.decode? bytes with
    | some s => .ok s
    | none => .error (.internal ("object " ++ key ++ " is not valid UTF-8"))

/-- Read an object as text. -/
def readObject (key : String) : Flow StoreInterface (Answer String) :=
  .call (.get key .none) fun reply =>
    match reply with
    | .error f => .done (.error f)
    | .ok (output, _) => .done (readText key output.body)

end ObjectGateway
