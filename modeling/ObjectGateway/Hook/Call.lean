import ObjectGateway.Config.Secret
import ObjectGateway.Flow
import ObjectGateway.Hook.Event
import ObjectGateway.Http.Header
import ObjectGateway.Metrics

/-!
# Hooks

A hook is a call that is made after an action: a method, an address and headers that are the same
every time, and the event as the body.  An attempt that gets no answer is repeated after a wait that
doubles up to a limit; any answer ends the attempts.

The double of a wait is never too long here.  Where spans are bounded, doubling one of `2 ^ 63`
seconds or more would abort the delivery, but only once that wait is over.
-/

namespace ObjectGateway

/-- A hook that is ready to be called. -/
structure Hook where
  url : String
  method : String
  /-- The headers by their names in lower case. -/
  headers : TextMap String
  /-- How many times an attempt is repeated. -/
  retryCount : Nat
  /-- The first wait. -/
  wait : Timespan
  /-- The longest wait. -/
  longestWait : Timespan
  deriving Repr, DecidableEq

namespace Hook

/-- Put a configured header into a map. -/
def addHeader (m : TextMap String) (name value : String) : Answer (TextMap String) :=
  let key := Text.asciiLower name
  if !Http.isName name then
    .error (.config ("invalid webhook header name " ++ name ++ ": invalid HTTP header name"))
  else if !Http.isValue (Text.Utf8.encode value) then
    .error (.config ("invalid webhook header value for " ++ key ++
      ": failed to parse header value"))
  else .ok (m.insert key value)

/-- The method of a hook in upper case. -/
def readMethod (w : Webhook) : Answer String :=
  let method := Text.asciiUpper w.method
  if Http.isToken method then .ok method
  else .error (.config ("webhook " ++ w.url ++ ": invalid HTTP method"))

/-- The headers of a hook.  A secret header replaces one that is not secret, and the type of the
body replaces both. -/
def readHeaders (surroundings : Surroundings) (w : Webhook) : Answer (TextMap String) := do
  let plain : TextMap String ←
    w.headers.foldlM (fun m (name, value) => addHeader m name value) ([] : TextMap String)
  let all : TextMap String ← w.secretHeaders.foldlM (fun m (name, secret) => do
    addHeader m name (← secret.resolve surroundings)) plain
  return all.insert "content-type" "application/json"

/-- The hook of a configuration. -/
def ofConfig (surroundings : Surroundings) (w : Webhook) : Answer Hook := do
  let (wait, longestWait) ← w.retryWaits
  let method ← readMethod w
  let headers ← readHeaders surroundings w
  return ⟨w.url, method, headers, w.retryCount, wait, longestWait⟩

end Hook

/-- A single attempt to call a hook. -/
structure HookAttempt where
  url : String
  method : String
  headers : TextMap String
  body : Bytes
  deriving Repr, DecidableEq

/-- What a delivery asks for. -/
inductive DeliveryEffect
  | attempt (a : HookAttempt)
  | pause (t : Timespan)
  | count (c : Count)
  deriving Repr, DecidableEq

/-- What a delivery gets back: the status of an answer, or nothing where none came. -/
def DeliveryEffect.Reply : DeliveryEffect → Type
  | attempt _ => Option Nat
  | pause _ => Unit
  | count _ => Unit

/-- The interface of deliveries. -/
def DeliveryInterface : Interface := ⟨DeliveryEffect, DeliveryEffect.Reply⟩

/-- A flow that delivers events. -/
abbrev DeliveryFlow := Flow DeliveryInterface

namespace DeliveryFlow

/-- Make an attempt. -/
def attempt (a : HookAttempt) : DeliveryFlow (Option Nat) :=
  .ask (I := DeliveryInterface) (.attempt a)

/-- Wait. -/
def pause (t : Timespan) : DeliveryFlow Unit := .ask (I := DeliveryInterface) (.pause t)

/-- Count something. -/
def count (c : Count) : DeliveryFlow Unit := .ask (I := DeliveryInterface) (.count c)

end DeliveryFlow

namespace Hook

/-- The attempt to send a body. -/
def attempt (h : Hook) (body : Bytes) : HookAttempt := ⟨h.url, h.method, h.headers, body⟩

/-- The wait that follows a wait. -/
def nextWait (h : Hook) (t : Timespan) : Timespan :=
  ⟨Nat.min (2 * t.nanos) h.longestWait.nanos⟩

/-- Send a body with so many repetitions left. -/
def sendWith (h : Hook) (body : Bytes) : Nat → Timespan → DeliveryFlow (Option Nat)
  | 0, _ => DeliveryFlow.attempt (h.attempt body)
  | n + 1, wait => do
    match ← DeliveryFlow.attempt (h.attempt body) with
    | some status => return some status
    | none =>
      DeliveryFlow.pause wait
      h.sendWith body n (h.nextWait wait)

/-- Send a body; yields the status of the answer, or nothing when no attempt got one. -/
def send (h : Hook) (body : Bytes) : DeliveryFlow (Option Nat) :=
  h.sendWith body h.retryCount h.wait

/-- Whether what came of a call means that all is well. -/
def succeeded : Option Nat → Bool
  | some status => status < 400
  | none => false

end Hook

/-- An event with the hooks that were in force when it was told. -/
structure HookBatch where
  event : HookEvent
  hooks : List Hook
  deriving Repr, DecidableEq

namespace HookBatch

/-- The counter of a call. -/
def outcome (b : HookBatch) (ok : Bool) : Count :=
  if ok then .hookSucceeded b.event.target b.event.action.name
  else .hookFailed b.event.target b.event.action.name

/-- The body that every hook is sent. -/
def body (b : HookBatch) : Bytes := Text.Utf8.encode b.event.body.compact

/-- Call hooks one after the other, and count what comes of each. -/
def deliverTo (b : HookBatch) : List Hook → DeliveryFlow Unit
  | [] => return
  | h :: rest => do
    let status ← h.send b.body
    DeliveryFlow.count (b.outcome (Hook.succeeded status))
    b.deliverTo rest

/-- Call all hooks. -/
def deliver (b : HookBatch) : DeliveryFlow Unit := b.deliverTo b.hooks

/-- What is counted when a batch is refused: a failure for each hook. -/
def refusals (b : HookBatch) : List Count :=
  b.hooks.map fun _ => b.outcome false

end HookBatch

end ObjectGateway
