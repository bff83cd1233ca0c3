import ObjectGateway.Gateway.Effect
import ObjectGateway.Store.Memory

/-!
# Recorded runs

A surrounding for gateways that answers nobody: calls go to a store in memory, and events and
answers are kept in the order in which they come.
-/

namespace ObjectGateway

/-- An answer that was recorded. -/
inductive Recorded
  /-- A file with its content, if there is one, and its type. -/
  | file (body : Option Bytes) (contentType : String)
  | outcome (o : Outcome)
  deriving Repr, DecidableEq

/-- What has been recorded. -/
structure Recording where
  store : MemoryStore
  events : List HookEvent
  answers : List Recorded
  deriving Repr, DecidableEq

namespace Recording

/-- Record a file; a stream that breaks off is a failure and records nothing. -/
def sendFile (r : Recording) (f : FileAnswer) : Answer Unit × Recording :=
  match f.body with
  | none => (.ok (), { r with answers := r.answers ++ [.file none f.metadata.contentType] })
  | some stream =>
    match stream.collect with
    | .ok bs =>
      (.ok (), { r with answers := r.answers ++ [.file (some bs) f.metadata.contentType] })
    | .error reason => (.error (.internal reason), r)

/-- Reply to whatever a gateway asks for. -/
def reply (e : Effect) (r : Recording) : e.Reply × Recording :=
  match e with
  | .store c =>
    let (x, s) := r.store.reply c
    (x, { r with store := s })
  | .dispatch event => ((), { r with events := r.events ++ [event] })
  | .sendFile f => r.sendFile f
  | .respond o => ((), { r with answers := r.answers ++ [.outcome o] })

/-- Reply, and keep what is recorded. -/
def handle (e : GatewayInterface.Op) : StateM Recording (GatewayInterface.Reply e) :=
  fun r => reply e r

/-- Run a flow of a gateway. -/
def run {α : Type} (flow : GatewayFlow α) (r : Recording) : α × Recording :=
  flow.run handle r

end Recording

end ObjectGateway
