import ObjectGateway.Hook.Call

/-!
# Delivery of events

Events wait in a bounded queue, together with the hooks that were in force when they came, until a
worker delivers them.  An event is told in two steps: its hooks are looked up, while the queue is
open, and then the batch is offered to the queue, which may be full.  Closing the queue keeps later
events out, and what is in it is still delivered.
-/

namespace ObjectGateway

/-- The hooks of a target, for each action. -/
structure ActionHooks where
  get : List Hook
  put : List Hook
  delete : List Hook
  deriving Repr, DecidableEq

namespace ActionHooks

/-- The hooks of a configured target. -/
def ofTarget (surroundings : Surroundings) (t : TargetConfig) : Answer ActionHooks := do
  let get ← t.actions.getWebhooks.mapM (Hook.ofConfig surroundings)
  let put ← t.actions.putWebhooks.mapM (Hook.ofConfig surroundings)
  let delete ← t.actions.deleteWebhooks.mapM (Hook.ofConfig surroundings)
  return ⟨get, put, delete⟩

/-- The hooks that are told of an action.  Those of reads are told of questions as well. -/
def forAction (h : ActionHooks) : HookAction → List Hook
  | .get | .head => h.get
  | .put => h.put
  | .delete => h.delete

end ActionHooks

/-- The hooks of all targets, by their names. -/
abbrev HookTable := TextMap ActionHooks

namespace HookTable

/-- The hooks of configured targets, by the names of the targets. -/
def prepare (surroundings : Surroundings) (ts : List TargetConfig) :
    Answer (List (String × ActionHooks)) :=
  ts.mapM fun t => (ActionHooks.ofTarget surroundings t).map (t.name, ·)

/-- Put the hooks of targets in force, unless one of them cannot be prepared.  Hooks of other
targets are dropped. -/
def load (surroundings : Surroundings) (ts : List TargetConfig) (table : HookTable) :
    Answer Unit × HookTable :=
  match prepare surroundings ts with
  | .error f => (.error f, table)
  | .ok hooks => (.ok (), (TextMap.retain (ts.map (·.name)) table).insertAll hooks)

/-- The hooks that are told of an event; none for an unknown target. -/
def hooksFor (table : HookTable) (e : HookEvent) : List Hook :=
  (TextMap.get? e.target table).elim [] (·.forAction e.action)

end HookTable

/-- Where the delivery of events is. -/
structure HookQueue where
  table : HookTable
  /-- How many batches the queue holds. -/
  capacity : Nat
  /-- How many batches are delivered at a time. -/
  workers : Nat
  isOpen : Bool
  /-- Batches that are about to be offered to the queue. -/
  offered : List HookBatch
  waiting : List HookBatch
  /-- Batches that workers have taken. -/
  taken : List HookBatch
  /-- What has been counted, first to last. -/
  counts : List Count
  deriving Repr, DecidableEq

namespace HookQueue

/-- Nothing is loaded and nothing waits. -/
def start (workers capacity : Nat) : HookQueue :=
  ⟨[], Nat.max capacity 1, Nat.max workers 1, true, [], [], [], []⟩

/-- Count something. -/
def count (m : HookQueue) (cs : List Count) : HookQueue :=
  { m with counts := m.counts ++ cs }

/-- Put the hooks of targets in force, unless one of them cannot be prepared. -/
def load (m : HookQueue) (surroundings : Surroundings) (ts : List TargetConfig) :
    Answer Unit × HookQueue :=
  let (result, table) := HookTable.load surroundings ts m.table
  (result, { m with table := table })

/-- Look up the hooks for an event.  Without hooks there is nothing to do, and when the queue is
closed all of them fail. -/
def look (m : HookQueue) (e : HookEvent) : HookQueue :=
  let batch : HookBatch := ⟨e, m.table.hooksFor e⟩
  if batch.hooks.isEmpty then m
  else if m.isOpen then { m with offered := m.offered ++ [batch] }
  else m.count batch.refusals

/-- Put a batch into the queue, or let its hooks fail when the queue is full. -/
def enqueue (m : HookQueue) (b : HookBatch) : HookQueue :=
  if m.waiting.length < m.capacity then { m with waiting := m.waiting ++ [b] }
  else m.count b.refusals

/-- Offer one of the batches that are about to be offered. -/
def offer (m : HookQueue) (i : Nat) : HookQueue :=
  match m.offered[i]? with
  | some b => ({ m with offered := m.offered.eraseIdx i } : HookQueue).enqueue b
  | none => m

/-- Tell an event at once. -/
def dispatch (m : HookQueue) (e : HookEvent) : HookQueue :=
  let n := m.offered.length
  (m.look e).offer n

/-- Let a free worker take the first batch of the queue. -/
def take (m : HookQueue) : HookQueue :=
  match m.waiting with
  | b :: rest =>
    if m.taken.length < m.workers then { m with waiting := rest, taken := m.taken ++ [b] } else m
  | [] => m

/-- Finish the delivery of a batch that was taken. -/
def finish (m : HookQueue) (i : Nat) (cs : List Count) : HookQueue :=
  ({ m with taken := m.taken.eraseIdx i } : HookQueue).count cs

/-- Close the queue. -/
def close (m : HookQueue) : HookQueue := { m with isOpen := false }

/-- Deliver batches one after the other, and yield what was counted. -/
def deliverAll : List HookBatch → DeliveryFlow Unit
  | [] => return
  | b :: rest => do
    b.deliver
    deliverAll rest

/-- Close the queue and deliver what is in it, one batch after the other. -/
def shutdown (m : HookQueue) : DeliveryFlow HookQueue := do
  deliverAll m.waiting
  return { m.close with waiting := [] }

/-- What is shown in place of the queue. -/
def sketch (m : HookQueue) : String :=
  "WebhookManager \x7b targets: " ++ toString m.table.length ++ ", running: " ++
    toString m.isOpen ++ ", .. \x7d"

end HookQueue

end ObjectGateway
