import Mathlib.Algebra.GroupWithZero.Nat
import ObjectGateway.Proofs.Hook.Attempts

/-!
# Deliveries of batches

What a delivery counts, whatever the hooks answer: `HookBatch.counts_deliver` says that it counts
one success or failure for each hook of the batch, in order, and `settled_deliver` what that adds to
the counters of a target and an action.
-/

namespace ObjectGateway

namespace Conversation

/-- What is counted in a delivery. -/
def counts (t : Conversation DeliveryInterface) : List Count :=
  t.filterMap fun
    | ⟨.count c, _⟩ => some c
    | _ => none

/-- The attempts that are made in a delivery. -/
def attempts (t : Conversation DeliveryInterface) : List HookAttempt :=
  t.filterMap fun
    | ⟨.attempt a, _⟩ => some a
    | _ => none

theorem counts_append (t u : Conversation DeliveryInterface) :
    counts (t ++ u) = counts t ++ counts u := List.filterMap_append

end Conversation

/-- How many hooks are counted for a target and an action, succeeded or failed. -/
def settled (counts : List Count) (target : String) (action : HookAction) : Nat :=
  counts.count (.hookSucceeded target action.name) + counts.count (.hookFailed target action.name)

theorem settled_append (cs ds : List Count) (target : String) (action : HookAction) :
    settled (cs ++ ds) target action = settled cs target action + settled ds target action := by
  simp only [settled, List.count_append]
  omega

theorem settled_perm {cs ds : List Count} (h : cs.Perm ds) (target : String)
    (action : HookAction) : settled cs target action = settled ds target action := by
  simp only [settled, h.count_eq]

theorem settled_flatMap {α : Type} (l : List α) (f : α → List Count) (target : String)
    (action : HookAction) :
    settled (l.flatMap f) target action = (l.map fun a => settled (f a) target action).sum := by
  induction l with
  | nil => rfl
  | cons a rest ih => rw [List.flatMap_cons, settled_append, ih, List.map_cons, List.sum_cons]

theorem HookAction.name_inj {a b : HookAction} : a.name = b.name ↔ a = b := by
  cases a <;> cases b <;> decide

/-- Attempts and waits count nothing, however often an attempt is repeated. -/
theorem Hook.counts_attempts (h : Hook) (body : Bytes) (wait : Timespan)
    (replies : List (Option Nat)) : Conversation.counts (h.attempts body wait replies) = [] := by
  fun_induction Hook.attempts h body wait replies with
  | case1 wait => rfl
  | case2 wait reply => rfl
  | case3 wait reply next rest ih => exact ih

namespace HookBatch

variable {b : HookBatch} {t : Conversation DeliveryInterface}

theorem counts_call (b : HookBatch) (h : Hook) (replies : List (Option Nat)) :
    Conversation.counts (b.call h replies) =
      [b.outcome (Hook.succeeded replies.getLast?.join)] := by
  rw [call, Conversation.counts_append, Hook.counts_attempts, outcome_succeeded]
  rfl

theorem counts_calls {hooks : List Hook} {replies : List (List (Option Nat))}
    (h : List.Forall₂ (fun h : Hook => Hook.Tried h.retryCount) hooks replies) :
    Conversation.counts (List.zipWith b.call hooks replies).flatten =
      (replies.map fun r => Hook.succeeded r.getLast?.join).map b.outcome := by
  induction h with
  | nil => rfl
  | cons _ _ ih =>
    rw [List.zipWith_cons_cons, List.flatten_cons, Conversation.counts_append, counts_call, ih]
    rfl

/-- A delivery counts one result for each hook, in order. -/
theorem counts_deliver (hrun : b.deliver.Runs t ()) :
    ∃ results : List Bool, results.length = b.hooks.length ∧
      t.counts = results.map b.outcome := by
  obtain ⟨replies, hreplies, rfl⟩ := deliverTo_runs_iff.1 hrun
  exact ⟨_, by rw [List.length_map, hreplies.length_eq], counts_calls hreplies⟩

/-- How many of the hooks of a batch are hooks of a target and an action. -/
def weight (b : HookBatch) (target : String) (action : HookAction) : Nat :=
  if b.event.target = target ∧ b.event.action = action then b.hooks.length else 0

/-- Results are counted for the target and the action of the event, and for no others. -/
theorem settled_outcomes (b : HookBatch) (results : List Bool) (target : String)
    (action : HookAction) :
    settled (results.map b.outcome) target action =
      if b.event.target = target ∧ b.event.action = action then results.length else 0 := by
  induction results with
  | nil => simp [settled]
  | cons ok rest ih =>
    rw [List.map_cons, ← List.singleton_append, settled_append, ih]
    have hone : settled [b.outcome ok] target action =
        if b.event.target = target ∧ b.event.action = action then 1 else 0 := by
      cases ok <;>
        simp [settled, outcome, List.count_singleton, HookAction.name_inj]
    rw [hone]
    split
    · rw [List.length_cons]
      omega
    · rfl

theorem settled_deliver (hrun : b.deliver.Runs t ()) (target : String) (action : HookAction) :
    settled t.counts target action = b.weight target action := by
  obtain ⟨results, hlength, hcounts⟩ := counts_deliver hrun
  rw [hcounts, settled_outcomes, hlength, weight]

theorem refusals_eq (b : HookBatch) :
    b.refusals = List.replicate b.hooks.length
      (.hookFailed b.event.target b.event.action.name) := by
  rw [refusals, ← List.map_const']
  rfl

theorem settled_refusals (b : HookBatch) (target : String) (action : HookAction) :
    settled b.refusals target action = b.weight target action := by
  have hresults : b.refusals = (b.hooks.map fun _ => false).map b.outcome := by
    rw [List.map_map]
    rfl
  rw [hresults, settled_outcomes, List.length_map, weight]

end HookBatch

end ObjectGateway
