import Mathlib.Data.List.Nodup
import Mathlib.Data.List.Perm.Basic
import Mathlib.Data.List.Perm.Subperm
import ObjectGateway.Hook.Queue
import ObjectGateway.Proofs.Hook.Delivery

/-!
# The pool of workers behind the queue

Events are told, configurations are loaded, workers deliver batches and the pool is shut down, all
at the same time.  A step below is what one of them does without another one in between.  Telling an
event takes three steps: its hooks are read, the queue is reached for, and the batch is offered to
it; a batch that has reached the queue while it was open can still be offered after it was closed,
and no worker stops as long as there is one.

`HookPool.settled_of_shutDown` says that in the end each hook that an event was to be told to has
been counted once, and that each batch which entered the queue has been delivered by one worker.
-/

namespace ObjectGateway

namespace HookQueue

/-- Reach for the queue with a batch whose hooks have been looked up. -/
def reach (m : HookQueue) (b : HookBatch) : HookQueue :=
  if m.isOpen then { m with offered := m.offered ++ [b] } else m.count b.refusals

variable {m : HookQueue} {b : HookBatch} {i : Nat}

theorem reach_of_open (h : m.isOpen = true) :
    m.reach b = { m with offered := m.offered ++ [b] } := if_pos h

theorem reach_of_closed (h : m.isOpen = false) : m.reach b = m.count b.refusals :=
  if_neg (by simp [h])

theorem offer_of_room (hb : m.offered[i]? = some b) (h : m.waiting.length < m.capacity) :
    m.offer i = { m with offered := m.offered.eraseIdx i, waiting := m.waiting ++ [b] } := by
  simp only [offer, hb, enqueue, if_pos h]

theorem offer_of_full (hb : m.offered[i]? = some b) (h : ¬m.waiting.length < m.capacity) :
    m.offer i = ({ m with offered := m.offered.eraseIdx i } : HookQueue).count b.refusals := by
  simp only [offer, hb, enqueue, if_neg h]

theorem take_of_waiting {rest : List HookBatch} (hb : m.waiting = b :: rest)
    (h : m.taken.length < m.workers) :
    m.take = { m with waiting := rest, taken := m.taken ++ [b] } := by
  simp only [take, hb, if_pos h]

end HookQueue

/-- How many hooks are in force for an action of a target.  Those of reads are told of questions as
well, and an unknown target has none. -/
def HookTable.due (table : HookTable) (target : String) (action : HookAction) : Nat :=
  match TextMap.get? target table with
  | none => 0
  | some hooks =>
    match action with
    | .get | .head => hooks.get.length
    | .put => hooks.put.length
    | .delete => hooks.delete.length

theorem HookTable.length_hooksFor (table : HookTable) (e : HookEvent) :
    (table.hooksFor e).length = table.due e.target e.action := by
  unfold hooksFor due
  cases TextMap.get? e.target table with
  | none => rfl
  | some hooks => cases e.action <;> rfl

/-- A batch in the hands of a worker, by its number among those that entered the queue. -/
structure Hand where
  worker : Nat
  number : Nat
  deriving Repr, DecidableEq

/-- A delivery that has ended: who made it, of which batch, and what happened in it. -/
structure Delivery where
  worker : Nat
  number : Nat
  record : Conversation DeliveryInterface

/-- A queue with its workers, and what has happened so far. -/
structure HookPool where
  queue : HookQueue
  /-- Batches whose hooks have been read and that have not reached for the queue yet. -/
  reading : List HookBatch
  /-- The workers that deliver something, in the order of the batches that are taken. -/
  hands : List Hand
  /-- The workers that have stopped. -/
  stopped : List Nat
  /-- The events that were told, with the hooks in force at that time. -/
  told : List (HookEvent × HookTable)
  /-- The batches that entered the queue. -/
  queued : List HookBatch
  /-- The batches that were kept out of the queue. -/
  refused : List HookBatch
  deliveries : List Delivery
  /-- The attempts that were made over the network. -/
  attempts : List HookAttempt

namespace HookPool

/-- All workers wait, and nothing has happened. -/
def start (workers capacity : Nat) : HookPool :=
  ⟨.start workers capacity, [], [], [], [], [], [], [], []⟩

/-- How many batches workers have begun to deliver. -/
def begun (p : HookPool) : Nat := p.hands.length + p.deliveries.length

/-- A worker that waits for a batch. -/
def IsFree (p : HookPool) (worker : Nat) : Prop :=
  worker < p.queue.workers ∧ worker ∉ p.hands.map (·.worker) ∧ worker ∉ p.stopped

/-- All workers have stopped, so that nobody listens to the queue any more. -/
def IsDeserted (p : HookPool) : Prop := ∀ worker < p.queue.workers, worker ∈ p.stopped

/-- The shutdown is complete: the queue is closed and all workers have stopped. -/
def IsShutDown (p : HookPool) : Prop := p.queue.isOpen = false ∧ p.IsDeserted

/-- No event is being told: none has read its hooks or holds the queue without having offered. -/
def IsQuiet (p : HookPool) : Prop := p.reading = [] ∧ p.queue.offered = []

/-- One step of one of those who use the pool. -/
inductive Step : HookPool → HookPool → Prop
  | load (p : HookPool) (surroundings : Surroundings) (ts : List TargetConfig) :
    Step p { p with queue := (p.queue.load surroundings ts).2 }
  /-- No hook is to be told of an event. -/
  | ignore (p : HookPool) (e : HookEvent) (hnone : p.queue.table.hooksFor e = []) :
    Step p { p with told := p.told ++ [(e, p.queue.table)] }
  /-- The hooks for an event are read. -/
  | read (p : HookPool) (e : HookEvent) (hsome : p.queue.table.hooksFor e ≠ []) :
    Step p { p with
      told := p.told ++ [(e, p.queue.table)]
      reading := p.reading ++ [⟨e, p.queue.table.hooksFor e⟩] }
  /-- A batch reaches the open queue. -/
  | reach (p : HookPool) (i : Nat) (b : HookBatch) (hb : p.reading[i]? = some b)
      (hopen : p.queue.isOpen = true) :
    Step p { p with reading := p.reading.eraseIdx i, queue := p.queue.reach b }
  /-- A batch finds the queue closed. -/
  | late (p : HookPool) (i : Nat) (b : HookBatch) (hb : p.reading[i]? = some b)
      (hclosed : p.queue.isOpen = false) :
    Step p { p with
      reading := p.reading.eraseIdx i, queue := p.queue.reach b, refused := p.refused ++ [b] }
  /-- A batch that is offered finds room. -/
  | enter (p : HookPool) (i : Nat) (b : HookBatch) (hb : p.queue.offered[i]? = some b)
      (hlistened : ¬p.IsDeserted) (hroom : p.queue.waiting.length < p.queue.capacity) :
    Step p { p with queue := p.queue.offer i, queued := p.queued ++ [b] }
  /-- A batch that is offered finds the queue full. -/
  | full (p : HookPool) (i : Nat) (b : HookBatch) (hb : p.queue.offered[i]? = some b)
      (hlistened : ¬p.IsDeserted) (hfull : ¬p.queue.waiting.length < p.queue.capacity) :
    Step p { p with queue := p.queue.offer i, refused := p.refused ++ [b] }
  /-- A batch that is offered finds nobody who listens. -/
  | unheard (p : HookPool) (i : Nat) (b : HookBatch) (hb : p.queue.offered[i]? = some b)
      (hdeserted : p.IsDeserted) :
    Step p { p with
      queue := ({ p.queue with offered := p.queue.offered.eraseIdx i } : HookQueue).count b.refusals
      refused := p.refused ++ [b] }
  /-- A free worker takes the first batch of the queue. -/
  | take (p : HookPool) (worker : Nat) (b : HookBatch) (rest : List HookBatch)
      (hfree : p.IsFree worker) (hb : p.queue.waiting = b :: rest) :
    Step p { p with queue := p.queue.take, hands := p.hands ++ [⟨worker, p.begun⟩] }
  /-- A worker ends a delivery, in which the hooks may have answered anything. -/
  | finish (p : HookPool) (i : Nat) (hand : Hand) (b : HookBatch)
      (t : Conversation DeliveryInterface) (hhand : p.hands[i]? = some hand)
      (hb : p.queue.taken[i]? = some b) (hrun : b.deliver.Runs t ()) :
    Step p { p with
      queue := p.queue.finish i t.counts
      hands := p.hands.eraseIdx i
      deliveries := p.deliveries ++ [⟨hand.worker, hand.number, t⟩]
      attempts := p.attempts ++ t.attempts }
  /-- The shutdown closes the queue. -/
  | close (p : HookPool) : Step p { p with queue := p.queue.close }
  /-- A free worker stops once the queue is closed and nothing can come out of it any more. -/
  | stop (p : HookPool) (worker : Nat) (hfree : p.IsFree worker)
      (hclosed : p.queue.isOpen = false) (hoffered : p.queue.offered = [])
      (hwaiting : p.queue.waiting = []) :
    Step p { p with stopped := p.stopped ++ [worker] }

/-- What a pool can come to. -/
inductive Reachable (workers capacity : Nat) : HookPool → Prop
  | start : Reachable workers capacity (start workers capacity)
  | step {p q : HookPool} (h : Reachable workers capacity p) (hstep : Step p q) :
    Reachable workers capacity q

/-! ## Positions in lists -/

section Lists

variable {α β : Type} {l : List α} {a : α} {i : Nat}

theorem perm_cons_eraseIdx (h : l[i]? = some a) : l.Perm (a :: l.eraseIdx i) := by
  obtain ⟨hi, rfl⟩ := List.getElem?_eq_some_iff.1 h
  exact (List.getElem_cons_eraseIdx_perm hi).symm

/-- An element that leaves one list for another. -/
theorem count_move [DecidableEq α] (h : l[i]? = some a) (m : List α) (c : α) :
    (l.eraseIdx i).count c + (m ++ [a]).count c = l.count c + m.count c := by
  rw [(perm_cons_eraseIdx h).count_eq, List.count_append, List.count_singleton, List.count_cons]
  omega

theorem forall₂_eraseIdx {R : α → β → Prop} {m : List β} (h : List.Forall₂ R l m) (i : Nat) :
    List.Forall₂ R (l.eraseIdx i) (m.eraseIdx i) := by
  induction h generalizing i with
  | nil => exact .nil
  | cons hab hrest ih =>
    cases i with
    | zero => exact hrest
    | succ i => exact .cons hab (ih i)

theorem forall₂_getElem? {R : α → β → Prop} {m : List β} {b : β} (h : List.Forall₂ R l m)
    (ha : l[i]? = some a) (hb : m[i]? = some b) : R a b := by
  obtain ⟨hi, rfl⟩ := List.getElem?_eq_some_iff.1 ha
  obtain ⟨hi', rfl⟩ := List.getElem?_eq_some_iff.1 hb
  exact h.get hi hi'

end Lists

/-! ## The workers -/

/-- Each worker has one batch in hand, waits, or has stopped; and none stops before the queue is
closed and empty and no batch can be offered to it any more. -/
structure Staffed (p : HookPool) : Prop where
  workers : 1 ≤ p.queue.workers
  nodup : (p.hands.map (·.worker) ++ p.stopped).Nodup
  lt : ∀ w ∈ p.hands.map (·.worker) ++ p.stopped, w < p.queue.workers
  taken : p.queue.taken.length = p.hands.length
  drained : p.stopped ≠ [] →
    p.queue.isOpen = false ∧ p.queue.offered = [] ∧ p.queue.waiting = []

theorem staffed_start (workers capacity : Nat) : (start workers capacity).Staffed where
  workers := Nat.le_max_right _ _
  nodup := .nil
  lt _ hw := by cases hw
  taken := rfl
  drained h := absurd rfl h

namespace Staffed

variable {p q : HookPool} {i worker : Nat} {b : HookBatch}

/-- While a batch can be offered, no worker has stopped. -/
theorem stopped_of_offered (h : p.Staffed) (hb : p.queue.offered[i]? = some b) :
    p.stopped = [] := by
  by_contra hne
  rw [(h.drained hne).2.1] at hb
  cases hb

/-- While a batch waits, no worker has stopped. -/
theorem stopped_of_waiting {rest : List HookBatch} (h : p.Staffed)
    (hb : p.queue.waiting = b :: rest) : p.stopped = [] := by
  by_contra hne
  rw [(h.drained hne).2.2] at hb
  cases hb

/-- A free worker is one more than those that have something in hand or have stopped. -/
theorem add_free (h : p.Staffed) (hfree : p.IsFree worker) :
    (p.hands.map (·.worker) ++ p.stopped ++ [worker]).Nodup ∧
      ∀ w ∈ p.hands.map (·.worker) ++ p.stopped ++ [worker], w < p.queue.workers := by
  obtain ⟨hworker, hidle, hrunning⟩ := hfree
  constructor
  · refine List.nodup_append.2 ⟨h.nodup, List.nodup_singleton _, fun w hw w' hw' hww' => ?_⟩
    rw [List.mem_singleton.1 hw'] at hww'
    exact (List.mem_append.1 (hww' ▸ hw)).elim hidle hrunning
  · intro w hw
    rcases List.mem_append.1 hw with hw | hw
    · exact h.lt w hw
    · rw [List.mem_singleton.1 hw]
      exact hworker

theorem taken_lt (h : p.Staffed) (hfree : p.IsFree worker) :
    p.queue.taken.length < p.queue.workers := by
  obtain ⟨hnodup, hlt⟩ := h.add_free hfree
  have hlength := (hnodup.subperm fun w hw => List.mem_range.2 (hlt w hw)).length_le
  simp only [List.length_append, List.length_map, List.length_singleton, List.length_range]
    at hlength
  rw [h.taken]
  omega

theorem step (h : p.Staffed) (hstep : Step p q) : q.Staffed := by
  cases hstep with
  -- Those who load and tell leave the workers alone.
  | load w ts => exact ⟨h.workers, h.nodup, h.lt, h.taken, h.drained⟩
  | ignore e _ => exact ⟨h.workers, h.nodup, h.lt, h.taken, h.drained⟩
  | read e _ => exact ⟨h.workers, h.nodup, h.lt, h.taken, h.drained⟩
  | reach i b _ hopen =>
    rw [HookQueue.reach_of_open hopen]
    refine ⟨h.workers, h.nodup, h.lt, h.taken, fun hne => ?_⟩
    have hclosed := (h.drained hne).1
    rw [hopen] at hclosed
    cases hclosed
  | late i b _ hclosed =>
    rw [HookQueue.reach_of_closed hclosed]
    exact ⟨h.workers, h.nodup, h.lt, h.taken, h.drained⟩
  -- A batch that is offered holds the queue, so no worker has stopped before it enters.
  | enter i b hb _ hroom =>
    rw [HookQueue.offer_of_room hb hroom]
    exact ⟨h.workers, h.nodup, h.lt, h.taken, fun hne => absurd (h.stopped_of_offered hb) hne⟩
  | full i b hb _ hfull =>
    rw [HookQueue.offer_of_full hb hfull]
    exact ⟨h.workers, h.nodup, h.lt, h.taken, fun hne => absurd (h.stopped_of_offered hb) hne⟩
  | unheard i b hb _ =>
    exact ⟨h.workers, h.nodup, h.lt, h.taken, fun hne => absurd (h.stopped_of_offered hb) hne⟩
  | take worker b rest hfree hb =>
    rw [HookQueue.take_of_waiting hb (h.taken_lt hfree)]
    have hnone := h.stopped_of_waiting hb
    have hadd := h.add_free hfree
    rw [hnone, List.append_nil] at hadd
    have hhands : (p.hands ++ [Hand.mk worker p.begun]).map (·.worker) ++ p.stopped =
        p.hands.map (·.worker) ++ [worker] := by
      rw [hnone, List.append_nil, List.map_append, List.map_singleton]
    rw [← hhands] at hadd
    exact ⟨h.workers, hadd.1, hadd.2, by simp [h.taken], fun hne => absurd hnone hne⟩
  | finish i hand b t hhand hb hrun =>
    have hsub : ((p.hands.eraseIdx i).map (·.worker) ++ p.stopped).Sublist
        (p.hands.map (·.worker) ++ p.stopped) :=
      ((List.eraseIdx_sublist ..).map _).append (List.Sublist.refl _)
    refine ⟨h.workers, h.nodup.sublist hsub, fun w hw => h.lt w (hsub.subset hw), ?_, h.drained⟩
    simp only [HookQueue.finish, HookQueue.count, List.length_eraseIdx, h.taken]
  | close => exact ⟨h.workers, h.nodup, h.lt, h.taken, fun hne => ⟨rfl, (h.drained hne).2⟩⟩
  | stop worker hfree hclosed hoffered hwaiting =>
    have hadd := h.add_free hfree
    rw [List.append_assoc] at hadd
    exact ⟨h.workers, hadd.1, hadd.2, h.taken, fun _ => ⟨hclosed, hoffered, hwaiting⟩⟩

end Staffed

/-! ## The batches that entered the queue -/

/-- Batches are taken in the order in which they entered the queue, and each that was taken is in
one hand or in one delivery. -/
structure Numbered (p : HookPool) : Prop where
  taken : List.Forall₂ (fun hand b => p.queued[hand.number]? = some b) p.hands p.queue.taken
  numbers : (p.hands.map (·.number) ++ p.deliveries.map (·.number)).Perm (List.range p.begun)
  length : p.begun + p.queue.waiting.length = p.queued.length
  waiting : p.queued.drop p.begun = p.queue.waiting
  delivered : ∀ d ∈ p.deliveries, d.worker < p.queue.workers ∧
    ∃ b, p.queued[d.number]? = some b ∧ b.deliver.Runs d.record ()

theorem numbered_start (workers capacity : Nat) : (start workers capacity).Numbered where
  taken := .nil
  numbers := .nil
  length := rfl
  waiting := rfl
  delivered _ hd := by cases hd

namespace Numbered

variable {p q : HookPool}

/-- The batch that enters the queue comes last. -/
theorem enter (h : p.Numbered) (i : Nat) (b : HookBatch) :
    Numbered { p with
      queue := { p.queue with
        offered := p.queue.offered.eraseIdx i, waiting := p.queue.waiting ++ [b] }
      queued := p.queued ++ [b] } := by
  have hlength := h.length
  have hkeep : ∀ {n : Nat} {c : HookBatch}, p.queued[n]? = some c →
      (p.queued ++ [b])[n]? = some c := fun hc => by
    rw [List.getElem?_append_left (List.getElem?_eq_some_iff.1 hc).1, hc]
  refine ⟨h.taken.imp fun _ _ hc => hkeep hc, h.numbers, ?_, ?_, fun d hd => ?_⟩
  · show p.begun + (p.queue.waiting ++ [b]).length = (p.queued ++ [b]).length
    simp only [List.length_append]
    omega
  · show (p.queued ++ [b]).drop p.begun = p.queue.waiting ++ [b]
    rw [List.drop_append_of_le_length (by omega), h.waiting]
  · obtain ⟨hworker, c, hc, hrun⟩ := h.delivered d hd
    exact ⟨hworker, c, hkeep hc, hrun⟩

/-- The first batch that waits has as its number how many deliveries have begun. -/
theorem take {b : HookBatch} {rest : List HookBatch} (h : p.Numbered)
    (hb : p.queue.waiting = b :: rest) (worker : Nat) :
    Numbered { p with
      queue := { p.queue with waiting := rest, taken := p.queue.taken ++ [b] }
      hands := p.hands ++ [⟨worker, p.begun⟩] } := by
  have hlength := h.length
  have hwaiting := h.waiting
  rw [hb] at hlength hwaiting
  have hbegun :
      (p.hands ++ [Hand.mk worker p.begun]).length + p.deliveries.length = p.begun + 1 := by
    simp only [List.length_append, List.length_singleton, begun]
    omega
  refine ⟨?_, ?_, ?_, ?_, h.delivered⟩
  · refine List.rel_append h.taken (.cons ?_ .nil)
    have hfirst : (p.queued.drop p.begun)[0]? = some b := by rw [hwaiting]; rfl
    rwa [List.getElem?_drop, Nat.add_zero] at hfirst
  · show ((p.hands ++ [Hand.mk worker p.begun]).map (·.number) ++ _).Perm
      (List.range ((p.hands ++ [Hand.mk worker p.begun]).length + p.deliveries.length))
    rw [hbegun, List.range_succ, List.map_append, List.append_assoc]
    exact (List.perm_append_comm.append_left _).trans
      (by rw [← List.append_assoc]; exact h.numbers.append_right _)
  · show (p.hands ++ [Hand.mk worker p.begun]).length + p.deliveries.length + rest.length =
      p.queued.length
    rw [hbegun]
    rw [List.length_cons] at hlength
    omega
  · show p.queued.drop
      ((p.hands ++ [Hand.mk worker p.begun]).length + p.deliveries.length) = rest
    rw [hbegun, ← List.drop_drop, hwaiting, List.drop_one, List.tail_cons]

/-- A delivery has the number of the batch that the worker had in hand. -/
theorem finish {i : Nat} {hand : Hand} {b : HookBatch} {t : Conversation DeliveryInterface}
    (h : p.Numbered) (hhand : p.hands[i]? = some hand) (hb : p.queue.taken[i]? = some b)
    (hworker : hand.worker < p.queue.workers) (hrun : b.deliver.Runs t ()) :
    Numbered { p with
      queue := p.queue.finish i t.counts
      hands := p.hands.eraseIdx i
      deliveries := p.deliveries ++ [⟨hand.worker, hand.number, t⟩]
      attempts := p.attempts ++ t.attempts } := by
  have hi := (List.getElem?_eq_some_iff.1 hhand).1
  have hbegun : (p.hands.eraseIdx i).length +
      (p.deliveries ++ [Delivery.mk hand.worker hand.number t]).length = p.begun := by
    simp only [List.length_eraseIdx, if_pos hi, List.length_append, List.length_singleton, begun]
    omega
  refine ⟨forall₂_eraseIdx h.taken i, ?_, ?_, ?_, fun d hd => ?_⟩
  · show ((p.hands.eraseIdx i).map (·.number) ++
      (p.deliveries ++ [Delivery.mk hand.worker hand.number t]).map (·.number)).Perm
        (List.range ((p.hands.eraseIdx i).length +
          (p.deliveries ++ [Delivery.mk hand.worker hand.number t]).length))
    rw [hbegun]
    refine List.Perm.trans ?_ h.numbers
    have hhands := (perm_cons_eraseIdx hhand).map (·.number)
    refine List.Perm.trans ?_ (hhands.symm.append_right _)
    rw [List.map_append, ← List.append_assoc]
    exact List.perm_append_singleton _ _
  · show (p.hands.eraseIdx i).length + (p.deliveries ++ [_]).length + _ = _
    rw [hbegun]
    exact h.length
  · show p.queued.drop ((p.hands.eraseIdx i).length + (p.deliveries ++ [_]).length) = _
    rw [hbegun]
    exact h.waiting
  · rcases List.mem_append.1 hd with hd | hd
    · exact h.delivered d hd
    · rw [List.mem_singleton.1 hd]
      have hqueued : p.queued[hand.number]? = some b :=
        forall₂_getElem? (R := fun hand b => p.queued[hand.number]? = some b) h.taken hhand hb
      exact ⟨hworker, b, hqueued, hrun⟩

theorem step (h : p.Numbered) (hstaffed : p.Staffed) (hstep : Step p q) : q.Numbered := by
  cases hstep with
  | load w ts => exact ⟨h.taken, h.numbers, h.length, h.waiting, h.delivered⟩
  | ignore e _ => exact ⟨h.taken, h.numbers, h.length, h.waiting, h.delivered⟩
  | read e _ => exact ⟨h.taken, h.numbers, h.length, h.waiting, h.delivered⟩
  | reach i b _ hopen =>
    rw [HookQueue.reach_of_open hopen]
    exact ⟨h.taken, h.numbers, h.length, h.waiting, h.delivered⟩
  | late i b _ hclosed =>
    rw [HookQueue.reach_of_closed hclosed]
    exact ⟨h.taken, h.numbers, h.length, h.waiting, h.delivered⟩
  | enter i b hb _ hroom =>
    rw [HookQueue.offer_of_room hb hroom]
    exact h.enter i b
  | full i b hb _ hfull =>
    rw [HookQueue.offer_of_full hb hfull]
    exact ⟨h.taken, h.numbers, h.length, h.waiting, h.delivered⟩
  | unheard i b hb _ => exact ⟨h.taken, h.numbers, h.length, h.waiting, h.delivered⟩
  | take worker b rest hfree hb =>
    rw [HookQueue.take_of_waiting hb (hstaffed.taken_lt hfree)]
    exact h.take hb worker
  | finish i hand b t hhand hb hrun =>
    have hmem : hand.worker ∈ p.hands.map (·.worker) :=
      List.mem_map_of_mem (List.mem_of_getElem? hhand)
    exact h.finish hhand hb (hstaffed.lt _ (List.mem_append_left _ hmem)) hrun
  | close => exact ⟨h.taken, h.numbers, h.length, h.waiting, h.delivered⟩
  | stop worker _ _ _ _ => exact ⟨h.taken, h.numbers, h.length, h.waiting, h.delivered⟩

end Numbered

/-! ## What is counted -/

/-- The batches of the events that were told, without those that have no hooks. -/
def batches (p : HookPool) : List HookBatch :=
  (p.told.map fun e => ⟨e.1, e.2.hooksFor e.1⟩).filter fun b => b.hooks ≠ []

/-- Each batch is on its way to the queue, has entered it or was kept out of it; what was counted is
what deliveries counted and one failure for each hook of a batch that was kept out; and only
deliveries used the network. -/
structure Accounted (p : HookPool) : Prop where
  batches : ∀ b, p.batches.count b =
    p.reading.count b + p.queue.offered.count b + p.queued.count b + p.refused.count b
  counts : p.queue.counts.Perm
    (p.deliveries.flatMap (·.record.counts) ++ p.refused.flatMap (·.refusals))
  attempts : p.attempts = p.deliveries.flatMap (·.record.attempts)

theorem accounted_start (workers capacity : Nat) : (start workers capacity).Accounted where
  batches _ := rfl
  counts := .nil
  attempts := rfl

namespace Accounted

variable {p q : HookPool}

/-- The hooks of a batch that is refused fail. -/
theorem counts_refuse (h : p.Accounted) (b : HookBatch) :
    (p.queue.counts ++ b.refusals).Perm (p.deliveries.flatMap (·.record.counts) ++
      (p.refused ++ [b]).flatMap (·.refusals)) := by
  rw [List.flatMap_append, List.flatMap_singleton, ← List.append_assoc]
  exact h.counts.append_right _

/-- A batch that is offered and kept out of the queue. -/
theorem count_refuse {i : Nat} {b : HookBatch} (h : p.Accounted)
    (hb : p.queue.offered[i]? = some b) (c : HookBatch) :
    p.batches.count c = p.reading.count c + (p.queue.offered.eraseIdx i).count c +
      p.queued.count c + (p.refused ++ [b]).count c := by
  have hbefore := h.batches c
  have hmove := count_move hb p.refused c
  omega

theorem step (h : p.Accounted) (hstaffed : p.Staffed) (hstep : Step p q) : q.Accounted := by
  cases hstep with
  | load w ts => exact ⟨h.batches, h.counts, h.attempts⟩
  | ignore e hnone =>
    refine ⟨fun c => ?_, h.counts, h.attempts⟩
    have hbefore := h.batches c
    simpa [HookPool.batches, hnone] using hbefore
  | read e hsome =>
    refine ⟨fun c => ?_, h.counts, h.attempts⟩
    have hbefore := h.batches c
    simp only [HookPool.batches, List.map_append, List.filter_append, List.map_cons, List.map_nil,
      List.count_append] at hbefore ⊢
    rw [List.filter_cons_of_pos (by simpa using hsome), List.filter_nil]
    omega
  -- In the cases that follow a batch leaves one list for another.
  | reach i b hb hopen =>
    rw [HookQueue.reach_of_open hopen]
    refine ⟨fun c => ?_, h.counts, h.attempts⟩
    have hbefore := h.batches c
    have hmove := count_move hb p.queue.offered c
    show p.batches.count c = (p.reading.eraseIdx i).count c + (p.queue.offered ++ [b]).count c +
      p.queued.count c + p.refused.count c
    omega
  | late i b hb hclosed =>
    rw [HookQueue.reach_of_closed hclosed]
    refine ⟨fun c => ?_, h.counts_refuse b, h.attempts⟩
    have hbefore := h.batches c
    have hmove := count_move hb p.refused c
    show p.batches.count c = (p.reading.eraseIdx i).count c + p.queue.offered.count c +
      p.queued.count c + (p.refused ++ [b]).count c
    omega
  | enter i b hb _ hroom =>
    rw [HookQueue.offer_of_room hb hroom]
    refine ⟨fun c => ?_, h.counts, h.attempts⟩
    have hbefore := h.batches c
    have hmove := count_move hb p.queued c
    show p.batches.count c = p.reading.count c + (p.queue.offered.eraseIdx i).count c +
      (p.queued ++ [b]).count c + p.refused.count c
    omega
  | full i b hb _ hfull =>
    rw [HookQueue.offer_of_full hb hfull]
    exact ⟨h.count_refuse hb, h.counts_refuse b, h.attempts⟩
  | unheard i b hb _ => exact ⟨h.count_refuse hb, h.counts_refuse b, h.attempts⟩
  | take worker b rest hfree hb =>
    rw [HookQueue.take_of_waiting hb (hstaffed.taken_lt hfree)]
    exact ⟨h.batches, h.counts, h.attempts⟩
  | finish i hand b t hhand hb hrun =>
    refine ⟨h.batches, ?_, ?_⟩
    · show (p.queue.counts ++ t.counts).Perm _
      rw [List.flatMap_append, List.flatMap_singleton, List.append_assoc]
      refine (h.counts.append_right _).trans ?_
      rw [List.append_assoc]
      exact List.perm_append_comm.append_left _
    · show p.attempts ++ t.attempts = _
      rw [List.flatMap_append, List.flatMap_singleton, h.attempts]
  | close => exact ⟨h.batches, h.counts, h.attempts⟩
  | stop worker _ _ _ _ => exact ⟨h.batches, h.counts, h.attempts⟩

end Accounted

/-! ## The end of a pool -/

section Shutdown

variable {p : HookPool} {workers capacity : Nat}

theorem Reachable.staffed (h : Reachable workers capacity p) : p.Staffed := by
  induction h with
  | start => exact staffed_start workers capacity
  | step _ hstep ih => exact ih.step hstep

theorem Reachable.numbered (h : Reachable workers capacity p) : p.Numbered := by
  induction h with
  | start => exact numbered_start workers capacity
  | step h hstep ih => exact ih.step h.staffed hstep

theorem Reachable.accounted (h : Reachable workers capacity p) : p.Accounted := by
  induction h with
  | start => exact accounted_start workers capacity
  | step h hstep ih => exact ih.step h.staffed hstep

/-- After the shutdown no worker has anything in hand, and nothing waits. -/
theorem Staffed.idle (h : p.Staffed) (hdown : p.IsShutDown) :
    p.hands = [] ∧ p.queue.waiting = [] := by
  constructor
  · by_contra hne
    obtain ⟨hand, rest, hhands⟩ := List.exists_cons_of_ne_nil hne
    have hmem : hand.worker ∈ p.hands.map (·.worker) := by
      rw [hhands]
      exact List.mem_cons_self
    have hstopped := hdown.2 _ (h.lt _ (List.mem_append_left _ hmem))
    exact (List.nodup_append.1 h.nodup).2.2 _ hmem _ hstopped rfl
  · exact (h.drained (List.ne_nil_of_mem (hdown.2 0 h.workers))).2.2

/-- After the shutdown each batch that entered the queue has one delivery. -/
theorem Numbered.numbers_of_shutDown (h : p.Numbered) (hstaffed : p.Staffed)
    (hdown : p.IsShutDown) :
    (p.deliveries.map (·.number)).Perm (List.range p.queued.length) := by
  obtain ⟨hhands, hwaiting⟩ := hstaffed.idle hdown
  have hnumbers := h.numbers
  have hlength := h.length
  rw [hwaiting, List.length_nil, Nat.add_zero] at hlength
  rwa [hhands, List.map_nil, List.nil_append, hlength] at hnumbers

/-- The hooks of a batch at a place in a list, none if there is no such place. -/
theorem map_range_getElem? {α : Type} (l : List α) (f : α → Nat) :
    (List.range l.length).map (fun n => (l[n]?).elim 0 f) = l.map f := by
  refine List.ext_getElem (by simp) fun n h _ => ?_
  simp only [List.length_map, List.length_range] at h
  simp [h]

/-- Deliveries of all batches of the queue count as many hooks as the batches have. -/
theorem Numbered.sum_settled (h : p.Numbered)
    (hnumbers : (p.deliveries.map (·.number)).Perm (List.range p.queued.length))
    (target : String) (action : HookAction) :
    (p.deliveries.map fun d => settled d.record.counts target action).sum =
      (p.queued.map fun b => b.weight target action).sum := by
  have hweights : (p.deliveries.map fun d => settled d.record.counts target action) =
      (p.deliveries.map (·.number)).map fun n =>
        (p.queued[n]?).elim 0 fun b => b.weight target action := by
    rw [List.map_map]
    refine List.map_congr_left fun d hd => ?_
    obtain ⟨-, b, hb, hrun⟩ := h.delivered d hd
    rw [HookBatch.settled_deliver hrun, Function.comp_apply, hb, Option.elim_some]
  rw [hweights, (hnumbers.map _).sum_nat, map_range_getElem?]

/-- The hooks of all batches are those that were in force for the events that were told. -/
theorem sum_batches (p : HookPool) (target : String) (action : HookAction) :
    (p.batches.map fun b => b.weight target action).sum =
      ((p.told.filter fun e => e.1.target = target ∧ e.1.action = action).map fun e =>
        e.2.due target action).sum := by
  unfold batches
  induction p.told with
  | nil => rfl
  | cons e rest ih =>
    have hdue := e.2.length_hooksFor e.1
    -- A batch without hooks is left out, and would weigh nothing.
    have hleft : ∀ (c : HookBatch) (cs : List HookBatch),
        (((c :: cs).filter fun b => b.hooks ≠ []).map fun b => b.weight target action).sum =
          c.weight target action +
            ((cs.filter fun b => b.hooks ≠ []).map fun b => b.weight target action).sum := by
      intro c cs
      by_cases hnone : c.hooks = []
      · simp [hnone, HookBatch.weight]
      · simp [hnone]
    rw [List.map_cons, hleft, ih]
    by_cases hmatch : e.1.target = target ∧ e.1.action = action
    · obtain ⟨rfl, rfl⟩ := hmatch
      simp [HookBatch.weight, hdue]
    · simp [HookBatch.weight, hmatch]

/-- After the shutdown, when no event is being told any more, each hook that was in force for an
event has been counted once: as many hooks of a target and an action have succeeded or failed as
there were hooks for the events of that target and action.  Each batch that entered the queue has
been delivered once, by one worker and to the hooks with which it was told; a batch that was kept
out has counted a failure for each of its hooks and nothing else, and only deliveries have used the
network. -/
theorem settled_of_shutDown (h : Reachable workers capacity p) (hdown : p.IsShutDown)
    (hquiet : p.IsQuiet) :
    (∀ target action, settled p.queue.counts target action =
      ((p.told.filter fun e => e.1.target = target ∧ e.1.action = action).map fun e =>
        e.2.due target action).sum) ∧
    p.batches.Perm (p.queued ++ p.refused) ∧
    (p.deliveries.map (·.number)).Perm (List.range p.queued.length) ∧
    (∀ d ∈ p.deliveries, d.worker < p.queue.workers ∧
      ∃ b, p.queued[d.number]? = some b ∧ b.deliver.Runs d.record ()) ∧
    p.queue.counts.Perm (p.deliveries.flatMap (·.record.counts) ++ p.refused.flatMap fun b =>
      List.replicate b.hooks.length (.hookFailed b.event.target b.event.action.name)) ∧
    p.attempts = p.deliveries.flatMap (·.record.attempts) := by
  have hnumbers := h.numbered.numbers_of_shutDown h.staffed hdown
  have hbatches : p.batches.Perm (p.queued ++ p.refused) := by
    refine List.perm_iff_count.2 fun b => ?_
    rw [h.accounted.batches b, hquiet.1, hquiet.2, List.count_append]
    simp
  have hcounts := h.accounted.counts
  refine ⟨fun target action => ?_, hbatches, hnumbers, h.numbered.delivered, ?_,
    h.accounted.attempts⟩
  · calc settled p.queue.counts target action
        = (p.deliveries.map fun d => settled d.record.counts target action).sum +
          (p.refused.map fun b => settled b.refusals target action).sum := by
          rw [settled_perm hcounts, settled_append, settled_flatMap, settled_flatMap]
      _ = ((p.queued ++ p.refused).map fun b => b.weight target action).sum := by
          rw [h.numbered.sum_settled hnumbers, List.map_append, List.sum_append]
          simp only [HookBatch.settled_refusals]
      _ = (p.batches.map fun b => b.weight target action).sum := (hbatches.symm.map _).sum_nat
      _ = _ := p.sum_batches target action
  · simpa only [HookBatch.refusals_eq] using hcounts

/-- One worker and room for one batch: one event is delivered, the hooks of a second one wait while
they are dropped from the configuration, a third one finds the queue full and a fourth one finds it
closed. -/
theorem settled_of_shutDown_docs :
    let hook : Hook := ⟨"http://h/", "POST", [("content-type", "application/json")], 0,
      .ofMillis 100, .ofSeconds 2⟩
    let table : HookTable := [("docs", ⟨[], [], [hook]⟩)]
    let e : HookEvent := ⟨.delete, "docs", "/a", none, ⟨"docs", "us-east-1", "", "a"⟩⟩
    let b : HookBatch := ⟨e, [hook]⟩
    let answered : Conversation DeliveryInterface :=
      [⟨.attempt (hook.attempt b.body), some 200⟩, ⟨.count (b.outcome true), ()⟩]
    let unanswered : Conversation DeliveryInterface :=
      [⟨.attempt (hook.attempt b.body), none⟩, ⟨.count (b.outcome false), ()⟩]
    let p : HookPool :=
      { queue := ⟨[], 1, 1, false, [], [], [],
          [b.outcome false, b.outcome true, b.outcome false, b.outcome false]⟩
        reading := [], hands := [], stopped := [0]
        told := [(e, table), (e, table), (e, table), (e, table), (e, [])]
        queued := [b, b], refused := [b, b]
        deliveries := [⟨0, 0, answered⟩, ⟨0, 1, unanswered⟩]
        attempts := [hook.attempt b.body, hook.attempt b.body] }
    Reachable 1 1 p ∧ p.IsShutDown ∧ p.IsQuiet ∧ settled p.queue.counts "docs" .delete = 4 := by
  intro hook table e b answered unanswered p
  let surroundings : Surroundings := ⟨[], ⟨[]⟩⟩
  let docs : TargetConfig :=
    { name := "docs", mount := ⟨none, ["/"]⟩,
      bucket := ⟨"docs", "", "us-east-1", none, none, false, 1000, ⟨[], [], [], []⟩⟩,
      rules := [], templates := ⟨[], .const none⟩,
      actions := ⟨none, none, some ⟨true, ⟨[⟨"http://h/", "post", [], [], 0, none, none⟩]⟩⟩⟩ }
  have hsome : table.hooksFor e ≠ [] := List.cons_ne_nil hook []
  have hlistened : ¬∀ worker < 1, worker ∈ ([] : List Nat) := fun h => by cases h 0 Nat.one_pos
  have hrun : ∀ status, b.deliver.Runs [⟨.attempt (hook.attempt b.body), status⟩,
      ⟨.count (b.outcome (Hook.succeeded status)), ()⟩] () := fun status =>
    Flow.runs_monad_bind_iff.2 ⟨status, [_], [_], Flow.runs_ask_iff.2 rfl,
      Flow.runs_monad_bind_iff.2 ⟨(), [_], [], Flow.runs_ask_iff.2 rfl,
        Flow.runs_pure_iff.2 ⟨rfl, rfl⟩, rfl⟩, rfl⟩
  -- The first event is told and taken by the worker.
  have hloaded : Reachable 1 1
      ⟨⟨table, 1, 1, true, [], [], [], []⟩, [], [], [], [], [], [], [], []⟩ :=
    .step .start (.load _ surroundings [docs])
  have htaken : Reachable 1 1
      ⟨⟨table, 1, 1, true, [], [], [b], []⟩, [], [⟨0, 0⟩], [], [(e, table)], [b], [], [], []⟩ :=
    .step (.step (.step (.step hloaded (.read _ e hsome)) (.reach _ 0 b rfl rfl))
      (.enter _ 0 b rfl hlistened Nat.one_pos))
      (.take _ 0 b [] ⟨Nat.one_pos, List.not_mem_nil, List.not_mem_nil⟩ rfl)
  -- Three more are told: one enters the queue, one finds it full and one is slow.
  have hread : Reachable 1 1
      ⟨⟨table, 1, 1, true, [], [], [b], []⟩, [b, b, b], [⟨0, 0⟩], [],
        [(e, table), (e, table), (e, table), (e, table)], [b], [], [], []⟩ :=
    .step (.step (.step htaken (.read _ e hsome)) (.read _ e hsome)) (.read _ e hsome)
  have hfull : Reachable 1 1
      ⟨⟨table, 1, 1, true, [], [b], [b], [b.outcome false]⟩, [b], [⟨0, 0⟩], [],
        [(e, table), (e, table), (e, table), (e, table)], [b, b], [b], [], []⟩ :=
    .step (.step (.step (.step hread (.reach _ 0 b rfl rfl))
      (.enter _ 0 b rfl hlistened Nat.one_pos)) (.reach _ 0 b rfl rfl))
      (.full _ 0 b rfl hlistened (Nat.lt_irrefl 1))
  -- The hooks are dropped, and the worker delivers both batches with the hooks that they have.
  have hdropped : Reachable 1 1
      ⟨⟨[], 1, 1, true, [], [b], [b], [b.outcome false]⟩, [b], [⟨0, 0⟩], [],
        [(e, table), (e, table), (e, table), (e, table), (e, [])], [b, b], [b], [], []⟩ :=
    .step (.step hfull (.load _ surroundings [])) (.ignore _ e rfl)
  have hdelivered : Reachable 1 1
      ⟨⟨[], 1, 1, true, [], [], [],
          [b.outcome false, b.outcome true, b.outcome false]⟩, [b], [], [],
        [(e, table), (e, table), (e, table), (e, table), (e, [])], [b, b], [b],
        [⟨0, 0, answered⟩, ⟨0, 1, unanswered⟩],
        [hook.attempt b.body, hook.attempt b.body]⟩ :=
    .step (.step (.step hdropped
      (.finish _ 0 ⟨0, 0⟩ b answered rfl rfl (hrun (some 200))))
      (.take _ 0 b [] ⟨Nat.one_pos, List.not_mem_nil, List.not_mem_nil⟩ rfl))
      (.finish _ 0 ⟨0, 1⟩ b unanswered rfl rfl (hrun none))
  -- The slow event finds the queue closed.
  have hreachable : Reachable 1 1 p :=
    .step (.step (.step hdelivered (.close _)) (.late _ 0 b rfl rfl))
      (.stop _ 0 ⟨Nat.one_pos, List.not_mem_nil, List.not_mem_nil⟩ rfl rfl rfl)
  have hdown : p.IsShutDown := ⟨rfl, fun w hw => by
    rw [Nat.lt_one_iff.1 hw]
    exact List.mem_singleton_self 0⟩
  exact ⟨hreachable, hdown, ⟨rfl, rfl⟩,
    (settled_of_shutDown hreachable hdown ⟨rfl, rfl⟩).1 "docs" .delete⟩

end Shutdown

end HookPool

end ObjectGateway
