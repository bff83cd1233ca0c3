import Mathlib.Data.List.Forall2
import ObjectGateway.Hook.Call
import ObjectGateway.Proofs.Conversation

/-!
# Attempts to call hooks

The whole conversation of a delivery, by the replies that come.  Hooks are called one after the
other, whatever came of those before; the attempts to call one differ in nothing but the reply, and
only one that has no answer is repeated.  `HookBatch.calls_of_delivery` says so of every delivery,
and that every choice of replies which ends each call in this way is the choice of some delivery.
-/

namespace ObjectGateway

namespace Hook

/-- The replies to the attempts of one call, which may be repeated so many times. -/
structure Tried (retries : Nat) (replies : List (Option Nat)) : Prop where
  nonempty : replies ≠ []
  bounded : replies.length ≤ retries + 1
  /-- Only an attempt without an answer is repeated. -/
  repeated : ∀ reply ∈ replies.dropLast, reply = none
  /-- A call ends without an answer only when no repetition is left. -/
  exhausted : replies.getLast? = some none → replies.length = retries + 1

/-- The attempts to send a body, with the waits between them. -/
def attempts (h : Hook) (body : Bytes) : Timespan → List (Option Nat) →
    Conversation DeliveryInterface
  | _, [] => []
  | _, [reply] => [⟨.attempt ⟨h.url, h.method, h.headers, body⟩, reply⟩]
  | wait, reply :: next :: rest =>
    ⟨.attempt ⟨h.url, h.method, h.headers, body⟩, reply⟩ :: ⟨.pause wait, ()⟩ ::
      h.attempts body (h.nextWait wait) (next :: rest)

variable {replies rest : List (Option Nat)} {n : Nat}

theorem tried_zero_iff : Tried 0 replies ↔ ∃ reply, replies = [reply] := by
  constructor
  · intro h
    have hpos : 0 < replies.length := List.length_pos_iff.2 h.nonempty
    exact List.length_eq_one_iff.1 (Nat.le_antisymm h.bounded hpos)
  · rintro ⟨reply, rfl⟩
    exact ⟨by simp, by simp, by simp, by simp⟩

/-- An answer ends a call. -/
theorem tried_answered (n status : Nat) : Tried n [some status] :=
  ⟨by simp, by simp, by simp, by simp⟩

theorem Tried.again (h : Tried n rest) : Tried (n + 1) (none :: rest) where
  nonempty := by simp
  bounded := by simpa using h.bounded
  repeated := by
    rw [List.dropLast_cons_of_ne_nil h.nonempty]
    simpa using h.repeated
  exhausted := by
    rw [List.getLast?_cons_of_ne_nil h.nonempty]
    simpa using h.exhausted

/-- A call that may be repeated has an answer at once, or is left with one repetition less. -/
theorem Tried.cases (h : Tried (n + 1) replies) :
    (∃ status, replies = [some status]) ∨ ∃ rest, replies = none :: rest ∧ Tried n rest := by
  match replies, h with
  | [some status], _ => exact .inl ⟨status, rfl⟩
  | [none], h => exact absurd (h.exhausted rfl) (by simp)
  | reply :: next :: rest, h =>
    obtain ⟨hreply, hrepeated⟩ : reply = none ∧ ∀ r ∈ (next :: rest).dropLast, r = none := by
      simpa using h.repeated
    refine .inr ⟨next :: rest, by rw [hreply], by simp, by simpa using h.bounded, hrepeated, ?_⟩
    simpa using h.exhausted

theorem attempts_again {h : Hook} {body : Bytes} {wait : Timespan} {reply : Option Nat}
    (hrest : rest ≠ []) :
    h.attempts body wait (reply :: rest) =
      ⟨.attempt (h.attempt body), reply⟩ :: ⟨.pause wait, ()⟩ ::
        h.attempts body (h.nextWait wait) rest := by
  obtain ⟨next, later, rfl⟩ := List.exists_cons_of_ne_nil hrest
  rfl

/-- An attempt that may be repeated is the last one if it is answered, and is followed by a wait
otherwise. -/
theorem sendWith_succ_runs_iff {h : Hook} {body : Bytes} {wait : Timespan}
    {t : Conversation DeliveryInterface} {result : Option Nat} :
    (h.sendWith body (n + 1) wait).Runs t result ↔
      (∃ status, result = some status ∧ t = [⟨.attempt (h.attempt body), some status⟩]) ∨
      ∃ u, (h.sendWith body n (h.nextWait wait)).Runs u result ∧
        t = ⟨.attempt (h.attempt body), none⟩ :: ⟨.pause wait, ()⟩ :: u := by
  rw [sendWith, Flow.runs_monad_bind_iff]
  constructor
  · rintro ⟨reply, t₁, t₂, hattempt, hafter, rfl⟩
    obtain rfl := Flow.runs_ask_iff.1 hattempt
    cases reply with
    | some status =>
      obtain ⟨rfl, rfl⟩ := Flow.runs_pure_iff.1 hafter
      exact .inl ⟨status, rfl, rfl⟩
    | none =>
      obtain ⟨⟨⟩, t₃, t₄, hpause, hagain, rfl⟩ := Flow.runs_monad_bind_iff.1 hafter
      obtain rfl := Flow.runs_ask_iff.1 hpause
      exact .inr ⟨t₄, hagain, rfl⟩
  · rintro (⟨status, rfl, rfl⟩ | ⟨u, hagain, rfl⟩)
    · exact ⟨some status, _, [], Flow.runs_ask_iff.2 rfl, .done _, rfl⟩
    · refine ⟨none, _, _, Flow.runs_ask_iff.2 rfl, Flow.runs_monad_bind_iff.2 ?_, rfl⟩
      exact ⟨(), _, u, Flow.runs_ask_iff.2 rfl, hagain, rfl⟩

/-- What a call asks for is determined by the replies, and it yields the last of them. -/
theorem sendWith_runs_iff {h : Hook} {body : Bytes} {wait : Timespan}
    {t : Conversation DeliveryInterface} {result : Option Nat} :
    (h.sendWith body n wait).Runs t result ↔
      ∃ replies, Tried n replies ∧ replies.getLast? = some result ∧
        t = h.attempts body wait replies := by
  induction n generalizing wait t with
  | zero =>
    constructor
    · intro hattempt
      obtain rfl := Flow.runs_ask_iff.1 hattempt
      exact ⟨[result], tried_zero_iff.2 ⟨result, rfl⟩, rfl, rfl⟩
    · rintro ⟨replies, htried, hlast, rfl⟩
      obtain ⟨reply, rfl⟩ := tried_zero_iff.1 htried
      obtain rfl : reply = result := by simpa using hlast
      exact Flow.runs_ask_iff.2 rfl
  | succ n ih =>
    rw [sendWith_succ_runs_iff]
    constructor
    · rintro (⟨status, rfl, rfl⟩ | ⟨u, hagain, rfl⟩)
      · exact ⟨[some status], tried_answered _ status, rfl, rfl⟩
      · obtain ⟨replies, htried, hlast, rfl⟩ := ih.1 hagain
        refine ⟨none :: replies, htried.again, ?_, (attempts_again htried.nonempty).symm⟩
        rw [List.getLast?_cons_of_ne_nil htried.nonempty, hlast]
    · rintro ⟨replies, htried, hlast, rfl⟩
      obtain ⟨status, rfl⟩ | ⟨rest, rfl, hrest⟩ := htried.cases
      · exact .inl ⟨status, by simpa using hlast.symm, rfl⟩
      · rw [List.getLast?_cons_of_ne_nil hrest.nonempty] at hlast
        exact .inr ⟨_, ih.2 ⟨rest, hrest, hlast, rfl⟩, attempts_again hrest.nonempty⟩

end Hook

namespace HookBatch

/-- What is counted for a hook of the batch by the last reply to it. -/
def verdict (b : HookBatch) : Option Nat → Count
  | some status =>
    if status < 400 then .hookSucceeded b.event.target b.event.action.name
    else .hookFailed b.event.target b.event.action.name
  | none => .hookFailed b.event.target b.event.action.name

theorem outcome_succeeded (b : HookBatch) (reply : Option Nat) :
    b.outcome (Hook.succeeded reply) = b.verdict reply := by
  cases reply with
  | none => rfl
  | some status =>
    by_cases h : status < 400
    · simp [outcome, Hook.succeeded, verdict, h]
    · simp [outcome, Hook.succeeded, verdict, h]

/-- The call of one hook of the batch: all attempts to send it the event, and then one count. -/
def call (b : HookBatch) (h : Hook) (replies : List (Option Nat)) :
    Conversation DeliveryInterface :=
  h.attempts (Text.Utf8.encode b.event.body.compact) h.wait replies ++
    [⟨.count (b.verdict replies.getLast?.join), ()⟩]

/-- One call, before those that follow it. -/
theorem call_runs_iff {b : HookBatch} {h : Hook} {rest : List Hook}
    {t : Conversation DeliveryInterface} :
    (b.deliverTo (h :: rest)).Runs t () ↔
      ∃ replies u, Hook.Tried h.retryCount replies ∧ (b.deliverTo rest).Runs u () ∧
        t = b.call h replies ++ u := by
  rw [deliverTo, Flow.runs_monad_bind_iff]
  constructor
  · rintro ⟨result, t₁, t₂, hsend, hafter, rfl⟩
    obtain ⟨⟨⟩, t₃, t₄, hcount, hrest, rfl⟩ := Flow.runs_monad_bind_iff.1 hafter
    obtain rfl := Flow.runs_ask_iff.1 hcount
    obtain ⟨replies, htried, hlast, rfl⟩ := Hook.sendWith_runs_iff.1 hsend
    refine ⟨replies, t₄, htried, hrest, ?_⟩
    rw [call, hlast, Option.join_some, outcome_succeeded, List.append_assoc]
    rfl
  · rintro ⟨replies, u, htried, hrest, rfl⟩
    obtain ⟨result, hlast⟩ : ∃ result, replies.getLast? = some result :=
      ⟨_, List.getLast?_eq_some_getLast htried.nonempty⟩
    refine ⟨result, _, _, Hook.sendWith_runs_iff.2 ⟨replies, htried, hlast, rfl⟩,
      Flow.runs_monad_bind_iff.2 ⟨(), _, u, Flow.runs_ask_iff.2 rfl, hrest, rfl⟩, ?_⟩
    rw [call, hlast, Option.join_some, outcome_succeeded, List.append_assoc]
    rfl

theorem deliverTo_runs_iff {b : HookBatch} {hooks : List Hook}
    {t : Conversation DeliveryInterface} :
    (b.deliverTo hooks).Runs t () ↔
      ∃ replies, List.Forall₂ (fun h : Hook => Hook.Tried h.retryCount) hooks replies ∧
        t = (List.zipWith b.call hooks replies).flatten := by
  induction hooks generalizing t with
  | nil =>
    rw [deliverTo, Flow.runs_pure_iff]
    constructor
    · rintro ⟨rfl, -⟩
      exact ⟨[], .nil, rfl⟩
    · rintro ⟨_, ⟨⟩, rfl⟩
      exact ⟨rfl, rfl⟩
  | cons h rest ih =>
    rw [call_runs_iff]
    constructor
    · rintro ⟨replies, u, htried, hrest, rfl⟩
      obtain ⟨later, hlater, rfl⟩ := ih.1 hrest
      exact ⟨replies :: later, .cons htried hlater, rfl⟩
    · rintro ⟨_, hreplies, rfl⟩
      cases hreplies with
      | cons htried hlater => exact ⟨_, _, htried, ih.2 ⟨_, hlater, rfl⟩, rfl⟩

/-- A delivery calls every hook of its batch, one after the other: each is sent the event until an
answer comes or no repetition is left, and is counted once, as a success where the last reply is a
status below 400 and as a failure otherwise. -/
theorem calls_of_delivery (b : HookBatch) (t : Conversation DeliveryInterface) :
    b.deliver.Runs t () ↔
      ∃ replies, List.Forall₂ (fun h : Hook => Hook.Tried h.retryCount) b.hooks replies ∧
        t = (List.zipWith b.call b.hooks replies).flatten :=
  deliverTo_runs_iff

end HookBatch

end ObjectGateway
