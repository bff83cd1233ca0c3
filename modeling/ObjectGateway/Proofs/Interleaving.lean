import Mathlib.Data.List.Basic
import ObjectGateway.Proofs.Conversation

/-!
# Flows beside one another

Several flows that have their conversations with one server at the same time.  The server takes one
call at a time, and a schedule says whose call comes next; every order in which calls can come is a
schedule.

Two facts carry over from a single flow.  What one of the flows has said so far is the beginning of
a conversation that it can have, `Race.run_own`, and all exchanges together are those of the server,
`Race.run_serves`.
-/

namespace ObjectGateway

/-- Exchanges of several clients, each with the number of its client. -/
abbrev SharedConversation (I : Interface) := List (Nat × Exchange I)

/-- Flows that are under way, and what they have said to their server. -/
structure Race (I : Interface) (α σ : Type) where
  flows : List (Flow I α)
  state : σ
  exchanges : SharedConversation I

namespace SharedConversation

variable {I : Interface}

/-- What one of the clients has said. -/
def own (i : Nat) (trace : SharedConversation I) : Conversation I :=
  trace.filterMap fun e => if e.1 = i then some e.2 else none

/-- What the server has been asked for, whoever asked. -/
def whole (trace : SharedConversation I) : Conversation I := trace.map Prod.snd

@[simp] theorem own_nil (i : Nat) : own i ([] : SharedConversation I) = [] := rfl

theorem own_append (i : Nat) (trace rest : SharedConversation I) :
    own i (trace ++ rest) = own i trace ++ own i rest := List.filterMap_append

@[simp] theorem own_cons_self (i : Nat) (e : Exchange I) (rest : SharedConversation I) :
    own i ((i, e) :: rest) = e :: own i rest := by
  simp [own]

theorem own_singleton (i j : Nat) (e : Exchange I) :
    own i [(j, e)] = if j = i then [e] else [] := by
  unfold own
  split_ifs with hj
  · simp [hj]
  · simp [hj]

theorem mem_own_iff {i : Nat} {e : Exchange I} {trace : SharedConversation I} :
    e ∈ own i trace ↔ (i, e) ∈ trace := by
  rw [own, List.mem_filterMap]
  constructor
  · rintro ⟨⟨j, e'⟩, hmem, hsome⟩
    obtain ⟨rfl, rfl⟩ : j = i ∧ e' = e := by simpa using hsome
    exact hmem
  · intro hmem
    exact ⟨(i, e), hmem, by simp⟩

theorem whole_append (trace rest : SharedConversation I) :
    whole (trace ++ rest) = whole trace ++ whole rest := List.map_append

@[simp] theorem whole_cons (e : Nat × Exchange I) (rest : SharedConversation I) :
    whole (e :: rest) = e.2 :: whole rest := rfl

end SharedConversation

namespace Race

open SharedConversation (own whole)

variable {I : Interface} {α σ : Type}

/-- Nothing has been said yet. -/
def start (flows : List (Flow I α)) (s : σ) : Race I α σ := ⟨flows, s, []⟩

/-- One client makes its next call.  A client that has none, or that is not there, does nothing. -/
def turn (server : Server I σ) (race : Race I α σ) (i : Nat) : Race I α σ :=
  match race.flows[i]? with
  | some (.call op next) =>
    let answer := server op race.state
    { flows := race.flows.set i (next answer.1)
      state := answer.2
      exchanges := race.exchanges ++ [(i, ⟨op, answer.1⟩)] }
  | _ => race

/-- Clients make their calls in an order that is given. -/
def run (server : Server I σ) (race : Race I α σ) (schedule : List Nat) : Race I α σ :=
  schedule.foldl (turn server) race

/-- A turn is lost, or one call is answered. -/
theorem turn_cases (server : Server I σ) (race : Race I α σ) (i : Nat) :
    race.turn server i = race ∨
      ∃ op next, race.flows[i]? = some (.call op next) ∧
        race.turn server i =
          { flows := race.flows.set i (next (server op race.state).1)
            state := (server op race.state).2
            exchanges := race.exchanges ++ [(i, ⟨op, (server op race.state).1⟩)] } := by
  unfold turn
  split
  · rename_i op next hflow
    exact .inr ⟨op, next, hflow, rfl⟩
  · exact .inl rfl

/-- What every turn preserves, every schedule preserves. -/
theorem run_induction {server : Server I σ} {P : Race I α σ → Prop}
    (hturn : ∀ race i, P race → P (race.turn server i)) {race : Race I α σ} (hstart : P race)
    (schedule : List Nat) : P (race.run server schedule) := by
  induction schedule generalizing race with
  | nil => exact hstart
  | cons i schedule ih => exact ih (hturn race i hstart)

variable {server : Server I σ} {flows : List (Flow I α)} {s : σ}

/-- All exchanges together are those of the server. -/
theorem run_serves (schedule : List Nat) :
    Serves server s (whole ((start flows s).run server schedule).exchanges)
      ((start flows s).run server schedule).state := by
  have hstart : Serves server s (whole (start flows s).exchanges) (start flows s).state := rfl
  refine run_induction (P := fun race => Serves server s (whole race.exchanges) race.state)
    (fun race i h => ?_) hstart schedule
  rcases turn_cases server race i with hturn | ⟨op, next, -, hturn⟩
  · rwa [hturn]
  · rw [hturn, SharedConversation.whole_append]
    exact serves_append_iff.2 ⟨race.state, h, _, rfl, rfl⟩

/-- What is left of a flow continues what the flow has said. -/
def Continues (flows : List (Flow I α)) (race : Race I α σ) (i : Nat) : Prop :=
  match flows[i]? with
  | none => race.flows[i]? = none ∧ own i race.exchanges = []
  | some x => ∃ y, race.flows[i]? = some y ∧
      ∀ t a, y.Runs t a → x.Runs (own i race.exchanges ++ t) a

theorem Continues.turn {race : Race I α σ} {i : Nat} (h : Continues flows race i) (j : Nat) :
    Continues flows (race.turn server j) i := by
  rcases turn_cases server race j with hturn | ⟨op, next, hflow, hturn⟩
  · rwa [hturn]
  unfold Continues at h ⊢
  by_cases hj : j = i
  · subst hj
    cases hx : flows[j]? with
    | none =>
      obtain ⟨hnone, -⟩ : race.flows[j]? = none ∧ own j race.exchanges = [] := by
        simpa only [hx] using h
      rw [hflow] at hnone
      cases hnone
    | some x =>
      obtain ⟨y, hy, hruns⟩ : ∃ y, race.flows[j]? = some y ∧
          ∀ t a, y.Runs t a → x.Runs (own j race.exchanges ++ t) a := by simpa only [hx] using h
      obtain rfl : y = .call op next := by simpa [hflow] using hy.symm
      have hlt : j < race.flows.length := (List.getElem?_eq_some_iff.1 hflow).1
      refine ⟨next (server op race.state).1, ?_, fun t a hrest => ?_⟩
      · rw [hturn]
        exact List.getElem?_set_self hlt
      · rw [hturn, SharedConversation.own_append, SharedConversation.own_cons_self,
          SharedConversation.own_nil, List.append_assoc]
        exact hruns _ a (.call _ hrest)
  · -- The call of another client changes neither this flow nor what it has said.
    have hsame : (race.turn server j).flows[i]? = race.flows[i]? := by
      rw [hturn]
      exact List.getElem?_set_ne hj
    have hown : own i (race.turn server j).exchanges = own i race.exchanges := by
      rw [hturn, SharedConversation.own_append, SharedConversation.own_singleton, if_neg hj,
        List.append_nil]
    rw [hsame, hown]
    exact h

/-- Whatever the schedule is, each flow has begun a conversation that it can have. -/
theorem run_continues (server : Server I σ) (flows : List (Flow I α)) (s : σ)
    (schedule : List Nat) (i : Nat) :
    Continues flows ((start flows s).run server schedule) i := by
  refine run_induction (P := fun race => Continues flows race i)
    (fun race j h => h.turn j) ?_ schedule
  unfold Continues
  cases hx : flows[i]? with
  | none => exact ⟨hx, rfl⟩
  | some x => exact ⟨x, hx, fun t a h => h⟩

/-- A client that has said something is one of the flows, and goes on with its conversation. -/
theorem run_own {schedule : List Nat} {i : Nat} {e : Exchange I}
    (h : (i, e) ∈ ((start flows s).run server schedule).exchanges) :
    ∃ x rest a, flows[i]? = some x ∧
      x.Runs (own i ((start flows s).run server schedule).exchanges ++ rest) a := by
  have hcontinues := run_continues server flows s schedule i
  unfold Continues at hcontinues
  cases hx : flows[i]? with
  | none =>
    obtain ⟨-, hown⟩ := by simpa only [hx] using hcontinues
    rw [← SharedConversation.mem_own_iff, hown] at h
    cases h
  | some x =>
    obtain ⟨y, -, hruns⟩ := by simpa only [hx] using hcontinues
    -- The server would have an answer to whatever is left of the flow.
    have hrest := Flow.converse_runs server y s
    exact ⟨x, _, _, rfl, hruns _ _ hrest⟩

/-- A flow that has come to its end has had a whole conversation. -/
theorem run_own_of_done {schedule : List Nat} {i : Nat} {x : Flow I α} {a : α}
    (hflow : flows[i]? = some x)
    (hdone : ((start flows s).run server schedule).flows[i]? = some (.done a)) :
    x.Runs (own i ((start flows s).run server schedule).exchanges) a := by
  have hcontinues := run_continues server flows s schedule i
  unfold Continues at hcontinues
  rw [hflow] at hcontinues
  obtain ⟨y, hy, hruns⟩ := hcontinues
  obtain rfl : y = .done a := by simpa [hdone] using hy.symm
  simpa using hruns [] a (.done a)

end Race

end ObjectGateway
