import ObjectGateway.Flow

/-!
# Conversations of flows

A conversation is what a flow asks for, together with the replies that it gets.  Two views of it are
used below.  `Flow.Runs` relates a flow to every conversation that it can have, whatever replies
come, so a statement about all of its runs holds for all surroundings.  `Flow.converse` is the one
conversation that a flow has with a server, which replies from a state; `Serves` says the same of
the replies alone.

The main statements are `Flow.runs_bind_iff`, by which the runs of a program are put together from
those of its parts, and `Flow.converse_runs` with `Flow.converse_serves`, by which whatever holds of
all runs holds of a conversation with a server.
-/

namespace ObjectGateway

/-- Something that was asked for, with the reply that came. -/
structure Exchange (I : Interface) where
  op : I.Op
  reply : I.Reply op

/-- What was asked for and replied, first to last. -/
abbrev Conversation (I : Interface) := List (Exchange I)

/-- Replies from a state, and leaves a state behind. -/
abbrev Server (I : Interface) (σ : Type) := (op : I.Op) → σ → I.Reply op × σ

/-- The replies of a conversation are those of a server that is in one state before the
conversation and in another one after it. -/
def Serves {I : Interface} {σ : Type} (server : Server I σ) : σ → Conversation I → σ → Prop
  | s, [], s' => s' = s
  | s, e :: t, s' => ∃ next, server e.op s = (e.reply, next) ∧ Serves server next t s'

/-- Exchanges that follow one another are those of a server that is in some state between them. -/
theorem serves_append_iff {I : Interface} {σ : Type} {server : Server I σ} {s s' : σ}
    {t u : Conversation I} :
    Serves server s (t ++ u) s' ↔ ∃ between, Serves server s t between ∧
      Serves server between u s' := by
  induction t generalizing s with
  | nil =>
    constructor
    · intro h
      exact ⟨s, rfl, h⟩
    · rintro ⟨_, rfl, h⟩
      exact h
  | cons e t ih =>
    constructor
    · rintro ⟨next, hreply, hrest⟩
      obtain ⟨between, ht, hu⟩ := ih.1 hrest
      exact ⟨between, ⟨next, hreply, ht⟩, hu⟩
    · rintro ⟨between, ⟨next, hreply, ht⟩, hu⟩
      exact ⟨next, hreply, ih.2 ⟨between, ht, hu⟩⟩

/-- A conversation with a server, its value and the state of the server after it. -/
structure Talk (I : Interface) (α σ : Type) where
  exchanges : Conversation I
  value : α
  state : σ

namespace Flow

variable {I : Interface} {α β σ : Type}

/-- `x.Runs t a` says that `t` is a conversation that the flow `x` can have, and that `x` yields
`a` after it. -/
inductive Runs : Flow I α → Conversation I → α → Prop
  | done (a : α) : Runs (.done a) [] a
  | call {op : I.Op} {next : I.Reply op → Flow I α} (reply : I.Reply op) {t : Conversation I}
      {a : α} (h : Runs (next reply) t a) : Runs (.call op next) (⟨op, reply⟩ :: t) a

@[simp] theorem runs_done_iff {a b : α} {t : Conversation I} :
    (done a).Runs t b ↔ t = [] ∧ b = a := by
  constructor
  · rintro ⟨⟩
    exact ⟨rfl, rfl⟩
  · rintro ⟨rfl, rfl⟩
    exact .done b

@[simp] theorem runs_call_iff {op : I.Op} {next : I.Reply op → Flow I α} {t : Conversation I}
    {a : α} :
    (call op next).Runs t a ↔
      ∃ reply rest, (next reply).Runs rest a ∧ t = ⟨op, reply⟩ :: rest := by
  constructor
  · intro h
    cases h with
    | call reply h => exact ⟨reply, _, h, rfl⟩
  · rintro ⟨reply, rest, h, rfl⟩
    exact .call reply h

theorem runs_bind_iff {x : Flow I α} {f : α → Flow I β} {t : Conversation I} {b : β} :
    (x.bind f).Runs t b ↔ ∃ a t₁ t₂, x.Runs t₁ a ∧ (f a).Runs t₂ b ∧ t = t₁ ++ t₂ := by
  induction x generalizing t with
  | done a =>
    constructor
    · intro h
      exact ⟨a, [], t, .done a, h, rfl⟩
    · rintro ⟨_, _, _, ⟨⟩, h, rfl⟩
      exact h
  | call op next ih =>
    simp only [call_bind, runs_call_iff, ih]
    constructor
    · rintro ⟨reply, rest, ⟨a, t₁, t₂, hx, hf, rfl⟩, rfl⟩
      exact ⟨a, _, t₂, ⟨reply, t₁, hx, rfl⟩, hf, rfl⟩
    · rintro ⟨a, _, t₂, ⟨reply, t₁, hx, rfl⟩, hf, rfl⟩
      exact ⟨reply, t₁ ++ t₂, ⟨a, t₁, t₂, hx, hf, rfl⟩, rfl⟩

@[simp] theorem runs_pure_iff {a b : α} {t : Conversation I} :
    (pure a : Flow I α).Runs t b ↔ t = [] ∧ b = a := runs_done_iff

@[simp] theorem runs_monad_bind_iff {x : Flow I α} {f : α → Flow I β} {t : Conversation I}
    {b : β} :
    (x >>= f).Runs t b ↔ ∃ a t₁ t₂, x.Runs t₁ a ∧ (f a).Runs t₂ b ∧ t = t₁ ++ t₂ := runs_bind_iff

@[simp] theorem runs_map_iff {x : Flow I α} {f : α → β} {t : Conversation I} {b : β} :
    (f <$> x).Runs t b ↔ ∃ a, x.Runs t a ∧ b = f a := by
  rw [map_eq_pure_bind, runs_monad_bind_iff]
  constructor
  · rintro ⟨a, t₁, t₂, hx, hf, rfl⟩
    obtain ⟨rfl, rfl⟩ := runs_pure_iff.1 hf
    exact ⟨a, by simpa using hx, rfl⟩
  · rintro ⟨a, hx, rfl⟩
    exact ⟨a, t, [], hx, runs_pure_iff.2 ⟨rfl, rfl⟩, by simp⟩

/-- Where a flow ends with the first failure of its parts, it succeeds only if both of them do. -/
theorem Runs.ok_of_bind {ε : Type} {x : Flow I (Except ε α)}
    {f : Except ε α → Flow I (Except ε β)} {t : Conversation I} {b : β}
    (h : (x >>= f).Runs t (.ok b)) (hfails : ∀ e, f (.error e) = pure (.error e)) :
    ∃ a t₁ t₂, x.Runs t₁ (.ok a) ∧ (f (.ok a)).Runs t₂ (.ok b) ∧ t = t₁ ++ t₂ := by
  obtain ⟨first, t₁, t₂, hfirst, hrest, rfl⟩ := runs_monad_bind_iff.1 h
  cases first with
  | error e =>
    rw [hfails, runs_pure_iff] at hrest
    cases hrest.2
  | ok a => exact ⟨a, t₁, t₂, hfirst, hrest, rfl⟩

theorem runs_ask_iff {op : I.Op} {t : Conversation I} {a : I.Reply op} :
    (ask op).Runs t a ↔ t = [⟨op, a⟩] := by
  rw [ask, runs_call_iff]
  constructor
  · rintro ⟨_, _, ⟨⟩, rfl⟩
    rfl
  · rintro rfl
    exact ⟨a, [], .done a, rfl⟩

/-- `Translates f u t` says that `t` is `u` with each exchange replaced by a conversation that what
was asked for is translated to, and that ends in the same reply. -/
inductive Translates {J : Interface} (f : (op : I.Op) → Flow J (I.Reply op)) :
    Conversation I → Conversation J → Prop
  | nil : Translates f [] []
  | cons {op : I.Op} {reply : I.Reply op} {u : Conversation I} {t₁ t₂ : Conversation J}
      (h : (f op).Runs t₁ reply) (hrest : Translates f u t₂) :
      Translates f (⟨op, reply⟩ :: u) (t₁ ++ t₂)

theorem translates_append_iff {J : Interface} {f : (op : I.Op) → Flow J (I.Reply op)}
    {u v : Conversation I} {t : Conversation J} :
    Translates f (u ++ v) t ↔ ∃ t₁ t₂, Translates f u t₁ ∧ Translates f v t₂ ∧ t = t₁ ++ t₂ := by
  induction u generalizing t with
  | nil =>
    constructor
    · exact fun h => ⟨[], t, .nil, h, rfl⟩
    · rintro ⟨_, _, ⟨⟩, h, rfl⟩
      exact h
  | cons e u ih =>
    constructor
    · intro h
      cases h with
      | cons hop hrest =>
        obtain ⟨t₁, t₂, hu, hv, rfl⟩ := ih.1 hrest
        exact ⟨_, t₂, .cons hop hu, hv, (List.append_assoc ..).symm⟩
    · rintro ⟨_, t₂, hu, hv, rfl⟩
      cases hu with
      | cons hop hrest =>
        rw [List.append_assoc]
        exact .cons hop (ih.2 ⟨_, t₂, hrest, hv, rfl⟩)

/-- A conversation of a translated flow is a translation of one that the flow can have. -/
theorem Runs.translates {J : Interface} {f : (op : I.Op) → Flow J (I.Reply op)} {x : Flow I α}
    {t : Conversation J} {a : α} (h : (x.translate f).Runs t a) :
    ∃ u, x.Runs u a ∧ Translates f u t := by
  induction x generalizing t with
  | done b =>
    obtain ⟨rfl, rfl⟩ := runs_done_iff.1 h
    exact ⟨[], .done a, .nil⟩
  | call op next ih =>
    obtain ⟨reply, t₁, t₂, hop, hnext, rfl⟩ := runs_bind_iff.1 h
    obtain ⟨u, hu, hrest⟩ := ih reply hnext
    exact ⟨⟨op, reply⟩ :: u, .call reply hu, .cons hop hrest⟩

/-- Where each thing that is asked for is replaced by one other, the conversations are those of the
flow, with everything in them replaced. -/
theorem runs_translate_iff {J : Interface} {f : (op : I.Op) → Flow J (I.Reply op)}
    {lift : Exchange I → Exchange J}
    (hf : ∀ op t reply, (f op).Runs t reply ↔ t = [lift ⟨op, reply⟩]) {x : Flow I α}
    {t : Conversation J} {a : α} :
    (x.translate f).Runs t a ↔ ∃ u, x.Runs u a ∧ t = u.map lift := by
  induction x generalizing t with
  | done b =>
    rw [translate, runs_done_iff]
    constructor
    · rintro ⟨rfl, rfl⟩
      exact ⟨[], .done a, rfl⟩
    · rintro ⟨u, ⟨⟩, rfl⟩
      exact ⟨rfl, rfl⟩
  | call op next ih =>
    rw [translate, runs_bind_iff]
    simp only [hf, ih, runs_call_iff]
    constructor
    · rintro ⟨reply, _, _, rfl, ⟨u, hu, rfl⟩, rfl⟩
      exact ⟨⟨op, reply⟩ :: u, ⟨reply, u, hu, rfl⟩, rfl⟩
    · rintro ⟨_, ⟨reply, u, hu, rfl⟩, rfl⟩
      exact ⟨reply, _, _, rfl, ⟨u, hu, rfl⟩, rfl⟩

/-- A flow that is given its replies asks for nothing. -/
theorem Runs.of_translate_done {J : Interface} {reply : (op : I.Op) → I.Reply op} {x : Flow I α}
    {t : Conversation J} {a : α}
    (h : (x.translate fun op => (Flow.done (reply op) : Flow J _)).Runs t a) : t = [] := by
  induction x generalizing t with
  | done b => exact (runs_done_iff.1 h).1
  | call op next ih => exact ih (reply op) h

/-- The replies determine a flow: of two conversations of it neither goes on where the other one is
over, and what they yield is the same. -/
theorem Runs.eq_of_append_eq {x : Flow I α} {t u rest rest' : Conversation I} {a b : α}
    (ht : x.Runs t a) (hu : x.Runs u b) (h : t ++ rest = u ++ rest') : t = u ∧ a = b := by
  induction ht generalizing u with
  | done a =>
    obtain ⟨rfl, rfl⟩ := runs_done_iff.1 hu
    exact ⟨rfl, rfl⟩
  | call reply hnext ih =>
    obtain ⟨reply', u, hnext', rfl⟩ := runs_call_iff.1 hu
    obtain ⟨⟨⟩, htail⟩ := List.cons.inj h
    obtain ⟨rfl, hab⟩ := ih hnext' htail
    exact ⟨rfl, hab⟩

/-- The conversation of a flow with a server. -/
def converse (server : Server I σ) : Flow I α → σ → Talk I α σ
  | done a, s => ⟨[], a, s⟩
  | call op next, s =>
    let answer := server op s
    let talk := (next answer.1).converse server answer.2
    { talk with exchanges := ⟨op, answer.1⟩ :: talk.exchanges }

theorem converse_runs (server : Server I σ) (x : Flow I α) (s : σ) :
    x.Runs (x.converse server s).exchanges (x.converse server s).value := by
  induction x generalizing s with
  | done a => exact .done a
  | call op next ih => exact .call _ (ih _ _)

/-- A flow that yields nothing of interest; `converse_runs` would have its value computed. -/
theorem converse_runs_unit (server : Server I σ) (x : Flow I Unit) (s : σ) :
    x.Runs (x.converse server s).exchanges () := converse_runs server x s

theorem converse_serves (server : Server I σ) (x : Flow I α) (s : σ) :
    Serves server s (x.converse server s).exchanges (x.converse server s).state := by
  induction x generalizing s with
  | done a => rfl
  | call op next ih => exact ⟨_, rfl, ih _ _⟩

/-- One flow after another has the conversation of the one, and then that of the other. -/
theorem converse_bind (server : Server I σ) (x : Flow I α) (f : α → Flow I β) (s : σ) :
    (x.bind f).converse server s =
      let talk := x.converse server s
      let rest := (f talk.value).converse server talk.state
      { rest with exchanges := talk.exchanges ++ rest.exchanges } := by
  induction x generalizing s with
  | done a => rfl
  | call op next ih => simp only [call_bind, converse, ih, List.cons_append]

/-- A handler that keeps a state holds the conversation of the server that it is. -/
theorem run_eq_converse (server : Server I σ) (x : Flow I α) (s : σ) :
    x.run (m := StateM σ) server s = ((x.converse server s).value, (x.converse server s).state) := by
  induction x generalizing s with
  | done a => rfl
  | call op next ih => exact ih _ _

end Flow

end ObjectGateway
