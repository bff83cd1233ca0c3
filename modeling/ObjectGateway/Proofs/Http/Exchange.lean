import ObjectGateway.Proofs.Failure
import ObjectGateway.Proofs.Gateway.Exchange
import ObjectGateway.Proofs.Http.Pages

/-!
# Conversations over HTTP

A service passes on what the gateway of a target asks of its store and of its hooks, and makes a
response of every answer of it.  `Carried` lists what can come of one exchange of a gateway, and
`Carries.of_run` says that a whole run is made up of such steps.  What a service asks for itself is
told by the equations of `process` and by `handle_runs_iff`.
-/

namespace ObjectGateway.Http

open ObjectGateway.Flow
open Exchange (called told sent answered)

/-- An exchange with a store as one of a target. -/
def ofStore (e : Exchange StoreInterface) : Exchange TargetInterface := ⟨.store e.op, e.reply⟩

theorem callStore_runs_iff {α : Type} {flow : Flow StoreInterface α}
    {t : Conversation TargetInterface} {a : α} :
    (callStore flow).Runs t a ↔ ∃ u, flow.Runs u a ∧ t = u.map ofStore :=
  runs_translate_iff fun _ _ _ => runs_ask_iff

/-- An exchange of a target as one of the service. -/
def ofTarget (config : TargetConfig) : Exchange TargetInterface → Exchange ServiceInterface
  | ⟨.store c, reply⟩ => ⟨.store config c, reply⟩
  | ⟨.dispatch event, reply⟩ => ⟨.dispatch event, reply⟩

theorem forTarget_runs_iff {α : Type} {config : TargetConfig} {flow : Flow TargetInterface α}
    {t : Conversation ServiceInterface} {a : α} :
    (forTarget config flow).Runs t a ↔ ∃ u, flow.Runs u a ∧ t = u.map (ofTarget config) := by
  refine runs_translate_iff fun op t reply => ?_
  cases op with
  | store c => exact runs_ask_iff
  | dispatch event => exact runs_ask_iff

namespace Responder

variable {r : Responder} {slot next last : Slot}

/-! ## Gateways -/

/-- What can come of an exchange of a gateway: what is asked for on its behalf, and the responses
that there are then. -/
inductive Carried (r : Responder) (slot : Slot) :
    Exchange GatewayInterface → Conversation TargetInterface → Slot → Prop
  | store (c : StoreCall) (reply : c.Reply) :
      Carried r slot (called c reply) [⟨.store c, reply⟩] slot
  | dispatch (event : HookEvent) : Carried r slot (told event) [⟨.dispatch event, ()⟩] slot
  | sent {file : FileAnswer} {response : Response} (h : fileResponse file = .ok response) :
      Carried r slot (sent file (.ok ())) [] (response :: slot)
  | refused {file : FileAnswer} {f : Failure} (h : fileResponse file = .error f) :
      Carried r slot (sent file (.error f)) [] slot
  | answered {o : Outcome} {calls : Conversation StoreInterface} {response : Response}
      (hreads : ∀ e ∈ calls, r.ReadsTemplate e.op) (h : r.OutcomeMade o calls response) :
      Carried r slot (answered o) (calls.map ofStore) (response :: slot)

theorem Carried.of_runs {e : Effect} {t : Conversation TargetInterface} {reply : e.Reply}
    (h : ((r.handle e).run slot).Runs t (reply, next)) : Carried r slot ⟨e, reply⟩ t next := by
  cases e with
  | store c =>
    obtain ⟨reply', rest, hdone, rfl⟩ := runs_call_iff.1 h
    obtain ⟨rfl, ⟨⟩⟩ := runs_done_iff.1 hdone
    exact .store c _
  | dispatch event =>
    obtain ⟨reply', rest, hdone, rfl⟩ := runs_call_iff.1 h
    obtain ⟨rfl, ⟨⟩⟩ := runs_done_iff.1 hdone
    exact .dispatch event
  | sendFile file =>
    -- A file whose headers cannot be built is refused, and no response is made of it.
    simp only [handle] at h
    cases hfile : fileResponse file with
    | ok response =>
      rw [hfile] at h
      obtain ⟨rfl, ⟨⟩⟩ := runs_done_iff.1 h
      exact .sent hfile
    | error f =>
      rw [hfile] at h
      obtain ⟨rfl, ⟨⟩⟩ := runs_done_iff.1 h
      exact .refused hfile
  | respond o =>
    obtain ⟨calls, hcalls, rfl⟩ := callStore_runs_iff.1 h
    obtain ⟨hreads, response, rfl, hmade⟩ := respond_makes r o slot calls next hcalls
    exact .answered hreads hmade

/-- What is asked for while the exchanges of a gateway are answered over HTTP one after the other,
and the responses that there are before and after. -/
inductive Carries (r : Responder) : Conversation GatewayInterface → Slot →
    Conversation TargetInterface → Slot → Prop
  | nil (slot : Slot) : Carries r [] slot [] slot
  | cons {e : Exchange GatewayInterface} {u : Conversation GatewayInterface}
      {t₁ t₂ : Conversation TargetInterface} {slot next last : Slot}
      (h : Carried r slot e t₁ next) (hrest : Carries r u next t₂ last) :
      Carries r (e :: u) slot (t₁ ++ t₂) last

/-- A gateway that is answered over HTTP holds a conversation, whose exchanges are answered. -/
theorem Carries.of_runs {α : Type} {flow : GatewayFlow α} {t : Conversation TargetInterface}
    {a : α} (h : ((flow.run r.handle).run slot).Runs t (a, last)) :
    ∃ u, flow.Runs u a ∧ Carries r u slot t last := by
  induction flow generalizing slot t with
  | done b =>
    obtain ⟨rfl, ⟨⟩⟩ := runs_done_iff.1 h
    exact ⟨[], .done a, .nil _⟩
  | call e next ih =>
    have h : ((r.handle e >>= fun reply => (next reply).run r.handle).run slot).Runs t
      (a, last) := h
    rw [StateT.run_bind, runs_monad_bind_iff] at h
    obtain ⟨⟨reply, slot'⟩, t₁, t₂, hreply, hnext, rfl⟩ := h
    obtain ⟨u, hu, hcarries⟩ := ih reply hnext
    exact ⟨⟨e, reply⟩ :: u, .call reply hu, .cons (.of_runs hreply) hcarries⟩

/-- A gateway begins to be answered without a response. -/
theorem Carries.of_run {flow : GatewayFlow Unit} {t : Conversation TargetInterface}
    (h : (r.run flow).Runs t slot) : ∃ u, flow.Runs u () ∧ Carries r u [] t slot := by
  obtain ⟨⟨⟨⟩, last⟩, t₁, t₂, hrun, hpure, rfl⟩ := runs_monad_bind_iff.1 h
  obtain ⟨rfl, rfl⟩ := runs_pure_iff.1 hpure
  rw [List.append_nil]
  exact Carries.of_runs hrun

theorem Carried.told_of_mem {e : Exchange GatewayInterface} {t : Conversation TargetInterface}
    {event : HookEvent} {reply : Unit} (h : Carried r slot e t next)
    (hmem : (⟨.dispatch event, reply⟩ : Exchange TargetInterface) ∈ t) : e = told event := by
  cases h with
  | store c reply => cases List.mem_singleton.1 hmem
  | dispatch event' =>
    cases List.mem_singleton.1 hmem
    rfl
  | sent _ => cases hmem
  | refused _ => cases hmem
  | answered _ _ =>
    obtain ⟨e', -, he'⟩ := List.mem_map.1 hmem
    cases he'

/-- Hooks are told on behalf of a gateway of what it tells them. -/
theorem Carries.told_mem {u : Conversation GatewayInterface} {t : Conversation TargetInterface}
    {event : HookEvent} {reply : Unit} (h : Carries r u slot t last)
    (hmem : (⟨.dispatch event, reply⟩ : Exchange TargetInterface) ∈ t) : told event ∈ u := by
  induction h with
  | nil slot => cases hmem
  | cons hfirst _ ih =>
    rcases List.mem_append.1 hmem with hmem | hmem
    · exact List.mem_cons.2 (.inl (hfirst.told_of_mem hmem).symm)
    · exact List.mem_cons_of_mem _ (ih hmem)

/-- Where a gateway only answers, one response is made of the answer. -/
theorem Carries.of_answered {o : Outcome} {t : Conversation TargetInterface}
    (h : Carries r [answered o] [] t last) :
    ∃ calls response, t = calls.map ofStore ∧ last = [response] ∧
      (∀ e ∈ calls, r.ReadsTemplate e.op) ∧ r.OutcomeMade o calls response := by
  cases h with
  | cons hfirst hrest =>
    cases hrest
    cases hfirst with
    | answered hreads hmade =>
      rw [List.append_nil]
      exact ⟨_, _, rfl, rfl, hreads, hmade⟩

@[simp] theorem finish_cons (response : Response) (slot : Slot) :
    finish (response :: slot) = response := rfl

end Responder

/-! ## Services -/

namespace Service

variable {s : Setup} {snapshot : Snapshot} {request : Request}

/-- What surrounds a service: a store behind all targets, and counters. -/
def surroundings {σ : Type} (store : Server StoreInterface σ) :
    Server ServiceInterface (σ × Metrics) := fun effect state => match effect with
  | .store _ c => let answer := store c state.1; (answer.1, (answer.2, state.2))
  | .dispatch _ => ((), state)
  | .counters => (state.2.exposition, state)
  | .count c => ((), (state.1, c :: state.2))

/-- A store where nothing is found. -/
def nothing : Server StoreInterface Unit := fun c state => (c.fail .notFound, state)

/-- The responder of a request. -/
def responder (s : Setup) (snapshot : Snapshot) (request : Request) : Responder :=
  ⟨requestInfo request.method request.uri request.headers, none,
    (routeOf snapshot request).map (·.target), snapshot, s.engine, s.files⟩

@[simp] theorem responder_request : (responder s snapshot request).request =
    requestInfo request.method request.uri request.headers := rfl

/-- What the gateway of the target of a request does. -/
def routed (s : Setup) (request : Request) (route : Route Target) : GatewayFlow Unit :=
  serve ⟨route.target, s.engine⟩
    ⟨requestInfo request.method request.uri request.headers, none, route.mountPath⟩ request
    route.rawPath

theorem readGetInput_path {path : String} {hs : Headers} {input : GetInput}
    (h : readGetInput path hs = .ok input) : input.requestPath = path := by
  obtain ⟨since, -, h⟩ := bind_eq_ok_iff.1 h
  obtain ⟨unmodified, -, h⟩ := bind_eq_ok_iff.1 h
  cases h
  rfl

/-- The conversations for a request whose path has been decoded: those of the gateway, and the
answers to what cannot be read. -/
inductive Performed (g : Gateway) (ctx : RequestContext) (path : String) :
    Conversation GatewayInterface → Prop
  | write {input : PutInput} {t : Conversation GatewayInterface}
      (h : (g.write ctx input).Runs t ()) : Performed g ctx path t
  | remove {t : Conversation GatewayInterface} (h : (g.remove ctx path).Runs t ()) :
      Performed g ctx path t
  | read {mode : Gateway.ReadMode} {input : GetInput} {t : Conversation GatewayInterface}
      (hpath : input.requestPath = path) (h : (g.read ctx mode input).Runs t ()) :
      Performed g ctx path t
  | unread (f : Failure) : Performed g ctx path [answered (.internalServerError f)]
  | malformed (f : Failure) : Performed g ctx path [answered (.badRequest f)]

/-- The conversations for a request to a target: its path is decoded first. -/
inductive Served (g : Gateway) (ctx : RequestContext) (rawPath : String) :
    Conversation GatewayInterface → Prop
  | undecoded (f : Failure) : Served g ctx rawPath [answered (.internalServerError f)]
  | performed {path : String} {t : Conversation GatewayInterface}
      (hpath : decodePath rawPath = .ok path) (h : Performed g ctx path t) : Served g ctx rawPath t

section Gateways

variable {g : Gateway} {ctx : RequestContext} {path rawPath : String}
  {u : Conversation GatewayInterface}

theorem Performed.of_runs (h : (perform g ctx request path).Runs u ()) :
    Performed g ctx path u := by
  unfold perform at h
  split at h
  · split at h
    · exact .write h
    · obtain rfl := GatewayFlow.respond_runs_iff.1 h
      exact .unread _
  · split at h
    · exact .remove h
    · split at h
      · next input hinput => exact .read (readGetInput_path hinput) h
      · obtain rfl := GatewayFlow.respond_runs_iff.1 h
        exact .malformed _

theorem Served.of_runs (h : (serve g ctx request rawPath).Runs u ()) :
    Served g ctx rawPath u := by
  unfold serve at h
  split at h
  · next path hpath => exact .performed hpath (.of_runs h)
  · obtain rfl := GatewayFlow.respond_runs_iff.1 h
    exact .undecoded _

end Gateways

theorem render_of_unrouted (hroute : routeOf snapshot request = none) :
    render s snapshot request = .ok do
      let ((), slot) ← withoutStore (((responder s snapshot request).respond .notFound).run [])
      return slot := by
  simp [render, responder, hroute]

theorem render_of_refused {route : Route Target} (hroute : routeOf snapshot request = some route)
    (hmethod : methodEnabled route.target.config.actions request.method = false) :
    render s snapshot request = .error (methodNotAllowed route.target.config.actions) := by
  simp [render, hroute, hmethod]

theorem render_of_routed {route : Route Target} (hroute : routeOf snapshot request = some route)
    (hmethod : methodEnabled route.target.config.actions request.method = true) :
    render s snapshot request = .ok (forTarget route.target.config
      ((responder s snapshot request).run (routed s request route))) := by
  simp [render, responder, routed, hroute, hmethod]

/-- A request that no target is mounted for is answered with a page, without any store. -/
theorem runs_of_unrouted {responses : Flow ServiceInterface Responder.Slot}
    (hroute : routeOf snapshot request = none)
    (hrender : render s snapshot request = .ok responses) {t : Conversation ServiceInterface}
    {slot : Responder.Slot} (h : responses.Runs t slot) :
    t = [] ∧ ∃ response, slot = [response] ∧
      (responder s snapshot request).OutcomeMade .notFound [] response := by
  rw [render_of_unrouted hroute] at hrender
  cases hrender
  obtain ⟨⟨⟨⟩, last⟩, t₁, t₂, hpage, hpure, rfl⟩ := runs_monad_bind_iff.1 h
  obtain ⟨rfl, rfl⟩ := runs_pure_iff.1 hpure
  obtain rfl := Runs.of_translate_done hpage
  obtain ⟨calls, hcalls, -⟩ := Runs.translates hpage
  obtain ⟨hreads, response, rfl, hmade⟩ := Responder.respond_makes _ .notFound [] calls slot hcalls
  -- Without a target, there is no bucket that a template could be read from.
  have hnone : (responder s snapshot request).target = none := by simp [responder, hroute]
  obtain rfl : calls = [] := List.eq_nil_iff_forall_not_mem.2 fun e he =>
    Responder.not_readsTemplate_of_target hnone (hreads e he)
  exact ⟨rfl, response, rfl, hmade⟩

/-- What a service asks for on behalf of a request that its target serves is what is asked for on
behalf of the gateway. -/
theorem runs_of_routed {route : Route Target} {responses : Flow ServiceInterface Responder.Slot}
    (hroute : routeOf snapshot request = some route)
    (hmethod : methodEnabled route.target.config.actions request.method = true)
    (hrender : render s snapshot request = .ok responses) {t : Conversation ServiceInterface}
    {slot : Responder.Slot} (h : responses.Runs t slot) :
    ∃ u v, (routed s request route).Runs u () ∧
      Responder.Carries (responder s snapshot request) u [] v slot ∧
      t = v.map (ofTarget route.target.config) := by
  rw [render_of_routed hroute hmethod] at hrender
  cases hrender
  obtain ⟨v, hv, rfl⟩ := forTarget_runs_iff.1 h
  obtain ⟨u, hu, hcarries⟩ := Responder.Carries.of_run hv
  exact ⟨u, v, hu, hcarries, rfl⟩

/-- The conversations of a request that is neither the health check nor for the counters. -/
inductive ProcessRun (s : Setup) (snapshot : Snapshot) (request : Request) :
    Conversation ServiceInterface → Response → Prop
  | unrouted {response : Response} (hroute : routeOf snapshot request = none)
      (hmade : (responder s snapshot request).OutcomeMade .notFound [] response) :
      ProcessRun s snapshot request [] response
  | refused {route : Route Target} (hroute : routeOf snapshot request = some route)
      (hmethod : methodEnabled route.target.config.actions request.method = false) :
      ProcessRun s snapshot request [] (methodNotAllowed route.target.config.actions)
  | routed {route : Route Target} {u : Conversation GatewayInterface}
      {v : Conversation TargetInterface} {slot : Responder.Slot}
      (hroute : routeOf snapshot request = some route)
      (hmethod : methodEnabled route.target.config.actions request.method = true)
      (hu : (routed s request route).Runs u ())
      (hcarries : Responder.Carries (responder s snapshot request) u [] v slot) :
      ProcessRun s snapshot request (v.map (ofTarget route.target.config))
        (Responder.finish slot)

theorem ProcessRun.of_runs {t : Conversation ServiceInterface} {response : Response}
    (h : (process s snapshot request).Runs t response) :
    ProcessRun s snapshot request t response := by
  unfold process at h
  cases hrender : render s snapshot request with
  | error refusal =>
    rw [hrender] at h
    obtain ⟨rfl, rfl⟩ := runs_pure_iff.1 h
    cases hroute : routeOf snapshot request with
    | none => simp [render_of_unrouted hroute] at hrender
    | some route =>
      cases hmethod : methodEnabled route.target.config.actions request.method with
      | true => simp [render_of_routed hroute hmethod] at hrender
      | false =>
        rw [render_of_refused hroute hmethod] at hrender
        cases hrender
        exact .refused hroute hmethod
  | ok responses =>
    rw [hrender] at h
    obtain ⟨slot, t₁, t₂, hslot, hpure, rfl⟩ := runs_monad_bind_iff.1 h
    obtain ⟨rfl, rfl⟩ := runs_pure_iff.1 hpure
    rw [List.append_nil]
    cases hroute : routeOf snapshot request with
    | none =>
      obtain ⟨rfl, response, rfl, hmade⟩ := runs_of_unrouted hroute hrender hslot
      exact .unrouted hroute hmade
    | some route =>
      cases hmethod : methodEnabled route.target.config.actions request.method with
      | false => simp [render_of_refused hroute hmethod] at hrender
      | true =>
        obtain ⟨u, v, hu, hcarries, rfl⟩ := runs_of_routed hroute hmethod hrender hslot
        exact .routed hroute hmethod hu hcarries

theorem handle_runs_iff {t : Conversation ServiceInterface} {response : Response} :
    (handle s snapshot request).Runs t response ↔
      ∃ u, (respond s snapshot request).Runs u response ∧
        t = u ++ [⟨.count (.answered request.method response.status), ()⟩] := by
  rw [handle, runs_monad_bind_iff]
  constructor
  · rintro ⟨answer, u, t₂, hu, hrest, rfl⟩
    obtain ⟨⟨⟩, t₃, t₄, hcount, hpure, rfl⟩ := runs_monad_bind_iff.1 hrest
    obtain ⟨rfl, rfl⟩ := runs_pure_iff.1 hpure
    obtain rfl := runs_ask_iff.1 hcount
    exact ⟨u, hu, by simp⟩
  · rintro ⟨u, hu, rfl⟩
    refine ⟨response, u, _, hu, ?_, rfl⟩
    exact runs_monad_bind_iff.2 ⟨(), _, [], runs_ask_iff.2 rfl, runs_pure_iff.2 ⟨rfl, rfl⟩, rfl⟩

end Service

end ObjectGateway.Http
