import ObjectGateway.Proofs.Gateway.Events
import ObjectGateway.Proofs.Http.Exchange
import ObjectGateway.Proofs.Reload
import ObjectGateway.Proofs.Routing

/-!
# Requests during reloads

A reload changes a running service in two steps: the hooks are put in force first, and the targets
are swapped some time later.  In between, and for as long as it is under way, a request is answered
by the targets that were served when it came, while its event is told to the hooks that are in force
when it is told.  `Live` follows any number of requests through any number of reloads, with every
order of their steps.

`told_to_latest_hooks` says whose hooks are told: those of the configuration that was loaded last,
which is the one of the request or a later one.  `event_lost_in_reload` is a removal that is told to
nobody, although the configuration that it is carried out under declares a hook for it.
-/

namespace ObjectGateway

/-! ## Hooks that are declared -/

/-- The calls that are configured for an action.  Those of reads are made for questions as well. -/
def Actions.webhooksFor (a : Actions) : HookAction → List Webhook
  | .get | .head => a.getWebhooks
  | .put => a.putWebhooks
  | .delete => a.deleteWebhooks

namespace Reload

/-- Before anything has been loaded, there are no targets. -/
def nothing : Reload := ⟨⟨.standard, ⟨[], .const none⟩, []⟩, ⟨[], ⟨[]⟩⟩, fun _ => .ok ()⟩

/-- The hooks that a configuration declares for the target and the action of an event; none for an
unknown target. -/
def hooksFor (a : Reload) (e : HookEvent) : Answer (List Hook) :=
  match a.config.targets.find? (·.name == e.target) with
  | some t => (t.actions.webhooksFor e.action).mapM (Hook.ofConfig a.surroundings)
  | none => .ok []

variable {a : Reload} {t : Conversation BucketsInterface} {r : Registry HookQueue}

theorem HooksInForce.mapM_eq {t : TargetConfig} {h : ActionHooks} (hh : a.HooksInForce t h)
    (action : HookAction) : (t.actions.webhooksFor action).mapM (Hook.ofConfig a.surroundings) =
      .ok (h.forAction action) := by
  cases action with
  | get => exact mapM_eq_ok_iff.2 hh.get
  | head => exact mapM_eq_ok_iff.2 hh.get
  | put => exact mapM_eq_ok_iff.2 hh.put
  | delete => exact mapM_eq_ok_iff.2 hh.delete

/-- The hooks in force are those that the configuration in force declares. -/
theorem InForce.hooksFor_eq (h : a.InForce t r) (e : HookEvent) :
    a.hooksFor e = .ok (r.hooks.table.hooksFor e) := by
  unfold hooksFor
  cases hfind : a.config.targets.find? (·.name == e.target) with
  | some t =>
    have hname : t.name = e.target := by simpa using List.find?_some hfind
    obtain ⟨hooks, hget, hh⟩ := h.hooks t (List.mem_of_find?_eq_some hfind)
    rw [hname] at hget
    simp only [HookTable.hooksFor, hget, Option.elim_some]
    exact hh.mapM_eq e.action
  | none =>
    -- Every name in the table is that of a target, which would have been found.
    have hnone : TextMap.get? e.target r.hooks.table = none := by
      by_contra hsome
      obtain ⟨hooks, hget⟩ := Option.ne_none_iff_exists'.1 hsome
      have hmem := h.names.mem_iff.1 (TextMap.mem_keys_iff.2 ⟨hooks, hget⟩)
      obtain ⟨t, ht, hname⟩ := List.mem_map.1 hmem
      exact absurd (beq_iff_eq.2 hname) (List.find?_eq_none.1 hfind t ht)
    simp only [HookTable.hooksFor, hnone, Option.elim_none]

/-- The targets that are served are those of a configuration. -/
def Serves (a : Reload) (s : Snapshot) : Prop := s.targets.map (·.config) = a.config.targets

theorem InForce.serves (h : a.InForce t r) : a.Serves r.snapshot := by
  have hconfigs : List.Forall₂ (fun target c => target.config = c) r.snapshot.targets
      a.config.targets := h.targets.flip.imp fun _ _ hc => hc.1
  rwa [← List.forall₂_map_left_iff, List.forall₂_eq_eq_eq] at hconfigs

/-- A flow is what is left to be done for a request that is answered by the targets of a
configuration. -/
def Admits (a : Reload) (flow : Flow Http.ServiceInterface Http.Response) : Prop :=
  ∃ s snapshot request said, a.Serves snapshot ∧ ∀ t response, flow.Runs t response →
    (Http.Service.handle s snapshot request).Runs (said ++ t) response

/-- An event is told of a request that is answered by the targets of a configuration. -/
def Tells (a : Reload) (event : HookEvent) : Prop :=
  ∃ s snapshot request t response, a.Serves snapshot ∧
    (Http.Service.handle s snapshot request).Runs t response ∧
      (⟨.dispatch event, ()⟩ : Exchange Http.ServiceInterface) ∈ t

end Reload

namespace Http

open ObjectGateway.Flow

/-! ## Events of a service -/

namespace Service

variable {s : Setup} {snapshot : Snapshot} {request : Request} {response : Response}
  {t : Conversation ServiceInterface} {event : HookEvent}

theorem Performed.tellsOf {g : Gateway} {ctx : RequestContext} {path : String}
    {u : Conversation GatewayInterface} (h : Performed g ctx path u) : Gateway.TellsOf g.name u := by
  cases h with
  | write h => exact Gateway.write_tellsOf h
  | remove h => exact Gateway.remove_tellsOf h
  | read _ h => exact Gateway.read_tellsOf h
  | unread f => exact Gateway.tellsOf_answered _
  | malformed f => exact Gateway.tellsOf_answered _

theorem routed_tellsOf {route : Route Target} {u : Conversation GatewayInterface}
    (h : (routed s request route).Runs u ()) :
    Gateway.TellsOf route.target.config.name u := by
  cases Served.of_runs h with
  | undecoded f => exact Gateway.tellsOf_answered _
  | performed _ h => exact h.tellsOf

/-- A request is told of with the name of the target that it was routed to. -/
theorem process_tells (h : (process s snapshot request).Runs t response)
    (htold : (⟨.dispatch event, ()⟩ : Exchange ServiceInterface) ∈ t) :
    ∃ target ∈ snapshot.targets, target.config.name = event.target := by
  cases ProcessRun.of_runs h with
  | unrouted _ _ => cases htold
  | refused _ _ => cases htold
  | @routed route u v slot hroute _ hu hcarries =>
    have hmem : route.target ∈ snapshot.targets := (bestMatch_of_route hroute).mem
    obtain ⟨⟨op, reply⟩, hv, heq⟩ := List.mem_map.1 htold
    cases op with
    | store c => cases heq
    | dispatch event' =>
      cases heq
      exact ⟨route.target, hmem, (routed_tellsOf hu event (hcarries.told_mem hv)).symm⟩

theorem handle_tells (h : (handle s snapshot request).Runs t response)
    (htold : (⟨.dispatch event, ()⟩ : Exchange ServiceInterface) ∈ t) :
    ∃ target ∈ snapshot.targets, target.config.name = event.target := by
  obtain ⟨u, hu, rfl⟩ := handle_runs_iff.1 h
  have htold : (⟨.dispatch event, ()⟩ : Exchange ServiceInterface) ∈ u := by
    rcases List.mem_append.1 htold with htold | htold
    · exact htold
    · cases List.mem_singleton.1 htold
  unfold respond at hu
  split_ifs at hu
  · -- Neither the health check nor the counters are told of.
    obtain ⟨rfl, -⟩ := runs_pure_iff.1 hu
    cases htold
  · obtain ⟨text, t₁, t₂, htext, hpure, rfl⟩ := runs_monad_bind_iff.1 hu
    obtain ⟨rfl, -⟩ := runs_pure_iff.1 hpure
    obtain rfl := runs_ask_iff.1 htext
    cases List.mem_singleton.1 htold
  · exact process_tells hu htold

end Service

/-! ## Requests of a configuration -/

section Requests

variable {a : Reload} {event : HookEvent}

theorem admits_handle {snapshot : Snapshot} (h : a.Serves snapshot)
    (s : Service.Setup) (request : Request) : a.Admits (Service.handle s snapshot request) :=
  ⟨s, snapshot, request, [], h, fun _ _ hrun => hrun⟩

theorem admits_call {op : ServiceInterface.Op}
    {cont : ServiceInterface.Reply op → Flow ServiceInterface Response}
    (h : a.Admits (.call op cont)) (reply : ServiceInterface.Reply op) :
    a.Admits (cont reply) := by
  obtain ⟨s, snapshot, request, said, hserves, hruns⟩ := h
  refine ⟨s, snapshot, request, said ++ [⟨op, reply⟩], hserves, fun t response hrun => ?_⟩
  rw [List.append_assoc]
  exact hruns _ response (.call reply hrun)

theorem tells_of_admits {cont : Unit → Flow ServiceInterface Response}
    (h : a.Admits (.call (.dispatch event) cont)) : a.Tells event := by
  obtain ⟨s, snapshot, request, said, hserves, hruns⟩ := h
  -- Whatever the request asks for afterwards, there are answers with which it comes to its end.
  have hrun := converse_runs (Service.surroundings Service.nothing) (cont ()) ((), [])
  exact ⟨s, snapshot, request, _, _, hserves, hruns _ _ (.call () hrun),
    List.mem_append_right said List.mem_cons_self⟩

/-- A request tells of one of the targets that answer it. -/
theorem target_of_tells (h : a.Tells event) :
    ∃ target ∈ a.config.targets, target.name = event.target := by
  obtain ⟨s, snapshot, request, t, response, hserves, hrun, htold⟩ := h
  obtain ⟨target, htarget, hname⟩ := Service.handle_tells hrun htold
  exact ⟨target.config, hserves ▸ List.mem_map_of_mem htarget, hname⟩

end Requests

/-! ## Running services -/

/-- A request that is under way. -/
structure Visit where
  /-- The number of the configuration whose targets were served when the request came. -/
  own : Nat
  /-- What is left to be done for the request. -/
  flow : Flow ServiceInterface Response

/-- An event that has been told. -/
structure Told where
  /-- The number of the configuration of the request. -/
  own : Nat
  /-- The number of the configuration that had been loaded last. -/
  latest : Nat
  event : HookEvent
  /-- The hooks that the event goes to. -/
  hooks : List Hook
  deriving DecidableEq

/-- A service that is running.  Configurations are numbered in the order in which they are loaded;
the first number is that of no configuration at all. -/
structure Live where
  registry : Registry HookQueue
  /-- What has been loaded, first to last. -/
  loaded : List Reload
  /-- The number of the configuration whose targets are served. -/
  served : Nat
  /-- Targets that have been loaded with their hooks and are not served yet. -/
  pending : List (Nat × Snapshot)
  visits : List Visit
  told : List Told

namespace Live

/-- Nothing has been loaded, and no request has come. -/
def start (workers capacity : Nat) : Live :=
  ⟨⟨.empty, .start workers capacity⟩, [.nothing], 0, [], [], []⟩

/-- The number of the configuration that was loaded last. -/
def latest (live : Live) : Nat := live.loaded.length - 1

/-- The first step of a reload: the hooks are put in force. -/
def load (live : Live) (a : Reload) (r : Registry HookQueue) : Live :=
  { live with
    registry := { live.registry with hooks := r.hooks }
    loaded := live.loaded ++ [a]
    pending := live.pending ++ [(live.loaded.length, r.snapshot)] }

/-- The second step of a reload: the targets are served. -/
def swap (live : Live) (i : Nat) : Live :=
  match live.pending[i]? with
  | some (number, snapshot) =>
    { live with
      registry := { live.registry with snapshot := snapshot }
      served := number
      pending := live.pending.eraseIdx i }
  | none => live

/-- A request comes, and takes the targets that are served. -/
def arrive (live : Live) (s : Service.Setup) (request : Request) : Live :=
  { live with visits :=
      live.visits ++ [⟨live.served, Service.handle s live.registry.snapshot request⟩] }

/-- What a request asks for, where it is an event: its hooks are looked up among those in force. -/
def tell (live : Live) (own : Nat) : ServiceInterface.Op → Live
  | .dispatch event =>
    { live with
      registry := { live.registry with hooks := live.registry.hooks.look event }
      told := live.told ++
        [⟨own, live.latest, event, live.registry.hooks.table.hooksFor event⟩] }
  | _ => live

/-- A request takes its next step.  Whatever it asks for is answered somehow. -/
def turn (answer : (op : ServiceInterface.Op) → ServiceInterface.Reply op) (live : Live)
    (i : Nat) : Live :=
  match live.visits[i]? with
  | some ⟨own, .call op next⟩ =>
    ({ live with visits := live.visits.set i ⟨own, next (answer op)⟩ } : Live).tell own op
  | _ => live

/-- Batches are offered, taken and delivered. -/
def deliver (live : Live) (q : HookQueue) : Live :=
  { live with registry := { live.registry with hooks := q } }

/-- The steps of a running service.  The two steps of a reload and those of the requests come in any
order, and so do those of several reloads. -/
inductive Step : Live → Live → Prop
  | load (live : Live) {a : Reload} {t : Conversation BucketsInterface} {r : Registry HookQueue}
      (hvalid : a.config.validate = .ok ()) (hrun : (a.run live.registry).Runs t (.ok (), r)) :
      Step live (live.load a r)
  | swap (live : Live) (i : Nat) : Step live (live.swap i)
  | arrive (live : Live) (s : Service.Setup) (request : Request) : Step live (live.arrive s request)
  | turn (live : Live) (answer : (op : ServiceInterface.Op) → ServiceInterface.Reply op) (i : Nat) :
      Step live (live.turn answer i)
  | deliver (live : Live) {q : HookQueue} (hstep : live.registry.hooks.Step q) :
      Step live (live.deliver q)

/-- What can become of a service. -/
inductive Reachable : Live → Prop
  | start (workers capacity : Nat) : Reachable (start workers capacity)
  | step {live next : Live} (h : Reachable live) (hstep : live.Step next) : Reachable next

/-! ## Whose targets and whose hooks -/

/-- The configuration of a number has been loaded, and something holds of it. -/
def Stands (loaded : List Reload) (number : Nat) (P : Reload → Prop) : Prop :=
  ∃ a, loaded[number]? = some a ∧ P a

/-- How an event that has been told comes from what has been loaded: its request is answered by the
targets of its own configuration, and it goes to the hooks that the last one declares. -/
structure Explained (loaded : List Reload) (e : Told) : Prop where
  own : Stands loaded e.own (·.Tells e.event)
  latest : Stands loaded e.latest fun a => a.hooksFor e.event = .ok e.hooks
  le : e.own ≤ e.latest

/-- What is in force, what is pending and what is under way come from what has been loaded. -/
structure Sound (live : Live) : Prop where
  ordered : TextMap.Ordered live.registry.hooks.table
  /-- The hooks in force are those that were loaded last, even if their targets are not served. -/
  declared : Stands live.loaded live.latest fun a =>
    ∀ e, a.hooksFor e = .ok (live.registry.hooks.table.hooksFor e)
  served : Stands live.loaded live.served (·.Serves live.registry.snapshot)
  pending : ∀ p ∈ live.pending, Stands live.loaded p.1 (·.Serves p.2)
  visits : ∀ v ∈ live.visits, Stands live.loaded v.own (·.Admits v.flow)
  told : ∀ e ∈ live.told, Explained live.loaded e

section Steps

variable {live next : Live} {loaded rest : List Reload} {number i : Nat} {P Q : Reload → Prop}

theorem Stands.append (h : Stands loaded number P) : Stands (loaded ++ rest) number P := by
  obtain ⟨a, ha, hp⟩ := h
  have hlt : number < loaded.length := (List.getElem?_eq_some_iff.1 ha).1
  exact ⟨a, by rw [List.getElem?_append_left hlt, ha], hp⟩

theorem Stands.mono (h : Stands loaded number P) (hpq : ∀ a, P a → Q a) :
    Stands loaded number Q := by
  obtain ⟨a, ha, hp⟩ := h
  exact ⟨a, ha, hpq a hp⟩

theorem Explained.append {e : Told} (h : Explained loaded e) : Explained (loaded ++ rest) e :=
  ⟨h.own.append, h.latest.append, h.le⟩

theorem sound_start (workers capacity : Nat) : (start workers capacity).Sound where
  ordered := TextMap.ordered_nil
  declared := ⟨.nothing, rfl, fun _ => rfl⟩
  served := ⟨.nothing, rfl, rfl⟩
  pending := by simp [start]
  visits := by simp [start]
  told := by simp [start]

/-- New hooks come with targets that are not served yet. -/
theorem Sound.load {a : Reload} {t : Conversation BucketsInterface} {r : Registry HookQueue}
    (h : live.Sound) (hvalid : a.config.validate = .ok ())
    (hrun : (a.run live.registry).Runs t (.ok (), r)) : (live.load a r).Sound := by
  obtain ⟨hordered, hinForce⟩ := run_ok hvalid h.ordered hrun
  have hlast : (live.loaded ++ [a])[live.loaded.length]? = some a := List.getElem?_concat_length
  -- The hooks are those of the new configuration, while its targets wait to be served.
  refine ⟨hordered, ⟨a, ?_, hinForce.hooksFor_eq⟩, h.served.append, fun p hp => ?_,
    fun v hv => (h.visits v hv).append, fun e he => (h.told e he).append⟩
  · have hlatest : (live.load a r).latest = live.loaded.length := by simp [latest, Live.load]
    rw [hlatest]
    exact hlast
  · rcases List.mem_append.1 hp with hp | hp
    · exact (h.pending p hp).append
    · obtain rfl : p = (live.loaded.length, r.snapshot) := List.mem_singleton.1 hp
      exact ⟨a, hlast, hinForce.serves⟩

theorem Sound.swap (h : live.Sound) (i : Nat) : (live.swap i).Sound := by
  unfold Live.swap
  split
  · rename_i number snapshot hpending
    have hserved := h.pending _ (List.mem_of_getElem? hpending)
    exact { h with
      served := hserved
      pending := fun p hp => h.pending p (List.mem_of_mem_eraseIdx hp) }
  · exact h

theorem Sound.arrive (h : live.Sound) (s : Service.Setup) (request : Request) :
    (live.arrive s request).Sound := by
  refine { h with visits := fun v hv => ?_ }
  rcases List.mem_append.1 hv with hv | hv
  · exact h.visits v hv
  · obtain rfl := List.mem_singleton.1 hv
    exact h.served.mono fun a hserves => admits_handle hserves s request

/-- Every configuration that has a number was loaded before the last one or is the last one. -/
theorem Stands.le_latest (h : Stands live.loaded number P) : number ≤ live.latest := by
  obtain ⟨a, ha, -⟩ := h
  have hlt : number < live.loaded.length := (List.getElem?_eq_some_iff.1 ha).1
  unfold latest
  omega

/-- An event is told to the hooks in force, whichever configuration its request has. -/
theorem Sound.tell {own : Nat} {op : ServiceInterface.Op}
    {cont : ServiceInterface.Reply op → Flow ServiceInterface Response} (h : live.Sound)
    (hown : Stands live.loaded own (·.Admits (.call op cont))) : (live.tell own op).Sound := by
  cases op with
  | dispatch event =>
    -- The hooks that are looked up stay in force.
    have htable : (live.registry.hooks.look event).table = live.registry.hooks.table :=
      (HookQueue.Step.look live.registry.hooks event).table
    refine ⟨htable.symm ▸ h.ordered, htable.symm ▸ h.declared, h.served, h.pending, h.visits,
      fun e he => ?_⟩
    rcases List.mem_append.1 he with he | he
    · exact h.told e he
    · obtain rfl := List.mem_singleton.1 he
      exact ⟨hown.mono fun a => tells_of_admits, h.declared.mono fun a hdeclares => hdeclares event,
        hown.le_latest⟩
  | store config c => exact h
  | counters => exact h
  | count c => exact h

theorem Sound.turn (h : live.Sound)
    (answer : (op : ServiceInterface.Op) → ServiceInterface.Reply op) (i : Nat) :
    (live.turn answer i).Sound := by
  unfold Live.turn
  split
  · rename_i own op cont hvisit
    have hown : Stands live.loaded own (·.Admits (.call op cont)) :=
      h.visits _ (List.mem_of_getElem? hvisit)
    have hset : ({ live with visits := live.visits.set i ⟨own, cont (answer op)⟩ } : Live).Sound := by
      refine { h with visits := fun v hv => ?_ }
      rcases List.mem_or_eq_of_mem_set hv with hv | rfl
      · exact h.visits v hv
      · exact hown.mono fun a hadmits => admits_call hadmits (answer op)
    exact hset.tell hown
  · exact h

theorem Sound.deliver {q : HookQueue} (h : live.Sound) (hstep : live.registry.hooks.Step q) :
    (live.deliver q).Sound :=
  { h with
    ordered := hstep.table.symm ▸ h.ordered
    declared := hstep.table.symm ▸ h.declared }

theorem Sound.step (h : live.Sound) (hstep : live.Step next) : next.Sound := by
  cases hstep with
  | load hvalid hrun => exact h.load hvalid hrun
  | swap i => exact h.swap i
  | arrive s request => exact h.arrive s request
  | turn answer i => exact h.turn answer i
  | deliver hstep => exact h.deliver hstep

theorem Reachable.sound (h : live.Reachable) : live.Sound := by
  induction h with
  | start workers capacity => exact sound_start workers capacity
  | step _ hstep ih => exact ih.step hstep

end Steps

/-! ### A reload that is half done -/

/-- A target whose removals are told to a hook. -/
def watched : Gateway :=
  .docs [] ⟨none, none, some ⟨true, ⟨[⟨"http://h/", "post", [], [], 0, none, none⟩]⟩⟩⟩

/-- The hook of the target. -/
def watcher : Hook :=
  ⟨"http://h/", "POST", [("content-type", "application/json")], 0, .ofMillis 100, .ofSeconds 2⟩

/-- The target is loaded with its hook. -/
def watching : Reload :=
  ⟨⟨.standard, ⟨[], .const none⟩, [watched.target.config]⟩, ⟨[], ⟨[]⟩⟩, fun _ => .ok ()⟩

/-- Every removal succeeds, and nothing else does. -/
def removals : (op : ServiceInterface.Op) → ServiceInterface.Reply op
  | .store _ (.delete key) => (.ok (MemoryStore.info key) : Answer ResultInfo)
  | .store _ c => c.fail .notFound
  | .dispatch _ => ()
  | .counters => ""
  | .count _ => ()

/-- Targets with a hook are served, and the hooks of a configuration without targets have been put
in force.  A removal comes before the targets are swapped. -/
def overtaken : Live :=
  let served := ((start 1 8).load watching
    ⟨⟨[watched.target], ⟨[], .const none⟩, ""⟩,
      { HookQueue.start 1 8 with table := [("docs", ⟨[], [], [watcher]⟩)] }⟩).swap 0
  let begun := served.load .nothing ⟨.empty, .start 1 8⟩
  let asked := begun.arrive ⟨.standard, ⟨[]⟩⟩ ⟨"DELETE", .ofText "/a", [], []⟩
  (asked.turn removals 0).turn removals 0

theorem overtaken_reachable : overtaken.Reachable := by
  have hloaded := (Reachable.start 1 8).step (.load _ (a := watching) rfl (.done _))
  have hbegun := (hloaded.step (.swap _ 0)).step (.load _ (a := .nothing) rfl (.done _))
  have hasked := hbegun.step (.arrive _ ⟨.standard, ⟨[]⟩⟩ ⟨"DELETE", .ofText "/a", [], []⟩)
  exact (hasked.step (.turn _ removals 0)).step (.turn _ removals 0)

theorem overtaken_told : overtaken.told =
    [⟨1, 2, ⟨.delete, "docs", "/a", none, MemoryStore.info "a"⟩, []⟩] := by
  decide +kernel

/-- Whatever becomes of a service, an event is told of a request that is answered by the targets of
its own configuration, and names one of them.  It goes to the hooks that the configuration declares
that has been loaded last, which are none if that one has no such target.  This configuration is the
one of the request, whose hooks they are then, or a later one. -/
theorem told_to_latest_hooks {live : Live} (h : live.Reachable) {e : Told} (he : e ∈ live.told) :
    ∃ own latest, live.loaded[e.own]? = some own ∧ live.loaded[e.latest]? = some latest ∧
      e.own ≤ e.latest ∧ own.Tells e.event ∧
      (∃ target ∈ own.config.targets, target.name = e.event.target) ∧
      latest.hooksFor e.event = .ok e.hooks ∧
      (e.own = e.latest → own.hooksFor e.event = .ok e.hooks) := by
  obtain ⟨⟨own, hown, htells⟩, ⟨latest, hlatest, hhooks⟩, hle⟩ := h.sound.told e he
  refine ⟨own, latest, hown, hlatest, hle, htells, target_of_tells htells, hhooks,
    fun hsame => ?_⟩
  obtain rfl : own = latest := by
    rw [hsame, hlatest] at hown
    exact (Option.some.inj hown).symm
  exact hhooks

/-- The removal that a reload overtakes is told to nobody, as the hooks of the later configuration are
in force. -/
theorem told_to_latest_hooks_overtaken :
    let e : Told := ⟨1, 2, ⟨.delete, "docs", "/a", none, MemoryStore.info "a"⟩, []⟩
    overtaken.Reachable ∧ e ∈ overtaken.told ∧
      ∃ own latest, overtaken.loaded[e.own]? = some own ∧
        overtaken.loaded[e.latest]? = some latest ∧ e.own ≤ e.latest ∧ own.Tells e.event ∧
        (∃ target ∈ own.config.targets, target.name = e.event.target) ∧
        latest.hooksFor e.event = .ok e.hooks ∧
        (e.own = e.latest → own.hooksFor e.event = .ok e.hooks) := by
  intro e
  have hmem : e ∈ overtaken.told := by
    rw [overtaken_told]
    exact List.mem_singleton_self e
  exact ⟨overtaken_reachable, hmem, told_to_latest_hooks overtaken_reachable hmem⟩

/-- The removal is carried out under a configuration that declares a hook for it, which is not
told. -/
theorem event_lost_in_reload :
    ¬∀ live : Live, live.Reachable → ∀ e ∈ live.told,
      ∃ own, live.loaded[e.own]? = some own ∧ own.hooksFor e.event = .ok e.hooks := by
  intro hall
  let event : HookEvent := ⟨.delete, "docs", "/a", none, MemoryStore.info "a"⟩
  have hmem : (⟨1, 2, event, []⟩ : Told) ∈ overtaken.told := by
    rw [overtaken_told]
    exact List.mem_singleton_self _
  obtain ⟨own, hown, hhooks⟩ := hall overtaken overtaken_reachable _ hmem
  obtain rfl : watching = own := Option.some.inj hown
  have hdeclared : watching.hooksFor event = .ok [watcher] := by decide +kernel
  cases hdeclared.symm.trans hhooks

end Live

end Http

end ObjectGateway
