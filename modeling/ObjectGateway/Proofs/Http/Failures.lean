import ObjectGateway.Proofs.Gateway.Reads
import ObjectGateway.Proofs.Http.Gates
import ObjectGateway.Proofs.Provider.Calls

/-!
# Failures of a provider over HTTP

A request for the content of a file asks the store of its target at once, and what the store says of
a failure of its provider is what the client is told: `ReadsFile.readTold`.  With what the store
makes of failures and counts, `provider_failures_told` follows a failure from the provider to the
status of the response, and the calls of stores to the counters.
-/

namespace ObjectGateway.Http.Service

open ObjectGateway.Flow
open Exchange (called sent answered)

/-- The gateway of a route. -/
def gatewayOf (s : Setup) (route : Route Target) : Gateway := ⟨route.target, s.engine⟩

/-- The context of a request. -/
def contextOf (request : Request) (route : Route Target) : RequestContext :=
  ⟨requestInfo request.method request.uri request.headers, none, route.mountPath⟩

/-- A request is for the content of a file, which is sent from the object of a key.  A file that is
not there is answered as such. -/
structure ReadsFile (s : Setup) (snapshot : Snapshot) (request : Request) (route : Route Target)
    (input : GetInput) (key : String) : Prop where
  method : request.method = "GET"
  notProbe : isProbe request = false
  routed : routeOf snapshot request = some route
  enabled : route.target.config.actions.getEnabled = true
  decoded : decodePath route.rawPath = .ok input.requestPath
  read : readGetInput input.requestPath request.headers = .ok input
  file : isFolderPath input.requestPath = false
  rewritten :
    (gatewayOf s route).objectKey (contextOf request route) input.requestPath = .ok key
  unsigned : (gatewayOf s route).getConfig.redirectToSignedUrl = false
  stays : (gatewayOf s route).getConfig.redirectWithTrailingSlash = false

/-- The page that tells a client that nothing was found is shown, after the store has been asked for
its template. -/
def NotFoundShown (r : Responder) (calls : Conversation StoreInterface) : Prop :=
  ∃ first shown, first <+: calls ∧
    (r.renderPage .notFound (r.failureValues "Not Found")).Runs first (.ok shown)

section Reads

variable {s : Setup} {snapshot : Snapshot} {request : Request} {route : Route Target}
  {input : GetInput} {key : String} {t : Conversation ServiceInterface} {response : Response}

/-- A call of a gateway is passed on, and the rest of what it asks for is carried on. -/
theorem carries_called {r : Responder} {c : StoreCall} {reply : c.Reply}
    {u : Conversation GatewayInterface} {v : Conversation TargetInterface}
    {slot last : Responder.Slot} (h : Responder.Carries r (called c reply :: u) slot v last) :
    ∃ rest, v = ⟨.store c, reply⟩ :: rest ∧ Responder.Carries r u slot rest last := by
  cases h with
  | cons hfirst hrest =>
    cases hfirst
    exact ⟨_, rfl, hrest⟩

theorem storeCalls_counted (t : Conversation ServiceInterface) (c : Count) :
    storeCalls (t ++ [⟨.count c, ()⟩]) = storeCalls t := by
  simp [storeCalls, storeCall?]

theorem ReadsFile.routed_eq (h : ReadsFile s snapshot request route input key) :
    Service.routed s request route =
      (gatewayOf s route).read (contextOf request route) .get input := by
  simp [Service.routed, serve, h.decoded, perform, h.method, h.read, gatewayOf, contextOf]

/-- The store is asked for the object first, and its failure is what the response is made of. -/
theorem ReadsFile.asks (h : ReadsFile s snapshot request route input key)
    (hrun : (handle s snapshot request).Runs t response) :
    ∃ (reply : Answer (GetOutput × ResultInfo)) (rest : Conversation StoreInterface),
      storeCalls t = ⟨.get key input.conditions, reply⟩ :: rest ∧
        ∀ f, reply = .error f → (responder s snapshot request).OutcomeMade (Gateway.readOutcome f)
          rest response := by
  obtain ⟨t, hrespond, rfl⟩ := handle_runs_iff.1 hrun
  rw [respond_of_not_isProbe h.notProbe] at hrespond
  cases ProcessRun.of_runs hrespond with
  | unrouted hroute _ => cases hroute.symm.trans h.routed
  | refused hroute hmethod =>
    cases hroute.symm.trans h.routed
    simp [methodEnabled, h.method, h.enabled] at hmethod
  | @routed route' u v slot hroute _ hu hcarries =>
    cases hroute.symm.trans h.routed
    rw [h.routed_eq] at hu
    have hopened (output : GetOutput) (info : ResultInfo) (u' : Conversation GatewayInterface)
        (hu' : u = called (.get key input.conditions) (.ok (output, info)) :: u') :
        ∃ rest, storeCalls (v.map (ofTarget route.target.config) ++
            [⟨.count (.answered request.method (Responder.finish slot).status), ()⟩]) =
          ⟨.get key input.conditions, .ok (output, info)⟩ :: rest := by
      subst hu'
      obtain ⟨rest, rfl, -⟩ := carries_called hcarries
      exact ⟨_, rfl⟩
    rcases Gateway.read_runs_of_file hu h.rewritten h.file h.unsigned with
      ⟨f, rfl⟩ | ⟨output, info, f, hu'⟩ | ⟨output, info, hu'⟩
    · obtain ⟨v, rfl, hrest⟩ := carries_called hcarries
      obtain ⟨calls, response, rfl, rfl, -, hmade⟩ := hrest.of_answered
      refine ⟨.error f, calls, ?_, fun f' hf' => ?_⟩
      · rw [storeCalls_counted]
        exact congrArg (_ :: ·) (storeCalls_ofTarget route.target.config calls)
      · cases hf'
        have houtcome : (gatewayOf s route).fileFailure input.requestPath f =
            Gateway.readOutcome f := by
          simp [Gateway.fileFailure, h.stays]
        rwa [houtcome] at hmade
    · obtain ⟨rest, hcalls⟩ := hopened output info _ hu'
      exact ⟨_, rest, hcalls, nofun⟩
    · obtain ⟨rest, hcalls⟩ := hopened output info _ hu'
      exact ⟨_, rest, hcalls, nofun⟩

/-- What a client is told of a failure of the provider: the status of the response. -/
structure Told (f : ProviderFailure) (status : Nat) : Prop where
  missing : status = 404 ↔ f.IsMissing
  unmodified : status = 304 ↔ f.IsUnmodified
  unmet : status = 412 ↔ f.IsUnmet
  other : status = 500 ↔ f.IsOther

/-- What the response to an outcome without a page is. -/
theorem outcomeMade_plain {r : Responder} {o : Outcome} {plain : Response}
    {calls : Conversation StoreInterface} (h : r.OutcomeMade o calls response)
    (hplain : r.plainResponse? o = some plain) (hpage : r.outcomePage? o = none) :
    response = plain := by
  rcases h with ⟨page, values, hsome, -⟩ | ⟨-, hmade⟩
  · cases hsome.symm.trans hpage
  · exact Option.some.inj (hmade.symm.trans hplain)

/-- What the response to an outcome with a page is. -/
theorem outcomeMade_page {r : Responder} {o : Outcome} {page : Page} {values : Json}
    {calls : Conversation StoreInterface} (h : r.OutcomeMade o calls response)
    (hpage : r.outcomePage? o = some (page, values)) (hplain : r.plainResponse? o = none) :
    Responder.PageMade r page values calls response := by
  rcases h with ⟨page', values', hsome, hmade⟩ | ⟨-, hmade⟩
  · cases hsome.symm.trans hpage
    exact hmade
  · cases hmade.symm.trans hplain

/-- The status tells what a failure of the provider means, given that the page is shown which tells
that nothing was found. -/
theorem told_of_outcomeMade {f : ProviderFailure} {e : Failure}
    {conditions : GetConditions} {r : Responder} {calls : Conversation StoreInterface}
    (hmeans : f.Means (.get key conditions) e)
    (hmade : r.OutcomeMade (Gateway.readOutcome e) calls response)
    (hshown : f.IsMissing → NotFoundShown r calls) : Told f response.status := by
  obtain ⟨hmissing, hunmodified, hunmet, hother⟩ := hmeans
  rcases f.expected?_cases with ⟨h, -⟩ | ⟨h, -⟩ | ⟨h, -⟩ | ⟨h, -⟩
  · obtain rfl := hmissing.2 h.1
    obtain ⟨first, shown, hfirst, hrun⟩ := hshown h.1
    have hstatus : response.status = 404 := by
      rw [(outcomeMade_page hmade rfl rfl).eq_of_shown hfirst hrun]
      exact Responder.renderPage_status hrun
    constructor <;> simp [hstatus, h, ProviderFailure.IsOther]
  · obtain rfl := hunmodified.2 h.2.1
    obtain rfl := outcomeMade_plain hmade rfl rfl
    constructor <;> simp [h, ProviderFailure.IsOther, Response.bare]
  · obtain rfl := hunmet.2 h.2.2
    obtain rfl := outcomeMade_plain hmade rfl rfl
    constructor <;> simp [h, ProviderFailure.IsOther, Response.bare]
  · obtain ⟨reason, rfl⟩ := hother.2 h
    have hstatus : response.status = 500 :=
      (outcomeMade_page hmade rfl rfl).status.elim id id
    constructor <;> simp [hstatus, h, h.1, h.2.1, h.2.2]

/-- What a store and its client make of a failure of the provider.  The store is asked for the
object first; and where it says what a run of its call of the provider has come to, the client is
told of the failure that the provider replied in it. -/
structure ReadTold (r : Responder) (key : String) (conditions : GetConditions)
    (t : Conversation ServiceInterface) (response : Response)
    (reply : Answer (GetOutput × ResultInfo)) (rest : Conversation StoreInterface) : Prop where
  asks : storeCalls t = ⟨.get key conditions, reply⟩ :: rest
  tells : ∀ (store : BucketStore) (most : Nat) (u : Conversation ProviderInterface)
    (asked : ProviderCall) (headers : TextMap String) (f : ProviderFailure),
    (store.perform most (.get key conditions)).Runs u (some reply) →
    ⟨.call asked headers, asked.fail f⟩ ∈ u → (f.IsMissing → NotFoundShown r rest) →
    Told f response.status

theorem ReadsFile.readTold (h : ReadsFile s snapshot request route input key)
    (hrun : (handle s snapshot request).Runs t response) :
    ∃ reply rest, ReadTold (responder s snapshot request) key input.conditions t response
      reply rest := by
  obtain ⟨reply, rest, hcalls, hmade⟩ := h.asks hrun
  refine ⟨reply, rest, hcalls, fun store most u asked headers f hperform hfails hshown => ?_⟩
  obtain ⟨e, hmeans, hreply⟩ :=
    (BucketStore.perform_performed hperform).fails asked headers f hfails
  exact told_of_outcomeMade hmeans (hmade e (Option.some.inj hreply)) hshown

end Reads

/-- A provider that refuses every call. -/
def refusing (f : ProviderFailure) : Server ProviderInterface Unit
  | .call c _, s => (c.fail f, s)
  | .sign _, s => (⟨"", "", ""⟩, s)
  | .count _, s => ((), s)

/-- The failure of a read that a conversation with a store begins with. -/
def firstFailure? : Conversation StoreInterface → Option Failure
  | ⟨.get _ _, .error f⟩ :: _ => some f
  | _ => none

end ObjectGateway.Http.Service
