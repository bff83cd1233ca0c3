import ObjectGateway.Proofs.Gateway.Reads
import ObjectGateway.Proofs.Routing
import ObjectGateway.Provider.Store

/-!
# What a valid configuration can be depended on for

Validation reads patterns, waits and expirations only to see that they can be read, and checks
mount paths and bounds once.  All this is read and used again where targets are loaded, requests
routed, folders listed and addresses signed, and it does not fail there: `Config.validate_once`.
-/

namespace ObjectGateway

open Exchange (called)

/-- What is used of a configuration after it has been validated does not fail. -/
structure Config.Dependable (c : Config) : Prop where
  /-- The rules of a target can be read. -/
  rules : ∀ t ∈ c.targets, ∃ rules, Rule.ofConfigs t.rules = .ok rules
  /-- The waits of a webhook can be read, and the first is not longer than the longest. -/
  waits : ∀ t ∈ c.targets, ∀ w ∈ t.actions.webhooks, ∃ wait longest,
    w.retryWaits = .ok (wait, longest) ∧ wait.nanos ≤ longest.nanos
  /-- Who is to be redirected to a signed address gets as far as the store. -/
  signing : ∀ g : Gateway, g.target.config ∈ c.targets →
    ∀ (key : String) (input : GetInput) (u : Conversation GatewayInterface) (a : Answer Unit),
      (g.redirectToSignedUrl key input).Runs u a → ∃ span reply rest,
        g.getConfig.expiration = .ok span ∧
          u = called (.signedUrl key input.conditions span) reply :: rest
  /-- A path below a mount can be cut one octet before the end of the mount path, which is not
  empty, and no character is cut apart. -/
  cuts : ∀ t ∈ c.targets, ∀ p ∈ t.mount.paths, ∀ path : String, p.toList <+: path.toList →
    0 < p.utf8ByteSize ∧ ∃ before after : String, path = before ++ after ∧
      before.utf8ByteSize = p.utf8ByteSize - 1
  /-- The path below the mount of a route is what is left behind such a cut. -/
  routes : ∀ targets : List Target, (∀ target ∈ targets, target.config ∈ c.targets) →
    ∀ (host : Option String) (path : String) (r : Route Target),
      route (fun t : Target => t.config.mount) targets host path = some r →
        ∃ before, path = before ++ r.rawPath ∧
          before.utf8ByteSize = r.mountPath.utf8ByteSize - 1
  /-- The first page of a listing is asked for with a number of keys that a provider takes. -/
  listings : ∀ t ∈ c.targets, ∀ (surroundings : Surroundings) (store : BucketStore),
    BucketStore.ofTarget surroundings t = .ok store →
      ∀ (most : Nat) (keyPrefix : String) (u : Conversation ProviderInterface)
        (result : Option (Answer (List Descriptor × ResultInfo))),
        (store.list (most + 1) keyPrefix).Runs u result → ∃ maxKeys headers reply rest,
          u = ⟨.call (.listPage ⟨keyPrefix, none, maxKeys⟩) headers, reply⟩ :: rest ∧
            1 ≤ maxKeys ∧ maxKeys ≤ 1000

/-! ## Targets -/

namespace TargetConfig.Valid

variable {t : TargetConfig}

theorem ofConfigs (h : t.Valid) : ∃ rules, Rule.ofConfigs t.rules = .ok rules := by
  refine mapM_isOk_iff.2 fun rule hrule => ?_
  obtain ⟨p, hp⟩ := h.rules rule hrule
  exact ⟨⟨p, rule.target, rule.kind⟩, by rw [Rule.ofConfig, hp]⟩

theorem retryWaits (h : t.Valid) {w : Webhook} (hw : w ∈ t.actions.webhooks) :
    ∃ wait longest, w.retryWaits = .ok (wait, longest) ∧ wait.nanos ≤ longest.nanos := by
  obtain ⟨⟨wait, longest⟩, hwaits⟩ :=
    Webhook.retryWaits_isOk_iff.2 (h.webhooks w (Actions.mem_webhooks_iff.1 hw))
  exact ⟨wait, longest, hwaits, Webhook.retryWaits_ordered hwaits⟩

/-- A target without settings for reads has the standard ones. -/
theorem expiration_isOk {g : Gateway} (h : g.target.config.Valid) :
    ∃ span, g.getConfig.expiration = .ok span := by
  rw [GetConfig.expiration_isOk_iff, Gateway.getConfig]
  intro s hs
  cases hget : g.target.config.actions.get with
  | none => simp [hget, GetConfig.standard] at hs
  | some action => exact h.expiration action s hget (by simpa [hget] using hs)

theorem redirectToSignedUrl {g : Gateway} (h : g.target.config.Valid) {key : String}
    {input : GetInput} {u : Conversation GatewayInterface} {a : Answer Unit}
    (hrun : (g.redirectToSignedUrl key input).Runs u a) :
    ∃ span reply rest, g.getConfig.expiration = .ok span ∧
      u = called (.signedUrl key input.conditions span) reply :: rest := by
  obtain ⟨span, hspan⟩ := h.expiration_isOk
  rw [Gateway.redirectToSignedUrl_runs_iff, hspan] at hrun
  rcases hrun with ⟨f, rfl, -⟩ | ⟨url, rfl, -⟩
  · exact ⟨span, _, _, hspan, rfl⟩
  · exact ⟨span, _, _, hspan, rfl⟩

theorem isRooted (h : t.Valid) {p : String} (hp : p ∈ t.mount.paths) : Mount.isRooted p = true :=
  Mount.isRooted_iff.2 (h.rooted p hp)

end TargetConfig.Valid

/-- The cut before the last slash of a mount path is one octet before its end. -/
theorem cut_size {p path : String} (hrooted : Mount.isRooted p = true)
    (hbelow : p.toList <+: path.toList) :
    ∃ before, path = before ++ String.ofList (path.toList.drop (p.toList.length - 1)) ∧
      before.utf8ByteSize + 1 = p.utf8ByteSize := by
  obtain ⟨before, below, hmount, hpath, hcut⟩ := cut_of_rooted hrooted hbelow
  refine ⟨before, ?_, ?_⟩
  · rw [hcut, hpath, hmount, String.append_assoc]
  · rw [hmount, String.utf8ByteSize_append]
    rfl

/-! ## Listings -/

theorem Walk.start_maxKeys {cap : Int} (hcap : 0 < cap) (keyPrefix : String) :
    1 ≤ (start keyPrefix cap).request.maxKeys ∧
      (start keyPrefix cap).request.maxKeys ≤ 1000 := by
  simp only [start, request, greatestPage]
  omega

theorem BucketStore.ofTarget_bucket {surroundings : Surroundings} {t : TargetConfig}
    {store : BucketStore} (h : ofTarget surroundings t = .ok store) : store.bucket = t.bucket := by
  unfold ofTarget at h
  split at h
  · cases h
    rfl
  · obtain ⟨accessKey, -, h⟩ := bind_eq_ok_iff.1 h
    obtain ⟨secretKey, -, h⟩ := bind_eq_ok_iff.1 h
    cases h
    rfl

/-- A listing asks for its first page before anything else. -/
theorem BucketStore.list_first {store : BucketStore} {most : Nat} {keyPrefix : String}
    {u : Conversation ProviderInterface}
    {result : Option (Answer (List Descriptor × ResultInfo))}
    (h : (store.list (most + 1) keyPrefix).Runs u result) :
    ∃ headers reply rest,
      u = ⟨.call (.listPage (Walk.start keyPrefix store.bucket.listMaxKeys).request) headers,
        reply⟩ :: rest := by
  obtain ⟨listed, t₁, t₂, hlisting, -, rfl⟩ := Flow.runs_monad_bind_iff.1 h
  obtain ⟨page, t₃, t₄, hpage, -, rfl⟩ := Flow.runs_bind_iff.1 hlisting
  obtain ⟨reply, t₅, t₆, hcall, -, rfl⟩ := Flow.runs_monad_bind_iff.1 hpage
  obtain rfl := Flow.runs_ask_iff.1 hcall
  exact ⟨_, reply, t₆ ++ t₄ ++ t₂, rfl⟩

/-! ## Configurations -/

theorem Config.Valid.dependable {c : Config} (h : c.Valid) : c.Dependable where
  rules t ht := (h.targets t ht).ofConfigs
  waits t ht w hw := (h.targets t ht).retryWaits hw
  signing g hg key input u a hrun := (h.targets _ hg).redirectToSignedUrl hrun
  cuts t ht p hp path hbelow := by
    obtain ⟨before, hpath, hsize⟩ := cut_size ((h.targets t ht).isRooted hp) hbelow
    exact ⟨by omega, before, _, hpath, by omega⟩
  routes targets hconfigs host path r hr := by
    have hbest := bestMatch_of_route hr
    have hrooted := (h.targets _ (hconfigs _ hbest.mem)).isRooted hbest.isMatch.declared
    obtain ⟨before, hpath, hsize⟩ := cut_size hrooted hbest.isMatch.below
    rw [← route_rawPath hr] at hpath
    exact ⟨before, hpath, by omega⟩
  listings t ht surroundings store hstore most keyPrefix u result hrun := by
    have hkeys := Walk.start_maxKeys (h.targets t ht).maxKeys keyPrefix
    rw [← BucketStore.ofTarget_bucket hstore] at hkeys
    obtain ⟨headers, reply, rest, hfirst⟩ := BucketStore.list_first hrun
    exact ⟨_, headers, reply, rest, hfirst, hkeys⟩

/-- Validation succeeds exactly if the names of the targets are neither empty nor repeated and each
target can be served; and then nothing that was checked fails later, whatever is asked for and
whatever comes back. -/
theorem Config.validate_once (c : Config) :
    (c.validate = .ok () ↔ c.Valid) ∧ (c.validate = .ok () → c.Dependable) :=
  ⟨validate_eq_ok_iff, fun hvalid => (validate_eq_ok_iff.1 hvalid).dependable⟩

/-- A webhook of removals, which are not served, with a first wait above its longest one. -/
theorem Config.validate_once_docs :
    let hook : Webhook := ⟨"http://hooks.test/", "POST", [], [], 3, some "5s", some "1s"⟩
    let get : GetConfig := { GetConfig.standard with signedUrlExpiration := some "15m" }
    let target : TargetConfig := (Gateway.docs [⟨"^a(.*)$", "b$1", .expansion⟩]
      ⟨some ⟨true, get⟩, none, some ⟨false, ⟨[hook]⟩⟩⟩).target.config
    let c : Config := ⟨.standard, ⟨[], .const none⟩, [target]⟩
    c.validate = .ok () ∧ (∃ rules, Rule.ofConfigs target.rules = .ok rules) ∧
      ∃ wait longest, hook.retryWaits = .ok (wait, longest) ∧ wait.nanos ≤ longest.nanos := by
  intro hook get target c
  have hvalid : c.validate = .ok () := by decide +kernel
  have hdependable : c.Dependable := (validate_once c).2 hvalid
  have hwebhook : hook ∈ target.actions.webhooks := by decide
  exact ⟨hvalid, hdependable.rules target List.mem_cons_self,
    hdependable.waits target List.mem_cons_self hook hwebhook⟩

end ObjectGateway
