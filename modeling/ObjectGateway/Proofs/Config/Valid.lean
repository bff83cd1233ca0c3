import Mathlib.Data.List.Nodup
import ObjectGateway.Config.Validate
import ObjectGateway.Proofs.Failure

/-!
# What validation checks

A configuration is valid if its targets have names of their own and each of them can be served:
`Config.Valid`.  Validation stops at the first target that cannot be, and at the first thing that is
wrong with it, so it succeeds exactly for the valid configurations: `Config.validate_eq_ok_iff`.
-/

namespace ObjectGateway

/-- The waits of a webhook can be read. -/
def Webhook.Valid (w : Webhook) : Prop :=
  ∀ s, w.defaultWaitTime = some s ∨ w.maxWaitTime = some s →
    ∃ span, Timespan.parse s = .ok span

/-- A target can be served. -/
structure TargetConfig.Valid (t : TargetConfig) : Prop where
  mounted : t.mount.paths ≠ []
  rooted : ∀ p ∈ t.mount.paths, p.toList.head? = some '/' ∧ p.toList.getLast? = some '/'
  bucket : t.bucket.name ≠ ""
  maxKeys : 0 < t.bucket.listMaxKeys
  rules : ∀ rule ∈ t.rules, ∃ p, Pattern.load rule.source = .ok p
  /-- The webhooks of all actions count, whether these are enabled or not. -/
  webhooks : ∀ w, w ∈ t.actions.getWebhooks ∨ w ∈ t.actions.putWebhooks ∨
    w ∈ t.actions.deleteWebhooks → w.Valid
  expiration : ∀ action s, t.actions.get = some action →
    action.config.signedUrlExpiration = some s → ∃ span, Timespan.parse s = .ok span

/-- A configuration can be served. -/
structure Config.Valid (c : Config) : Prop where
  named : ∀ t ∈ c.targets, t.name ≠ ""
  distinct : (c.targets.map (·.name)).Nodup
  targets : ∀ t ∈ c.targets, t.Valid

/-! ## Targets -/

theorem Config.require_eq_ok_iff {condition : Bool} {reason : String} {u : Unit} :
    Config.require condition reason = .ok u ↔ condition = true := by
  unfold Config.require
  cases condition with
  | false => simp
  | true => simp

theorem Mount.isRooted_iff {path : String} :
    Mount.isRooted path = true ↔
      path.toList.head? = some '/' ∧ path.toList.getLast? = some '/' := by
  rw [isRooted, Bool.and_eq_true, decide_eq_true_iff, decide_eq_true_iff]

namespace Webhook

theorem waitOr_isOk_iff {standard : Timespan} {text : Option String} :
    (∃ span, waitOr standard text = .ok span) ↔
      ∀ s, text = some s → ∃ span, Timespan.parse s = .ok span := by
  cases text with
  | none => simp [waitOr]
  | some s => simp [waitOr]

/-- The waits of a webhook are read where both of them can be. -/
theorem retryWaits_isOk_iff {w : Webhook} : (∃ waits, w.retryWaits = .ok waits) ↔ w.Valid := by
  have hparts : (∃ waits, w.retryWaits = .ok waits) ↔
      (∃ wait, waitOr standardWait w.defaultWaitTime = .ok wait) ∧
        ∃ longest, waitOr standardMaxWait w.maxWaitTime = .ok longest := by
    simp only [retryWaits, bind_eq_ok_iff]
    constructor
    · rintro ⟨_, wait, hwait, longest, hlongest, -⟩
      exact ⟨⟨wait, hwait⟩, longest, hlongest⟩
    · rintro ⟨⟨wait, hwait⟩, longest, hlongest⟩
      exact ⟨_, wait, hwait, longest, hlongest, rfl⟩
  rw [hparts, waitOr_isOk_iff, waitOr_isOk_iff]
  exact ⟨fun ⟨hwait, hlongest⟩ s hs => hs.elim (hwait s) (hlongest s),
    fun h => ⟨fun s hs => h s (.inl hs), fun s hs => h s (.inr hs)⟩⟩

/-- The longest wait is not shorter than the first. -/
theorem retryWaits_ordered {w : Webhook} {wait longest : Timespan}
    (h : w.retryWaits = .ok (wait, longest)) : wait.nanos ≤ longest.nanos := by
  obtain ⟨first, -, h⟩ := bind_eq_ok_iff.1 h
  obtain ⟨most, -, h⟩ := bind_eq_ok_iff.1 h
  cases h
  unfold Timespan.max
  split <;> omega

end Webhook

theorem GetConfig.expiration_isOk_iff {g : GetConfig} :
    (∃ span, g.expiration = .ok span) ↔
      ∀ s, g.signedUrlExpiration = some s → ∃ span, Timespan.parse s = .ok span := by
  unfold expiration
  cases g.signedUrlExpiration with
  | none => simp
  | some s => simp

theorem Actions.mem_webhooks_iff {a : Actions} {w : Webhook} :
    w ∈ a.webhooks ↔ w ∈ a.getWebhooks ∨ w ∈ a.putWebhooks ∨ w ∈ a.deleteWebhooks := by
  rw [webhooks, List.mem_append, List.mem_append, or_assoc]

namespace TargetConfig

variable {t : TargetConfig}

theorem validateWebhook_eq_ok_iff {w : Webhook} : t.validateWebhook w = .ok () ↔ w.Valid := by
  rw [← Webhook.retryWaits_isOk_iff, validateWebhook]
  cases w.retryWaits with
  | ok waits => simp
  | error f => cases f <;> simp

/-- All checks of a target pass exactly if it can be served. -/
theorem validate_eq_ok_iff : t.validate = .ok () ↔ t.Valid := by
  unfold validate
  simp only [check_bind_eq_ok_iff, Config.require_eq_ok_iff, forM_eq_ok_iff, Mount.isRooted_iff,
    validateWebhook_eq_ok_iff]
  constructor
  · rintro ⟨hmounted, hrooted, hbucket, hkeys, hrules, hwebhooks, hexpiration⟩
    refine ⟨by simpa using hmounted, hrooted, by simpa using hbucket, by simpa using hkeys,
      fun rule hrule => ?_, fun w hw => hwebhooks w (Actions.mem_webhooks_iff.2 hw),
      fun action s haction => ?_⟩
    · have hchecked := hrules rule hrule
      split at hchecked
      · next p hp => exact ⟨p, hp⟩
      · cases hchecked
    · rw [haction] at hexpiration
      exact GetConfig.expiration_isOk_iff.1 (map_eq_ok_iff.1 hexpiration) s
  · intro h
    refine ⟨by simpa using h.mounted, h.rooted, by simpa using h.bucket, by simpa using h.maxKeys,
      fun rule hrule => ?_, fun w hw => h.webhooks w (Actions.mem_webhooks_iff.1 hw), ?_⟩
    · obtain ⟨p, hp⟩ := h.rules rule hrule
      rw [hp]
    · cases hget : t.actions.get with
      | none => rfl
      | some action =>
        exact map_eq_ok_iff.2 (GetConfig.expiration_isOk_iff.2 fun s => h.expiration action s hget)

end TargetConfig

/-! ## Configurations -/

namespace Config

/-- Targets are checked one after the other, each with the names of those before it. -/
theorem validateTargets_eq_ok_iff {names : List String} {ts : List TargetConfig} :
    validateTargets names ts = .ok () ↔
      (∀ t ∈ ts, t.name ≠ "" ∧ t.name ∉ names ∧ t.Valid) ∧ (ts.map (·.name)).Nodup := by
  induction ts generalizing names with
  | nil => simp [validateTargets]
  | cons t rest ih =>
    unfold validateTargets
    simp only [check_bind_eq_ok_iff, require_eq_ok_iff, TargetConfig.validate_eq_ok_iff, ih]
    constructor
    · rintro ⟨hnamed, hnew, hvalid, hrest, hdistinct⟩
      have hnames : t.name ∉ rest.map (·.name) := by
        intro hmem
        obtain ⟨u, hu, hname⟩ := List.mem_map.1 hmem
        exact (hrest u hu).2.1 (hname ▸ List.mem_cons_self)
      refine ⟨List.forall_mem_cons.2 ⟨⟨by simpa using hnamed, by simpa using hnew, hvalid⟩,
        fun u hu => ?_⟩, List.nodup_cons.2 ⟨hnames, hdistinct⟩⟩
      obtain ⟨hu', hnew', hvalid'⟩ := hrest u hu
      exact ⟨hu', fun h => hnew' (List.mem_cons_of_mem _ h), hvalid'⟩
    · rintro ⟨htargets, hdistinct⟩
      obtain ⟨⟨hnamed, hnew, hvalid⟩, hrest⟩ := List.forall_mem_cons.1 htargets
      obtain ⟨hnames, hdistinct⟩ := List.nodup_cons.1 hdistinct
      refine ⟨by simpa using hnamed, by simpa using hnew, hvalid, fun u hu => ?_, hdistinct⟩
      obtain ⟨hu', hnew', hvalid'⟩ := hrest u hu
      refine ⟨hu', fun h => ?_, hvalid'⟩
      rcases List.mem_cons.1 h with hname | h
      · exact hnames (List.mem_map.2 ⟨u, hu, hname⟩)
      · exact hnew' h

/-- Validation succeeds exactly for the valid configurations. -/
theorem validate_eq_ok_iff {c : Config} : c.validate = .ok () ↔ c.Valid := by
  rw [validate, validateTargets_eq_ok_iff]
  constructor
  · rintro ⟨htargets, hdistinct⟩
    exact ⟨fun t ht => (htargets t ht).1, hdistinct, fun t ht => (htargets t ht).2.2⟩
  · intro h
    exact ⟨fun t ht => ⟨h.named t ht, List.not_mem_nil, h.targets t ht⟩, h.distinct⟩

end Config

end ObjectGateway
