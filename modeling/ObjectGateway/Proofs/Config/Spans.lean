import ObjectGateway.Config.Validate
import ObjectGateway.Proofs.Timespan.Cuts

/-!
# The spans of a configuration

Validation reads every wait and every expiration of a configuration as a span of time, and aborts
only if reading one of these texts does: `Config.validate_aborts`.  The main statement,
`Config.abort_at_split_character`, says when this is so.
-/

namespace ObjectGateway

/-- The waits of a webhook as they are written. -/
def Webhook.spans (w : Webhook) : List String := w.defaultWaitTime.toList ++ w.maxWaitTime.toList

/-- The waits and the expiration of a target as they are written. -/
def TargetConfig.spans (t : TargetConfig) : List String :=
  t.actions.webhooks.flatMap Webhook.spans ++
    (t.actions.get.bind (·.config.signedUrlExpiration)).toList

/-- All waits and expirations of a configuration as they are written. -/
def Config.spans (c : Config) : List String := c.targets.flatMap TargetConfig.spans

/-- A failure is no abort, unless reading one of some texts aborts. -/
def AbortsAt (texts : List String) (f : Failure) : Prop :=
  f = .aborted → ∃ s ∈ texts, Timespan.parse s = .error .aborted

variable {texts : List String}

theorem abortsAt_config (reason : String) : AbortsAt texts (.config reason) := by
  rintro ⟨⟩

theorem failsOnly_parse {s : String} (h : s ∈ texts) :
    FailsOnly (AbortsAt texts) (Timespan.parse s) := fun _ hf haborted =>
  ⟨s, h, haborted ▸ hf⟩

theorem Config.failsOnly_require (condition : Bool) (reason : String) :
    FailsOnly (AbortsAt texts) (Config.require condition reason) := by
  cases condition with
  | false => exact failsOnly_error (abortsAt_config reason)
  | true => exact failsOnly_ok ()

theorem Webhook.failsOnly_waitOr {standard : Timespan} {text : Option String}
    (h : text.toList ⊆ texts) : FailsOnly (AbortsAt texts) (waitOr standard text) := by
  cases text with
  | none => exact failsOnly_ok standard
  | some s => exact failsOnly_parse (h List.mem_cons_self)

theorem Webhook.failsOnly_retryWaits {w : Webhook} (h : w.spans ⊆ texts) :
    FailsOnly (AbortsAt texts) w.retryWaits := by
  obtain ⟨hwait, hlongest⟩ := List.append_subset.1 h
  exact (failsOnly_waitOr hwait).bind fun _ =>
    (failsOnly_waitOr hlongest).bind fun _ => failsOnly_ok _

namespace TargetConfig

variable {t : TargetConfig}

theorem failsOnly_validateWebhook {w : Webhook} (h : w.spans ⊆ texts) :
    FailsOnly (AbortsAt texts) (t.validateWebhook w) := by
  have hwaits := Webhook.failsOnly_retryWaits h
  rw [validateWebhook]
  split
  · exact failsOnly_ok ()
  · next hw => exact failsOnly_error (hwaits _ hw)
  · exact failsOnly_error (abortsAt_config _)

theorem failsOnly_expiration {g : GetConfig} (h : g.signedUrlExpiration.toList ⊆ texts) :
    FailsOnly (AbortsAt texts) g.expiration := by
  unfold GetConfig.expiration
  cases hs : g.signedUrlExpiration with
  | none => exact failsOnly_ok _
  | some s => exact failsOnly_parse (h (by rw [hs]; exact List.mem_cons_self))

/-- A check of a target aborts only if reading one of its waits or its expiration does. -/
theorem failsOnly_validate (h : t.spans ⊆ texts) : FailsOnly (AbortsAt texts) t.validate := by
  obtain ⟨hwebhooks, hexpiration⟩ := List.append_subset.1 h
  have hrequire (condition : Bool) (reason : String) :
      FailsOnly (AbortsAt texts) (Config.require condition reason) :=
    Config.failsOnly_require condition reason
  refine (hrequire _ _).bind fun _ => .bind (.forM fun path _ => hrequire _ _) fun _ =>
    (hrequire _ _).bind fun _ => (hrequire _ _).bind fun _ =>
      .bind (.forM fun rule _ => ?_) fun _ => .bind (.forM fun w hw => ?_) fun _ => ?_
  · cases Pattern.load rule.source with
    | ok p => exact failsOnly_ok _
    | error e => exact failsOnly_error (abortsAt_config _)
  · exact failsOnly_validateWebhook fun s hs => hwebhooks (List.mem_flatMap_of_mem hw hs)
  · cases hget : t.actions.get with
    | none => exact failsOnly_ok ()
    | some action =>
      rw [hget] at hexpiration
      exact (failsOnly_expiration hexpiration).map _

end TargetConfig

namespace Config

theorem failsOnly_validateTargets {names : List String} {ts : List TargetConfig}
    (h : ∀ t ∈ ts, t.spans ⊆ texts) : FailsOnly (AbortsAt texts) (validateTargets names ts) := by
  induction ts generalizing names with
  | nil => exact failsOnly_ok ()
  | cons t ts ih =>
    exact (failsOnly_require _ _).bind fun _ => (failsOnly_require _ _).bind fun _ =>
      (TargetConfig.failsOnly_validate (h t List.mem_cons_self)).bind fun _ =>
        ih fun u hu => h u (List.mem_cons_of_mem t hu)

/-- Validation aborts only if reading a wait or an expiration does. -/
theorem validate_aborts {c : Config} (h : c.validate = .error .aborted) :
    ∃ s ∈ c.spans, Timespan.parse s = .error .aborted :=
  failsOnly_validateTargets (fun _ ht _ hs => List.mem_flatMap_of_mem ht hs) .aborted h rfl

/-- A text is read as a span, is refused by a failure that names it, or makes reading abort.  Reading
aborts exactly where the first component that cannot be replaced is cut inside a character, so never
if the decimal digits of the text are ASCII.  Validation aborts only at such a text. -/
theorem abort_at_split_character (raw : String) (c : Config) :
    ((∃ span, Timespan.parse raw = .ok span) ∨
        (∃ reason, Timespan.parse raw = .error (Timespan.invalid raw reason)) ∨
        Timespan.parse raw = .error .aborted) ∧
      (Timespan.parse raw = .error .aborted ↔
        ∃ before part after,
          Timespan.components (Text.trimList Text.isBlank raw.toList) = before ++ part :: after ∧
            (∀ b ∈ before, ∃ n, b.nanos = .ok n) ∧ part.Aborts) ∧
      ((∀ x ∈ raw.toList, Text.isDecimalDigit x = true → x.isDigit = true) →
        Timespan.parse raw ≠ .error .aborted) ∧
      (c.validate = .error .aborted →
        ∃ s ∈ c.spans, Timespan.parse s = .error .aborted) := by
  refine ⟨?_, Timespan.parse_eq_aborted_iff, Timespan.parse_ne_aborted, validate_aborts⟩
  cases hparse : Timespan.parse raw with
  | ok span => exact .inl ⟨span, rfl⟩
  | error f =>
    obtain rfl | ⟨reason, rfl⟩ := Timespan.parse_failsOnly raw f hparse
    · exact .inr (.inr rfl)
    · exact .inr (.inl ⟨reason, rfl⟩)

/-- Five Arabic digits of two octets each are cut inside the fifth one, also in a configuration. -/
theorem arabic_digits_abort :
    Timespan.parse "1.٣٣٣٣٣s" = .error .aborted ∧
      ∃ c : Config, c.spans = ["1.٣٣٣٣٣s"] ∧ c.validate = .error .aborted := by
  let part : Timespan.Component := ⟨['1'], ['٣', '٣', '٣', '٣', '٣'], ['s']⟩
  have hmatches : part.Matches := by
    refine ⟨List.all_eq_true.1 (by decide), ?_, by decide, List.all_eq_true.1 (by decide),
      by decide⟩
    simp [part, Timespan.isDecimalDigit_beyond_ascii]
  have haborts : part.Aborts :=
    ⟨⟨⟨1000000000⟩, by decide⟩, ⟨1, by decide⟩, Timespan.cut?_eq_none_iff.1 (by decide)⟩
  have htext : Text.trimList Text.isBlank "1.٣٣٣٣٣s".toList = part.text := by decide
  have hcomponents : Timespan.components part.text = [part] := by
    have htake := Timespan.take?_eq_some_iff.2 ⟨hmatches, (List.append_nil part.text).symm, by simp⟩
    rw [Timespan.components_of_take? htake, Timespan.components_nil]
  have hparse : Timespan.parse "1.٣٣٣٣٣s" = .error .aborted :=
    Timespan.parse_eq_aborted_iff.2
      ⟨[], part, [], by rw [htext, hcomponents]; rfl, by simp, haborts⟩
  let get : GetConfig := { GetConfig.standard with signedUrlExpiration := some "1.٣٣٣٣٣s" }
  let target : TargetConfig :=
    ⟨"t", ⟨none, ["/"]⟩, ⟨"b", "", "", none, none, false, 1, ⟨[], [], [], []⟩⟩, [],
      ⟨[], .const none⟩, ⟨some ⟨true, get⟩, none, none⟩⟩
  have hrooted : Mount.isRooted "/" = true := by decide
  have hexpiration : get.expiration = .error .aborted := hparse
  have hpass (reason : String) : require true reason = .ok () := rfl
  have hbucket : (!"b".isEmpty) = true := by decide
  have hwebhooks : target.actions.webhooks = [] := rfl
  have htarget : target.validate = .error .aborted := by
    rw [TargetConfig.validate, hwebhooks]
    simp only [target, List.isEmpty_cons, Bool.not_false, hpass, List.forM_eq_forM, List.forM_cons,
      List.forM_nil, hrooted, hbucket, hexpiration]
    rfl
  refine ⟨hparse, ⟨.standard, ⟨[], .const none⟩, [target]⟩, rfl, ?_⟩
  rw [validate, validateTargets, htarget]
  rfl

end Config

end ObjectGateway
