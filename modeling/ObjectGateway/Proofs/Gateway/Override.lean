import ObjectGateway.Proofs.Gateway.Runs
import ObjectGateway.Proofs.Rewrite
import ObjectGateway.Store.Memory

/-!
# Protection of objects

Where objects must not be replaced, an upload is stored only after the store has said that there is
none at its key.  `write_protects` says so for every run of an upload, together with what becomes of
the uploads that are refused.
-/

namespace ObjectGateway.Gateway

open Exchange (called told sent answered)

/-- An upload is refused: one outcome is the only answer, nothing is changed in the store and no
hook is told. -/
structure Refused (t : Conversation GatewayInterface) (outcome : Outcome) : Prop where
  answers : t.answers = [.outcome outcome]
  changes : t.changes = []
  events : t.events = []

/-- How objects are protected in a conversation of an upload. -/
structure Protected (g : Gateway) (c : PutConfig) (ctx : RequestContext) (input : PutInput)
    (t : Conversation GatewayInterface) : Prop where
  /-- The store is called for the rewritten key only. -/
  keys : ∀ e ∈ t.storeCalls, g.objectKey ctx (uploadPath input) = .ok e.op.key
  /-- An object is stored once, in the last of two calls, and the first one has found none. -/
  stored : ∀ r reply, ⟨.put r, reply⟩ ∈ t.storeCalls →
    t.storeCalls = [⟨.head r.key, .error .notFound⟩, ⟨.put r, reply⟩]
  /-- An upload to the key of an object is forbidden, and the failure names the key. -/
  occupied : ∀ key found, ⟨.head key, .ok found⟩ ∈ t.storeCalls →
    ∃ f, Refused t (.forbidden f) ∧ key.toList <:+: f.message.toList
  /-- Any other failure to ask for an object is answered as such. -/
  unknown : ∀ key f, ⟨.head key, .error f⟩ ∈ t.storeCalls → f ≠ .notFound →
    Refused t (failureOutcome f) ∧ (f.IsOpaque → Refused t (.internalServerError f))
  /-- Without a key, the store is not called. -/
  unrewritten : ∀ f, g.objectKey ctx (uploadPath input) = .error f →
    t.storeCalls = [] ∧ Refused t (failureOutcome f) ∧
      (g.engine.FailsAsTemplate → Refused t (.internalServerError f))
  /-- Without metadata, the store is not called either. -/
  unrendered : ∀ key, g.objectKey ctx (uploadPath input) = .ok key →
    g.MetadataFails c (putValues ctx input key) →
      t.storeCalls = [] ∧ ∃ f, Refused t (failureOutcome f) ∧
        (g.engine.FailsAsTemplate → Refused t (.internalServerError f))

/-! ## Failures before the store is called -/

section Failures

variable {g : Gateway} {c : PutConfig} {ctx : RequestContext} {r : PutRequest}

/-- The failures of rewriting and of metadata are opaque, as those of the engine are. -/
theorem objectKey_failsOnly_isOpaque (hengine : g.engine.FailsAsTemplate) (path : String) :
    FailsOnly Failure.IsOpaque (g.objectKey ctx path) := by
  refine RewriteContext.rewrite_failsOnly fun source context f hf => ?_
  obtain ⟨reason, rfl⟩ := hengine source context f hf
  trivial

theorem withMetadata_failsOnly_isOpaque (hengine : g.engine.FailsAsTemplate) (values : Json) :
    FailsOnly Failure.IsOpaque (g.withMetadata c values r) := by
  refine withMetadata_failsOnly (fun source f hf => ?_) (fun _ => trivial) c r
  obtain ⟨reason, rfl⟩ := hengine source values f hf
  trivial

end Failures

/-! ## Every run of an upload -/

section Protection

variable {g : Gateway} {c : PutConfig} {ctx : RequestContext} {input : PutInput}
  {t : Conversation GatewayInterface}

theorem absenceCheck_of_keepsObjects (hkeeps : g.keepsObjects = true) (key : String) :
    g.absenceCheck key = [called (.head key) (.error .notFound)] := by
  rw [absenceCheck, if_pos hkeeps]

/-- The store is called for the key of an upload only. -/
theorem WriteRun.keys (h : WriteRun g ctx input t) (hkeeps : g.keepsObjects = true) :
    ∀ e ∈ t.storeCalls, g.objectKey ctx (uploadPath input) = .ok e.op.key := by
  intro e he
  cases h with
  | unrewritten _ => simp at he
  | unrendered _ _ => simp at he
  | occupied hkey _ _ =>
    obtain rfl := by simpa using he
    exact hkey
  | unknown hkey _ _ _ =>
    obtain rfl := by simpa using he
    exact hkey
  | @unstored key r f hkey hrequest =>
    have hr : r.key = key := (uploadRequest_key_body hrequest).1
    rw [absenceCheck_of_keepsObjects hkeeps] at he
    rcases (by simpa using he : _ ∨ _) with rfl | rfl
    · exact hkey
    · rw [hkey, ← hr]
      rfl
  | @stored key r info hkey hrequest =>
    have hr : r.key = key := (uploadRequest_key_body hrequest).1
    rw [absenceCheck_of_keepsObjects hkeeps] at he
    rcases (by simpa using he : _ ∨ _) with rfl | rfl
    · exact hkey
    · rw [hkey, ← hr]
      rfl

/-- An object is stored only after the store has been asked for one and has found none. -/
theorem WriteRun.stored_after_absence (h : WriteRun g ctx input t) (hkeeps : g.keepsObjects = true)
    {r : PutRequest} {reply : Answer ResultInfo} (hput : ⟨.put r, reply⟩ ∈ t.storeCalls) :
    t.storeCalls = [⟨.head r.key, .error .notFound⟩, ⟨.put r, reply⟩] := by
  -- Only in the last two cases the store is asked to put an object, after the question for one.
  cases h with
  | unrewritten _ => simp at hput
  | unrendered _ _ => simp at hput
  | occupied _ _ _ => simp at hput
  | unknown _ _ _ _ => simp at hput
  | @unstored key r' f hkey hrequest =>
    have hr : r'.key = key := (uploadRequest_key_body hrequest).1
    rw [absenceCheck_of_keepsObjects hkeeps] at hput ⊢
    obtain ⟨rfl, rfl⟩ : r = r' ∧ reply = .error f := by simpa using hput
    simp [hr]
  | @stored key r' info hkey hrequest =>
    have hr : r'.key = key := (uploadRequest_key_body hrequest).1
    rw [absenceCheck_of_keepsObjects hkeeps] at hput ⊢
    obtain ⟨rfl, rfl⟩ : r = r' ∧ reply = .ok info := by simpa using hput
    simp [hr]

/-- Where an object has been found, the upload is forbidden. -/
theorem WriteRun.refused_of_found (h : WriteRun g ctx input t) (hkeeps : g.keepsObjects = true)
    {key : String} {found : HeadOutput × ResultInfo}
    (hhead : ⟨.head key, .ok found⟩ ∈ t.storeCalls) :
    Refused t (.forbidden (.objectExists key)) := by
  cases h with
  | unrewritten _ => simp at hhead
  | unrendered _ _ => simp at hhead
  | occupied _ _ _ =>
    obtain ⟨rfl, rfl⟩ := by simpa using hhead
    exact ⟨rfl, rfl, rfl⟩
  | unknown _ _ _ _ => simp at hhead
  | unstored _ _ =>
    rw [absenceCheck_of_keepsObjects hkeeps] at hhead
    simp at hhead
  | stored _ _ =>
    rw [absenceCheck_of_keepsObjects hkeeps] at hhead
    simp at hhead

/-- Where the question for an object has failed otherwise than by finding none, that is answered. -/
theorem WriteRun.refused_of_unknown (h : WriteRun g ctx input t) (hkeeps : g.keepsObjects = true)
    {key : String} {f : Failure} (hhead : ⟨.head key, .error f⟩ ∈ t.storeCalls)
    (hf : f ≠ .notFound) : Refused t (failureOutcome f) := by
  cases h with
  | unrewritten _ => simp at hhead
  | unrendered _ _ => simp at hhead
  | occupied _ _ _ => simp at hhead
  | unknown _ _ _ _ =>
    obtain ⟨rfl, rfl⟩ := by simpa using hhead
    exact ⟨rfl, rfl, rfl⟩
  | unstored _ _ =>
    -- An upload was asked for, so that the question before it has found nothing.
    rw [absenceCheck_of_keepsObjects hkeeps] at hhead
    obtain ⟨-, rfl⟩ := by simpa using hhead
    exact absurd rfl hf
  | stored _ _ =>
    rw [absenceCheck_of_keepsObjects hkeeps] at hhead
    obtain ⟨-, rfl⟩ := by simpa using hhead
    exact absurd rfl hf

/-- Without a key an upload is refused at once. -/
theorem WriteRun.refused_of_objectKey (h : WriteRun g ctx input t) {f : Failure}
    (hkey : g.objectKey ctx (uploadPath input) = .error f) :
    t.storeCalls = [] ∧ Refused t (failureOutcome f) := by
  cases h with
  | unrewritten hkey' =>
    obtain rfl : _ = f := by simpa [hkey] using hkey'.symm
    exact ⟨rfl, rfl, rfl, rfl⟩
  | unrendered hkey' _ => simp [hkey] at hkey'
  | occupied hkey' _ _ => simp [hkey] at hkey'
  | unknown hkey' _ _ _ => simp [hkey] at hkey'
  | unstored hkey' _ => simp [hkey] at hkey'
  | stored hkey' _ => simp [hkey] at hkey'

/-- An upload whose object cannot be prepared is refused at once. -/
theorem WriteRun.refused_of_uploadRequest (h : WriteRun g ctx input t) {key : String} {f : Failure}
    (hkey : g.objectKey ctx (uploadPath input) = .ok key)
    (hrequest : g.uploadRequest ctx input key = .error f) :
    t.storeCalls = [] ∧ Refused t (failureOutcome f) := by
  have hsame {key' : String} (hkey' : g.objectKey ctx (uploadPath input) = .ok key') :
      key' = key := by simpa [hkey] using hkey'.symm
  cases h with
  | unrewritten hkey' => simp [hkey] at hkey'
  | unrendered hkey' hrequest' =>
    obtain rfl := hsame hkey'
    obtain rfl : _ = f := by simpa [hrequest] using hrequest'.symm
    exact ⟨rfl, rfl, rfl, rfl⟩
  | occupied hkey' hrequest' _ =>
    obtain rfl := hsame hkey'
    simp [hrequest] at hrequest'
  | unknown hkey' hrequest' _ _ =>
    obtain rfl := hsame hkey'
    simp [hrequest] at hrequest'
  | unstored hkey' hrequest' =>
    obtain rfl := hsame hkey'
    simp [hrequest] at hrequest'
  | stored hkey' hrequest' =>
    obtain rfl := hsame hkey'
    simp [hrequest] at hrequest'

theorem infix_append_append (a key b : String) :
    key.toList <:+: (a ++ key ++ b).toList := by
  refine ⟨a.toList, b.toList, ?_⟩
  rw [String.toList_append, String.toList_append]

/-- The failure for an object that is there names its key. -/
theorem key_infix_message (key : String) :
    key.toList <:+: (Failure.objectExists key).message.toList := infix_append_append _ _ _

/-- Where objects must not be replaced, no upload replaces one, whatever the store replies. -/
theorem write_protects (hconfig : g.putConfig? = some c) (hoverride : c.allowOverride = false)
    (h : (g.write ctx input).Runs t ()) : Protected g c ctx input t := by
  have hrun : WriteRun g ctx input t := write_runs_iff.1 h
  have hkeeps : g.keepsObjects = true := by simp [keepsObjects, hconfig, hoverride]
  have hopaque {f : Failure} (hf : f.IsOpaque) (hrefused : Refused t (failureOutcome f)) :
      Refused t (.internalServerError f) := by
    rwa [failureOutcome_of_isOpaque hf] at hrefused
  constructor
  · exact hrun.keys hkeeps
  · intro r reply hput
    exact hrun.stored_after_absence hkeeps hput
  · intro key found hhead
    exact ⟨_, hrun.refused_of_found hkeeps hhead, key_infix_message key⟩
  · intro key f hhead hf
    have hrefused := hrun.refused_of_unknown hkeeps hhead hf
    exact ⟨hrefused, fun ho => hopaque ho hrefused⟩
  · intro f hkey
    obtain ⟨hcalls, hrefused⟩ := hrun.refused_of_objectKey hkey
    exact ⟨hcalls, hrefused, fun hengine =>
      hopaque (objectKey_failsOnly_isOpaque hengine _ f hkey) hrefused⟩
  · intro key hkey hfails
    have hrequest : g.uploadRequest ctx input key =
        g.withMetadata c (putValues ctx input key) (plainRequest input key) := by
      simp [uploadRequest, hconfig]
    -- The order of rendering decides which failure is answered, but not whether there is one.
    obtain ⟨f, hf⟩ : Fails (g.uploadRequest ctx input key) := by
      rw [hrequest]
      exact withMetadata_fails_iff.2 hfails
    obtain ⟨hcalls, hrefused⟩ := hrun.refused_of_uploadRequest hkey hf
    rw [hrequest] at hf
    exact ⟨hcalls, f, hrefused, fun hengine =>
      hopaque (withMetadata_failsOnly_isOpaque hengine _ f hf) hrefused⟩

/-- An upload to the place of an object, below a target that does not let objects be replaced. -/
theorem write_protects_occupied :
    let c : PutConfig := ⟨[], none, none, false, none, []⟩
    let input : PutInput := ⟨"/a", "b", "text/plain", 2, [104, 105]⟩
    let found : HeadOutput × ResultInfo := (⟨"a/b", .empty⟩, MemoryStore.info "a/b")
    Protected (docs [] ⟨none, some ⟨true, some c⟩, none⟩) c default input
      [called (.head "a/b") (.ok found), answered (.forbidden (.objectExists "a/b"))] :=
  write_protects rfl rfl (write_runs_iff.2 (.occupied rfl rfl rfl))

end Protection

end ObjectGateway.Gateway
