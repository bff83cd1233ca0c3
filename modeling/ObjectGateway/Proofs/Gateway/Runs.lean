import ObjectGateway.Gateway.Delete
import ObjectGateway.Proofs.Gateway.Exchange
import ObjectGateway.Proofs.Gateway.Metadata

/-!
# The runs of writes and removals

Every conversation that a gateway can have while it answers an upload or removes an object, whatever
the store replies.  The conversations are listed: `write_runs_iff` and `remove_runs_iff` say that
`WriteRun` and `RemoveRun` are exactly those that occur.
-/

namespace ObjectGateway.Gateway

open GatewayFlow
open Exchange (called told sent answered)

/-- A gateway for a bucket `docs` below `/`, with some rules and without templates. -/
def docs (rules : List RuleConfig) (actions : Actions) : Gateway where
  target :=
    { config :=
        { name := "docs", mount := ⟨none, ["/"]⟩,
          bucket := ⟨"docs", "", "us-east-1", none, none, false, 1000, ⟨[], [], [], []⟩⟩,
          rules := rules, templates := ⟨[], .const none⟩, actions := actions }
      rules := (Rule.ofConfigs rules).toOption.getD []
      helpers := "" }
  engine := .standard

/-- The key of the object that a path leads to. -/
def objectKey (g : Gateway) (ctx : RequestContext) (path : String) : Answer String :=
  g.rewrite ctx (g.startKey path)

/-- Without rules, the key of a path is not rewritten. -/
theorem objectKey_eq_startKey {g : Gateway} (hrules : g.target.rules = []) (ctx : RequestContext)
    (path : String) : g.objectKey ctx path = .ok (g.startKey path) := by
  rw [objectKey, rewrite, hrules]
  rfl

/-! ## Writes -/

/-- The object that an upload is to be stored as, if its metadata can be rendered. -/
def uploadRequest (g : Gateway) (ctx : RequestContext) (input : PutInput) (key : String) :
    Answer PutRequest :=
  match g.putConfig? with
  | none => .ok (plainRequest input key)
  | some c => g.withMetadata c (putValues ctx input key) (plainRequest input key)

/-- An upload is stored at its key, with its content. -/
theorem uploadRequest_key_body {g : Gateway} {ctx : RequestContext} {input : PutInput}
    {key : String} {r : PutRequest} (h : g.uploadRequest ctx input key = .ok r) :
    r.key = key ∧ r.body = input.body := by
  unfold uploadRequest at h
  split at h
  · obtain rfl : plainRequest input key = r := by simpa using h
    exact ⟨rfl, rfl⟩
  · exact withMetadata_yields _ _ _ _ _ h

/-- Whether objects must not be replaced. -/
def keepsObjects (g : Gateway) : Bool :=
  g.putConfig?.elim false fun c => !c.allowOverride

/-- What is said before an object is stored: where objects must not be replaced, the store has been
asked for one and has found none. -/
def absenceCheck (g : Gateway) (key : String) : Conversation GatewayInterface :=
  if g.keepsObjects then [called (.head key) (.error .notFound)] else []

theorem absenceCheck_changes (g : Gateway) (key : String) (t : Conversation GatewayInterface) :
    (g.absenceCheck key ++ t).changes = t.changes := by
  unfold absenceCheck
  split
  · rfl
  · rfl

theorem absenceCheck_answers (g : Gateway) (key : String) (t : Conversation GatewayInterface) :
    (g.absenceCheck key ++ t).answers = t.answers := by
  unfold absenceCheck
  split
  · rfl
  · rfl

/-- The conversations of an upload. -/
inductive WriteRun (g : Gateway) (ctx : RequestContext) (input : PutInput) :
    Conversation GatewayInterface → Prop
  | unrewritten {f : Failure} (hkey : g.objectKey ctx (uploadPath input) = .error f) :
      WriteRun g ctx input [answered (failureOutcome f)]
  | unrendered {key : String} {f : Failure} (hkey : g.objectKey ctx (uploadPath input) = .ok key)
      (hrequest : g.uploadRequest ctx input key = .error f) :
      WriteRun g ctx input [answered (failureOutcome f)]
  | occupied {key : String} {r : PutRequest} {found : HeadOutput × ResultInfo}
      (hkey : g.objectKey ctx (uploadPath input) = .ok key)
      (hrequest : g.uploadRequest ctx input key = .ok r) (hkeeps : g.keepsObjects = true) :
      WriteRun g ctx input
        [called (.head key) (.ok found), answered (.forbidden (.objectExists key))]
  | unknown {key : String} {r : PutRequest} {f : Failure}
      (hkey : g.objectKey ctx (uploadPath input) = .ok key)
      (hrequest : g.uploadRequest ctx input key = .ok r) (hkeeps : g.keepsObjects = true)
      (hf : f ≠ .notFound) :
      WriteRun g ctx input [called (.head key) (.error f), answered (failureOutcome f)]
  | unstored {key : String} {r : PutRequest} {f : Failure}
      (hkey : g.objectKey ctx (uploadPath input) = .ok key)
      (hrequest : g.uploadRequest ctx input key = .ok r) :
      WriteRun g ctx input
        (g.absenceCheck key ++ [called (.put r) (.error f), answered (failureOutcome f)])
  | stored {key : String} {r : PutRequest} {info : ResultInfo}
      (hkey : g.objectKey ctx (uploadPath input) = .ok key)
      (hrequest : g.uploadRequest ctx input key = .ok r) :
      WriteRun g ctx input
        (g.absenceCheck key ++ [called (.put r) (.ok info), told (g.putEvent input info),
          answered (.stored (putEcho input r))])

/-- What the reply to the question for an object means for an upload to its key. -/
def absence (key : String) : Answer (HeadOutput × ResultInfo) → Answer Unit
  | .ok _ => .error (.objectExists key)
  | .error .notFound => .ok ()
  | .error f => .error f

@[simp] theorem requireAbsent_runs_iff {key : String} {t : Conversation GatewayInterface}
    {a : Answer Unit} :
    (requireAbsent key).Runs t a ↔
      ∃ reply, t = [called (.head key) reply] ∧ a = absence key reply := by
  simp only [requireAbsent, Flow.runs_monad_bind_iff, head_runs_iff]
  constructor
  · rintro ⟨reply, _, rest, rfl, h, rfl⟩
    refine ⟨reply, ?_⟩
    rcases reply with f | found
    · cases f <;> simp_all [absence]
    · simp_all [absence]
  · rintro ⟨reply, rfl, rfl⟩
    refine ⟨reply, _, [], rfl, ?_, rfl⟩
    rcases reply with f | found
    · cases f <;> simp [absence]
    · simp [absence]

theorem preparePut_runs_iff {g : Gateway} {ctx : RequestContext} {input : PutInput} {key : String}
    {t : Conversation GatewayInterface} {a : Answer PutRequest} :
    (g.preparePut ctx input key).Runs t a ↔
      match g.uploadRequest ctx input key with
      | .error f => t = [] ∧ a = .error f
      | .ok r =>
        if g.keepsObjects then
          ∃ reply, t = [called (.head key) reply] ∧ a = (absence key reply).map fun _ => r
        else t = [] ∧ a = .ok r := by
  unfold preparePut uploadRequest keepsObjects
  cases hc : g.putConfig? with
  | none => simp
  | some c =>
    cases hr : g.withMetadata c (putValues ctx input key) (plainRequest input key) with
    | error f => simp [hr]
    | ok r =>
      cases ho : c.allowOverride with
      | true => simp [hr, ho]
      | false =>
        simp only [hr, ho, Bool.false_eq_true, if_false, Flow.runs_monad_bind_iff,
          requireAbsent_runs_iff, Option.elim_some, Bool.not_false, if_true]
        constructor
        · rintro ⟨_, _, rest, ⟨reply, rfl, rfl⟩, h, rfl⟩
          refine ⟨reply, ?_⟩
          cases hreply : absence key reply <;> simp_all [Except.map]
        · rintro ⟨reply, rfl, rfl⟩
          refine ⟨_, _, [], ⟨reply, rfl, rfl⟩, ?_, rfl⟩
          cases hreply : absence key reply <;> simp [Except.map]

theorem storeUpload_runs_iff {g : Gateway} {input : PutInput} {r : PutRequest}
    {t : Conversation GatewayInterface} :
    (g.storeUpload input r).Runs t () ↔
      (∃ f, t = [called (.put r) (.error f), answered (failureOutcome f)]) ∨
      ∃ info, t = [called (.put r) (.ok info), told (g.putEvent input info),
        answered (.stored (putEcho input r))] := by
  simp only [storeUpload, Flow.runs_monad_bind_iff, put_runs_iff]
  constructor
  · rintro ⟨reply, _, rest, rfl, h, rfl⟩
    rcases reply with f | info
    · exact .inl ⟨f, by simpa using h⟩
    · exact .inr ⟨info, by simpa using h⟩
  · rintro (⟨f, rfl⟩ | ⟨info, rfl⟩)
    · exact ⟨.error f, _, _, rfl, respond_runs_iff.2 rfl, rfl⟩
    · exact ⟨.ok info, _, _, rfl, by simp, rfl⟩

/-- The checks that come before an upload is stored have passed. -/
theorem preparePut_runs_absenceCheck {g : Gateway} {ctx : RequestContext} {input : PutInput}
    {key : String} {r : PutRequest} (hrequest : g.uploadRequest ctx input key = .ok r) :
    (g.preparePut ctx input key).Runs (g.absenceCheck key) (.ok r) := by
  rw [preparePut_runs_iff, hrequest]
  cases hkeeps : g.keepsObjects with
  | false => simp [absenceCheck, hkeeps]
  | true => exact ⟨.error .notFound, by simp [absenceCheck, hkeeps], rfl⟩

private theorem write_runs_iff_of_objectKey {g : Gateway} {ctx : RequestContext}
    {input : PutInput} {key : String} (hkey : g.objectKey ctx (uploadPath input) = .ok key)
    {t : Conversation GatewayInterface} :
    (g.write ctx input).Runs t () ↔
      ∃ a t₁ t₂, (g.preparePut ctx input key).Runs t₁ a ∧
        (match a with
          | .error f => t₂ = [answered (failureOutcome f)]
          | .ok r => (g.storeUpload input r).Runs t₂ ()) ∧ t = t₁ ++ t₂ := by
  rw [objectKey] at hkey
  simp only [write, hkey, Flow.runs_monad_bind_iff]
  refine exists_congr fun a => exists_congr fun t₁ => exists_congr fun t₂ => ?_
  cases a <;> simp

/-- Every conversation of an upload is one of those that are listed. -/
theorem WriteRun.of_runs {g : Gateway} {ctx : RequestContext} {input : PutInput}
    {t : Conversation GatewayInterface} (h : (g.write ctx input).Runs t ()) :
    WriteRun g ctx input t := by
  cases hkey : g.objectKey ctx (uploadPath input) with
  | error f =>
    have hkey' : g.rewrite ctx (g.startKey (uploadPath input)) = .error f := hkey
    obtain rfl : t = [answered (failureOutcome f)] := by simpa [write, hkey'] using h
    exact .unrewritten hkey
  | ok key =>
    obtain ⟨a, t₁, t₂, hprepare, hrest, rfl⟩ := (write_runs_iff_of_objectKey hkey).1 h
    rw [preparePut_runs_iff] at hprepare
    cases hrequest : g.uploadRequest ctx input key with
    | error f =>
      obtain ⟨rfl, rfl⟩ : t₁ = [] ∧ a = .error f := by simpa [hrequest] using hprepare
      subst hrest
      exact .unrendered hkey hrequest
    | ok r =>
      -- Without a question, or after one that found nothing, the object is stored.
      have hstore (ha : a = .ok r) (hcheck : t₁ = g.absenceCheck key) :
          WriteRun g ctx input (t₁ ++ t₂) := by
        subst ha hcheck
        rcases storeUpload_runs_iff.1 hrest with ⟨f, rfl⟩ | ⟨info, rfl⟩
        · exact .unstored hkey hrequest
        · exact .stored hkey hrequest
      cases hkeeps : g.keepsObjects with
      | false =>
        obtain ⟨rfl, rfl⟩ : t₁ = [] ∧ a = .ok r := by simpa [hrequest, hkeeps] using hprepare
        exact hstore rfl (by simp [absenceCheck, hkeeps])
      | true =>
        obtain ⟨reply, rfl, rfl⟩ :
            ∃ reply, t₁ = [called (.head key) reply] ∧ a = (absence key reply).map fun _ => r := by
          simpa [hrequest, hkeeps] using hprepare
        rcases reply with f | found
        · by_cases hf : f = .notFound
          · subst hf
            exact hstore rfl (by simp [absenceCheck, hkeeps])
          · have habsence : absence key (.error f) = .error f := by cases f <;> simp_all [absence]
            obtain rfl : t₂ = [answered (failureOutcome f)] := by
              simpa [habsence, Except.map] using hrest
            exact .unknown hkey hrequest hkeeps hf
        · subst hrest
          exact .occupied hkey hrequest hkeeps

/-- Every conversation that is listed occurs. -/
theorem WriteRun.runs {g : Gateway} {ctx : RequestContext} {input : PutInput}
    {t : Conversation GatewayInterface} (h : WriteRun g ctx input t) :
    (g.write ctx input).Runs t () := by
  cases h with
  | unrewritten hkey =>
    rw [objectKey] at hkey
    simp [write, hkey]
  | @unrendered key f hkey hrequest =>
    refine (write_runs_iff_of_objectKey hkey).2 ⟨.error f, [], _, ?_, rfl, rfl⟩
    rw [preparePut_runs_iff, hrequest]
    exact ⟨rfl, rfl⟩
  | @occupied key r found hkey hrequest hkeeps =>
    refine (write_runs_iff_of_objectKey hkey).2
      ⟨.error (.objectExists key), [_], [_], ?_, rfl, rfl⟩
    rw [preparePut_runs_iff, hrequest, hkeeps]
    exact ⟨.ok found, rfl, rfl⟩
  | @unknown key r f hkey hrequest hkeeps hf =>
    refine (write_runs_iff_of_objectKey hkey).2 ⟨.error f, [_], [_], ?_, rfl, rfl⟩
    rw [preparePut_runs_iff, hrequest, hkeeps]
    exact ⟨.error f, rfl, by cases f <;> simp_all [absence, Except.map]⟩
  | @unstored key r f hkey hrequest =>
    exact (write_runs_iff_of_objectKey hkey).2 ⟨.ok r, _, _,
      preparePut_runs_absenceCheck hrequest, storeUpload_runs_iff.2 (.inl ⟨f, rfl⟩), rfl⟩
  | @stored key r info hkey hrequest =>
    exact (write_runs_iff_of_objectKey hkey).2 ⟨.ok r, _, _,
      preparePut_runs_absenceCheck hrequest, storeUpload_runs_iff.2 (.inr ⟨info, rfl⟩), rfl⟩

theorem write_runs_iff {g : Gateway} {ctx : RequestContext} {input : PutInput}
    {t : Conversation GatewayInterface} :
    (g.write ctx input).Runs t () ↔ WriteRun g ctx input t := ⟨WriteRun.of_runs, WriteRun.runs⟩

/-! ## Removals -/

/-- The conversations of a removal. -/
inductive RemoveRun (g : Gateway) (ctx : RequestContext) (path : String) :
    Conversation GatewayInterface → Prop
  | unrewritten {f : Failure} (hkey : g.objectKey ctx path = .error f) :
      RemoveRun g ctx path [answered (failureOutcome f)]
  | folder {key : String} (hkey : g.objectKey ctx path = .ok key)
      (hfolder : isFolderPath path = true) :
      RemoveRun g ctx path [answered (.badRequest .removalFolder)]
  | unremoved {key : String} {f : Failure} (hkey : g.objectKey ctx path = .ok key)
      (hfile : isFolderPath path = false) :
      RemoveRun g ctx path [called (.delete key) (.error f), answered (failureOutcome f)]
  | removed {key : String} {info : ResultInfo} (hkey : g.objectKey ctx path = .ok key)
      (hfile : isFolderPath path = false) :
      RemoveRun g ctx path
        [called (.delete key) (.ok info), told ⟨.delete, g.name, path, none, info⟩,
          answered (.removed key)]

theorem remove_runs_iff {g : Gateway} {ctx : RequestContext} {path : String}
    {t : Conversation GatewayInterface} :
    (g.remove ctx path).Runs t () ↔ RemoveRun g ctx path t := by
  constructor
  · intro h
    cases hkey : g.objectKey ctx path with
    | error f =>
      have hkey' : g.rewrite ctx (g.startKey path) = .error f := hkey
      obtain rfl : t = [answered (failureOutcome f)] := by simpa [remove, hkey'] using h
      exact .unrewritten hkey
    | ok key =>
      have hkey' : g.rewrite ctx (g.startKey path) = .ok key := hkey
      cases hfolder : isFolderPath path with
      | true =>
        obtain rfl : t = [answered (.badRequest .removalFolder)] := by
          simpa [remove, hkey', hfolder, failureOutcome] using h
        exact .folder hkey hfolder
      | false =>
        simp only [remove, hkey', hfolder, Bool.false_eq_true, if_false,
          Flow.runs_monad_bind_iff, delete_runs_iff] at h
        obtain ⟨reply, _, rest, rfl, hrest, rfl⟩ := h
        rcases reply with f | info
        · obtain rfl : rest = [answered (failureOutcome f)] := by simpa using hrest
          exact .unremoved hkey hfolder
        · obtain rfl : rest = [told ⟨.delete, g.name, path, none, info⟩,
              answered (.removed key)] := by simpa using hrest
          exact .removed hkey hfolder
  · intro h
    cases h with
    | unrewritten hkey =>
      rw [objectKey] at hkey
      simp [remove, hkey]
    | folder hkey hfolder =>
      rw [objectKey] at hkey
      simp [remove, hkey, hfolder, failureOutcome]
    | @unremoved key f hkey hfile =>
      rw [objectKey] at hkey
      simp only [remove, hkey, hfile, Bool.false_eq_true, if_false, Flow.runs_monad_bind_iff,
        delete_runs_iff]
      exact ⟨.error f, _, _, rfl, respond_runs_iff.2 rfl, rfl⟩
    | @removed key info hkey hfile =>
      rw [objectKey] at hkey
      simp only [remove, hkey, hfile, Bool.false_eq_true, if_false, Flow.runs_monad_bind_iff,
        delete_runs_iff]
      exact ⟨.ok info, _, _, rfl, by simp, rfl⟩

end ObjectGateway.Gateway
