import Mathlib.Data.List.Forall2
import ObjectGateway.Proofs.Gateway.Reads
import ObjectGateway.Proofs.Gateway.Serving

/-!
# Which requests change objects

Every request is answered once, and what it does to the objects of a store is what its answer says:
an upload that is stored puts its content at one key, a removal takes one key away, and whatever is
answered otherwise leaves all objects alone.  `serveAll_changes_as_answered` says so for
any number of requests in turn.
-/

namespace ObjectGateway

/-- What an answer to a request with some content says about the objects of a bucket. -/
def Recorded.update (body : Bytes) : Recorded → TextMap Bytes → TextMap Bytes
  | .outcome (.stored echo), objects => objects.insert echo.key body
  | .outcome (.removed key), objects => objects.erase key
  | _, objects => objects

theorem Recorded.update_of_tellsChange {a : Recorded} (h : a.tellsChange = false) (body : Bytes)
    (objects : TextMap Bytes) : a.update body objects = objects := by
  cases a with
  | file content type => rfl
  | outcome o =>
    cases o with
    | stored echo => cases h
    | removed key => cases h
    | _ => rfl

namespace MemoryStore

/-- Calls of which none changes the store leave its objects alone. -/
theorem applyCalls_storeCalls {t : Conversation GatewayInterface} (h : t.changes = [])
    (objects : TextMap Bytes) : applyCalls t.storeCalls objects = objects := by
  induction t with
  | nil => rfl
  | cons e t ih =>
    obtain ⟨op, reply⟩ := e
    cases op with
    | dispatch event => exact ih h
    | sendFile file => exact ih h
    | respond outcome => exact ih h
    | store c =>
      rw [Conversation.storeCalls_called, applyCalls_cons]
      cases c with
      | put r => cases h
      | delete key => cases h
      | _ => simpa [StoreCall.update] using ih h

end MemoryStore

namespace Gateway

open MemoryStore (applyCalls)
open Exchange (called told sent answered)

/-! ## Single requests -/

/-- A conversation holds one answer, and its calls make of objects what the answer says. -/
def AnswersForChange (body : Bytes) (t : Conversation GatewayInterface) : Prop :=
  ∃ a, t.answers = [a] ∧ ∀ objects, applyCalls t.storeCalls objects = a.update body objects

theorem AnsweredRead.answersForChange {t : Conversation GatewayInterface} (h : AnsweredRead t)
    (body : Bytes) : AnswersForChange body t := by
  obtain ⟨a, ha, htells⟩ := h.answers
  refine ⟨a, ha, fun objects => ?_⟩
  rw [MemoryStore.applyCalls_storeCalls h.changes, Recorded.update_of_tellsChange htells]

/-- A refusal answers for the change that it prevents. -/
theorem answersForChange_of_failure {t : Conversation GatewayInterface} (f : Failure)
    (hanswers : t.answers = [.outcome (failureOutcome f)])
    (hcalls : ∀ objects, applyCalls t.storeCalls objects = objects) (body : Bytes) :
    AnswersForChange body t := by
  refine ⟨_, hanswers, fun objects => ?_⟩
  have htells := Recorded.tellsChange_of_not_delivers (failureOutcome_delivers f)
  rw [hcalls, Recorded.update_of_tellsChange htells]

/-- Asking whether an object is absent leaves all objects alone. -/
theorem applyCalls_absenceCheck (g : Gateway) (key : String) (t : Conversation GatewayInterface)
    (objects : TextMap Bytes) :
    applyCalls (g.absenceCheck key ++ t).storeCalls objects = applyCalls t.storeCalls objects := by
  unfold absenceCheck
  split
  · rfl
  · rfl

theorem WriteRun.answersForChange {g : Gateway} {ctx : RequestContext} {input : PutInput}
    {t : Conversation GatewayInterface} (h : WriteRun g ctx input t) :
    AnswersForChange input.body t := by
  cases h with
  | unrewritten _ => exact answersForChange_of_failure _ rfl (fun _ => rfl) _
  | unrendered _ _ => exact answersForChange_of_failure _ rfl (fun _ => rfl) _
  | occupied _ _ _ => exact ⟨_, rfl, fun _ => rfl⟩
  | unknown _ _ _ _ => exact answersForChange_of_failure _ rfl (fun _ => rfl) _
  | @unstored key r f _ _ =>
    refine answersForChange_of_failure f ?_ (fun objects => ?_) _
    · rw [absenceCheck_answers]
      rfl
    · rw [applyCalls_absenceCheck]
      rfl
  | @stored key r info _ hrequest =>
    refine ⟨.outcome (.stored (putEcho input r)), ?_, fun objects => ?_⟩
    · rw [absenceCheck_answers]
      rfl
    · rw [applyCalls_absenceCheck, ← (uploadRequest_key_body hrequest).2]
      rfl

theorem RemoveRun.answersForChange {g : Gateway} {ctx : RequestContext} {path : String}
    {t : Conversation GatewayInterface} (h : RemoveRun g ctx path t) (body : Bytes) :
    AnswersForChange body t := by
  cases h with
  | unrewritten _ => exact answersForChange_of_failure _ rfl (fun _ => rfl) _
  | folder _ _ => exact ⟨_, rfl, fun _ => rfl⟩
  | unremoved _ _ => exact answersForChange_of_failure _ rfl (fun _ => rfl) _
  | removed _ _ => exact ⟨_, rfl, fun _ => rfl⟩

/-! ## Requests in turn -/

/-- What a gateway can be asked for. -/
inductive Request
  | read (mode : ReadMode) (input : GetInput)
  | write (input : PutInput)
  | remove (path : String)

/-- The content that a request brings along. -/
def Request.body : Request → Bytes
  | .write input => input.body
  | _ => []

/-- Answer one request. -/
def serve (g : Gateway) (ctx : RequestContext) : Request → GatewayFlow Unit
  | .read mode input => g.read ctx mode input
  | .write input => g.write ctx input
  | .remove path => g.remove ctx path

/-- Answer requests one after the other. -/
def serveAll (g : Gateway) : List (RequestContext × Request) → GatewayFlow Unit
  | [] => pure ()
  | (ctx, request) :: rest => do
    g.serve ctx request
    g.serveAll rest

/-- What a request may ask of a store.  Reads change nothing, an upload puts at most one object, and
a removal asks for nothing but the removal of the object of its path, if that names a file. -/
def Careful (g : Gateway) (ctx : RequestContext) (t : Conversation GatewayInterface) :
    Request → Prop
  | .read _ _ => t.changes = []
  | .write _ => t.changes = [] ∨ ∃ r, t.changes = [.put r]
  | .remove path =>
    match g.objectKey ctx path with
    | .error _ => t.storeCalls = []
    | .ok key =>
      if isFolderPath path then
        t.storeCalls = [] ∧ t.answers = [.outcome (.badRequest .removalFolder)]
      else t.storeCalls.map (·.op) = [.delete key]

/-- What answers to requests make of the objects of a bucket, one after the other. -/
def updateAll (answered : List ((RequestContext × Request) × Recorded)) (objects : TextMap Bytes) :
    TextMap Bytes :=
  answered.foldl (fun objects p => p.2.update p.1.2.body objects) objects

section Requests

variable {g : Gateway} {ctx : RequestContext} {request : Request}
  {requests : List (RequestContext × Request)} {t : Conversation GatewayInterface}

theorem WriteRun.changes {input : PutInput} (h : WriteRun g ctx input t) :
    t.changes = [] ∨ ∃ r, t.changes = [.put r] := by
  cases h with
  | unrewritten _ => exact .inl rfl
  | unrendered _ _ => exact .inl rfl
  | occupied _ _ _ => exact .inl rfl
  | unknown _ _ _ _ => exact .inl rfl
  | @unstored key r f _ _ =>
    rw [absenceCheck_changes]
    exact .inr ⟨r, rfl⟩
  | @stored key r info _ _ =>
    rw [absenceCheck_changes]
    exact .inr ⟨r, rfl⟩

/-- One request asks of the store only what it may. -/
theorem serve_careful (h : (g.serve ctx request).Runs t ()) : Careful g ctx t request := by
  cases request with
  | read mode input => exact (read_answeredRead h).changes
  | write input => exact (write_runs_iff.1 h).changes
  | remove path =>
    unfold Careful
    cases remove_runs_iff.1 h with
    | unrewritten hkey => simp [hkey]
    | folder hkey hfolder =>
      simp only [hkey, hfolder, if_true]
      exact ⟨rfl, rfl⟩
    | unremoved hkey hfile => simp [hkey, hfile]
    | removed hkey hfile => simp [hkey, hfile]

theorem serve_answersForChange (h : (g.serve ctx request).Runs t ()) :
    AnswersForChange request.body t := by
  cases request with
  | read mode input => exact (read_answeredRead h).answersForChange _
  | write input => exact (write_runs_iff.1 h).answersForChange
  | remove path => exact (remove_runs_iff.1 h).answersForChange _

/-- A conversation of several requests is made up of theirs. -/
theorem serveAll_runs_iff :
    (g.serveAll requests).Runs t () ↔
      ∃ ts, t = ts.flatten ∧
        List.Forall₂ (fun p u => (g.serve p.1 p.2).Runs u ()) requests ts := by
  induction requests generalizing t with
  | nil => simp [serveAll]
  | cons p rest ih =>
    rw [serveAll, Flow.runs_monad_bind_iff]
    constructor
    · rintro ⟨⟨⟩, t₁, t₂, hfirst, hrest, rfl⟩
      obtain ⟨ts, rfl, hall⟩ := ih.1 hrest
      exact ⟨t₁ :: ts, rfl, .cons hfirst hall⟩
    · rintro ⟨_, rfl, hall⟩
      cases hall with
      | cons hfirst hall => exact ⟨(), _, _, hfirst, ih.2 ⟨_, rfl, hall⟩, rfl⟩

/-- Every request is answered once, and the calls that succeed make of objects what the answers
say. -/
theorem serveAll_answers (h : (g.serveAll requests).Runs t ()) :
    t.answers.length = requests.length ∧
      ∀ objects, applyCalls t.storeCalls objects = updateAll (requests.zip t.answers) objects := by
  induction requests generalizing t with
  | nil =>
    obtain rfl : t = [] := by simpa [serveAll] using h
    exact ⟨rfl, fun _ => rfl⟩
  | cons p rest ih =>
    rw [serveAll, Flow.runs_monad_bind_iff] at h
    obtain ⟨⟨⟩, t₁, t₂, hfirst, hrest, rfl⟩ := h
    -- The first request is answered once, so that the other answers belong to the other requests.
    obtain ⟨a, ha, hupdate⟩ := serve_answersForChange hfirst
    obtain ⟨hlength, hall⟩ := ih hrest
    rw [Conversation.answers_append, Conversation.storeCalls_append, ha]
    refine ⟨by simp [hlength], fun objects => ?_⟩
    rw [MemoryStore.applyCalls_append, hupdate, hall]
    rfl

end Requests

/-- Requests of every kind, one after the other.  Whatever the store replies, each of them is
answered once and asks of it only what it may.  On a store in memory where calls fail before they are
done, if they fail at all, the objects are those that the answers make of the former ones. -/
theorem serveAll_changes_as_answered (g : Gateway) (requests : List (RequestContext × Request)) :
    (∀ t, (g.serveAll requests).Runs t () → ∃ ts, t = ts.flatten ∧
      List.Forall₂ (fun p u => (g.serve p.1 p.2).Runs u () ∧ u.answers.length = 1 ∧
        Careful g p.1 u p.2) requests ts) ∧
    ∀ r : Recording, r.store.lateFailures = [] →
      ∃ answers, (Recording.run (g.serveAll requests) r).2.answers = r.answers ++ answers ∧
        answers.length = requests.length ∧
        (Recording.run (g.serveAll requests) r).2.store.objects =
          updateAll (requests.zip answers) r.store.objects := by
  constructor
  · intro t h
    obtain ⟨ts, rfl, hall⟩ := serveAll_runs_iff.1 h
    refine ⟨ts, rfl, hall.imp fun p u hrun => ⟨hrun, ?_, serve_careful hrun⟩⟩
    obtain ⟨a, ha, -⟩ := serve_answersForChange hrun
    rw [ha]
    rfl
  · intro r hlate
    -- What is recorded is a conversation with a store in memory, so that calls have taken effect.
    rw [Recording.run_eq_converse]
    have hruns := Flow.converse_runs Recording.server (g.serveAll requests) r
    have hserves := Flow.converse_serves Recording.server (g.serveAll requests) r
    obtain ⟨hlength, hobjects⟩ := serveAll_answers hruns
    refine ⟨_, Recording.serves_answers hserves, hlength, ?_⟩
    obtain ⟨calls, lastPut, lastSigned, hstore⟩ :=
      MemoryStore.serves_state (Recording.server_keepsStore.serves hserves) hlate
    show (((g.serveAll requests).converse Recording.server r).state).store.objects = _
    rw [hstore, ← hobjects]

/-- An upload, a read and a removal of one object, and a removal that fails. -/
theorem serveAll_changes_as_answered_docs :
    let g := docs [] ⟨none, none, none⟩
    let requests : List (RequestContext × Request) :=
      [(default, .write ⟨"/a", "b", "text/plain", 2, [104, 105]⟩),
        (default, .read .get ⟨"/a/b", .none⟩), (default, .remove "/a/b"),
        (default, .remove "/locked")]
    let r : Recording :=
      ⟨{ MemoryStore.ofObjects [("locked", [])] with failures := [("locked", .internal "down")] },
        [], []⟩
    ∃ answers, (Recording.run (g.serveAll requests) r).2.answers = [] ++ answers ∧
      answers.length = 4 ∧
      (Recording.run (g.serveAll requests) r).2.store.objects =
        updateAll (requests.zip answers) [("locked", [])] :=
  (serveAll_changes_as_answered _ _).2 _ rfl

end Gateway

end ObjectGateway
