import ObjectGateway.Proofs.Gateway.Mutation
import ObjectGateway.Proofs.Http.Exchange

/-!
# One response to every request

A gateway answers every request once: what it asks for holds one outcome, where a file that could
not be sent counts as none.  Over HTTP each outcome makes one response, also where its page cannot be
rendered and that of an internal failure or the page without a template takes its place.  So no
response is made twice, and none is missing: `answered_once`.
-/

namespace ObjectGateway.Http

open ObjectGateway.Flow

namespace Responder

variable {r : Responder} {slot last : Slot}

/-- An exchange of a gateway makes a response if it is an answer, and none otherwise. -/
theorem Carried.length {e : Exchange GatewayInterface} {t : Conversation TargetInterface}
    (h : Carried r slot e t last) :
    last.length = slot.length + (Conversation.answers [e]).length := by
  cases h with
  | store c reply => rfl
  | dispatch event => rfl
  | sent hfile => rfl
  | refused hfile => rfl
  | answered hreads hmade => rfl

/-- As many responses are made as there are answers. -/
theorem Carries.length {u : Conversation GatewayInterface} {t : Conversation TargetInterface}
    (h : Carries r u slot t last) : last.length = slot.length + u.answers.length := by
  induction h with
  | nil slot => rfl
  | @cons e u t₁ t₂ slot next last hfirst _ ih =>
    have hlength := hfirst.length
    have hcons : Conversation.answers (e :: u) = Conversation.answers [e] ++ u.answers :=
      Conversation.answers_append [e] u
    rw [hcons, List.length_append]
    omega

end Responder

namespace Service

variable {g : Gateway} {ctx : RequestContext} {t : Conversation GatewayInterface}

/-- A gateway answers a request once. -/
theorem answers_length_of_serve {request : Gateway.Request} (h : (g.serve ctx request).Runs t ()) :
    t.answers.length = 1 := by
  obtain ⟨a, ha, -⟩ := Gateway.serve_answersForChange h
  rw [ha]
  rfl

/-- Whatever a request asks for, it is answered once. -/
theorem Performed.answers_length {path : String} (h : Performed g ctx path t) :
    t.answers.length = 1 := by
  cases h with
  | @write input t h =>
    have hserve : (g.serve ctx (.write input)).Runs t () := h
    exact answers_length_of_serve hserve
  | @remove t h =>
    have hserve : (g.serve ctx (.remove path)).Runs t () := h
    exact answers_length_of_serve hserve
  | @read mode input t _ h =>
    have hserve : (g.serve ctx (.read mode input)).Runs t () := h
    exact answers_length_of_serve hserve
  | unread f => rfl
  | malformed f => rfl

theorem serve_answers_length {request : Request} {rawPath : String}
    (h : (serve g ctx request rawPath).Runs t ()) : t.answers.length = 1 := by
  cases Served.of_runs h with
  | undecoded f => rfl
  | performed _ h => exact h.answers_length

/-- A responder makes one response of a request. -/
theorem render_runs {s : Setup} {snapshot : Snapshot} {request : Request}
    {responses : Flow ServiceInterface Responder.Slot}
    (hrender : render s snapshot request = .ok responses) {t : Conversation ServiceInterface}
    {slot : Responder.Slot} (h : responses.Runs t slot) : slot.length = 1 := by
  cases hroute : routeOf snapshot request with
  | none =>
    obtain ⟨-, response, rfl, -⟩ := runs_of_unrouted hroute hrender h
    rfl
  | some route =>
    cases hmethod : methodEnabled route.target.config.actions request.method with
    | false => simp [render_of_refused hroute hmethod] at hrender
    | true =>
      obtain ⟨u, v, hu, hcarries, -⟩ := runs_of_routed hroute hmethod hrender h
      have hlength := hcarries.length
      rw [hlength, serve_answers_length hu]
      rfl

/-- Every request is answered once.  A gateway comes to one outcome, whatever the store replies and
whatever becomes of a file that is sent; and wherever a responder answers a request over HTTP, it
makes one response, whatever becomes of the pages that it renders. -/
theorem answered_once :
    (∀ (g : Gateway) (ctx : RequestContext) (request : Gateway.Request)
      (t : Conversation GatewayInterface),
      (g.serve ctx request).Runs t () → ∃ a, t.answers = [a]) ∧
    ∀ (s : Setup) (snapshot : Snapshot) (request : Request)
      (responses : Flow ServiceInterface Responder.Slot) (t : Conversation ServiceInterface)
      (slot : Responder.Slot), render s snapshot request = .ok responses → responses.Runs t slot →
        ∃ response, slot = [response] ∧ Responder.finish slot = response := by
  constructor
  · intro g ctx request t h
    exact List.length_eq_one_iff.1 (answers_length_of_serve h)
  · intro s snapshot request responses t slot hrender h
    obtain ⟨response, rfl⟩ := List.length_eq_one_iff.1 (render_runs hrender h)
    exact ⟨response, rfl, rfl⟩

/-- A question for a file whose headers are refused, and a read below a target whose pages are all
lost, so that the page without a template is left. -/
theorem answered_once_docs :
    let g := Gateway.docs [] ⟨some ⟨true, .standard⟩, none, none⟩
    let refuse : FileAnswer → Answer Unit := fun _ => .error (.internal "file headers")
    let talk := (g.serve default (.read .head ⟨"/a", .none⟩)).converse (MemoryStore.serve refuse)
      (MemoryStore.ofObjects [("a", [104, 105])])
    let lost : TargetConfig :=
      { g.target.config with templates := ⟨[], .const (some ⟨"lost.html", true⟩)⟩ }
    let snapshot : Snapshot := ⟨[{ g.target with config := lost }], ⟨[], .const none⟩, ""⟩
    let empty : Server ServiceInterface Unit := fun effect s => match effect with
      | .store _ c => (c.fail .notFound, s)
      | .dispatch _ => ((), s)
      | .counters => ("", s)
      | .count _ => ((), s)
    let request : Request := ⟨"GET", ⟨"", false, "/a"⟩, [], []⟩
    (∃ a, talk.exchanges.answers = [a]) ∧
      ∃ responses, render ⟨.standard, ⟨[]⟩⟩ snapshot request = .ok responses ∧
        ∃ response, (responses.converse empty ()).value = [response] ∧
          Responder.finish (responses.converse empty ()).value = response := by
  intro g refuse talk lost snapshot empty request
  have hserved : (render ⟨.standard, ⟨[]⟩⟩ snapshot request).toBool = true := by decide +kernel
  obtain ⟨responses, hrender⟩ :
      ∃ responses, render ⟨.standard, ⟨[]⟩⟩ snapshot request = .ok responses := by
    cases hrender : render ⟨.standard, ⟨[]⟩⟩ snapshot request with
    | error refusal => simp [hrender, Except.toBool] at hserved
    | ok responses => exact ⟨responses, rfl⟩
  exact ⟨answered_once.1 _ _ _ _ (converse_runs _ _ _), responses, hrender,
    answered_once.2 _ _ _ _ _ _ hrender (converse_runs empty responses ())⟩

end Service

end ObjectGateway.Http
