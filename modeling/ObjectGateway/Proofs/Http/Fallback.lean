import ObjectGateway.Proofs.Failure
import ObjectGateway.Proofs.Http.Pages
import ObjectGateway.Proofs.Text.Utf8

/-!
# Pages and what takes their place

A page is rendered from one template, which is chosen before it is loaded: `Responder.source`.  If
this template cannot be loaded or rendered, no other template of the page is tried.  The page of an
internal failure takes its place, and if this one is lost as well, a page without a template:
`Answered`.  The main statement is `page_answered`: whatever the store replies and the engine does, the
runs that answer with a page are those that `Answered` describes, and every run makes one response.
-/

namespace ObjectGateway.Http

open ObjectGateway.Flow

/-! ## Templates -/

/-- Where the template of a page lies. -/
inductive TemplateSource
  | bucket (key : String)
  | file (path : String)
  | embedded (page : Page)

/-- The text of a template, or the failure to load it. -/
def TemplateSource.load (files : LocalFiles) : TemplateSource → Flow StoreInterface (Answer String)
  | bucket key => readObject key
  | file path => .done (readLocal files path)
  | embedded page => .done (.ok page.embedded)

/-- A template that was loaded: what the store was asked for, and what came of it. -/
structure TemplateLoad where
  source : TemplateSource
  calls : Conversation StoreInterface
  text : Answer String

/-- Loading a template from a bucket can come out in any way: the store decides. -/
theorem exists_bucket_load (files : LocalFiles) (key : String) (text : Answer String) :
    ∃ calls, ((TemplateSource.bucket key).load files).Runs calls text := by
  cases text with
  | error f =>
    let reply : (StoreCall.get key .none).Reply := .error f
    exact ⟨[⟨.get key .none, reply⟩], runs_call_iff.2 ⟨reply, [], .done _, rfl⟩⟩
  | ok s =>
    let body : ObjectStream := [.data (Text.Utf8.encode s)]
    let reply : (StoreCall.get key .none).Reply := .ok (⟨body, .empty⟩, default)
    have hread : readText key body = .ok s := by
      simp [body, readText, ObjectStream.collect, Except.map, Text.Utf8.decode?, Except.toOption,
        Text.Utf8.decode_encode]
    exact ⟨[⟨.get key .none, reply⟩],
      runs_call_iff.2 ⟨reply, [], runs_done_iff.2 ⟨rfl, hread.symm⟩, rfl⟩⟩

namespace Responder

variable {r : Responder} {page : Page} {values : Json} {message : String} {slot last : Slot}
  {t : Conversation StoreInterface}

/-- Where the template of a page is loaded from: as the target says, or else as it is said for every
target, or else the embedded one. -/
def source (r : Responder) (page : Page) : TemplateSource :=
  match r.target.bind fun t => t.config.templates.pages.get page with
  | some item => if item.inBucket then .bucket item.path else .file item.path
  | none =>
    match r.snapshot.templates.pages.get page with
    | some path => .file path
    | none => .embedded page

theorem template_eq_load (r : Responder) (page : Page) :
    r.template page = (r.source page).load r.files := by
  unfold template source
  cases r.target.bind fun t => t.config.templates.pages.get page with
  | some item =>
    cases hbucket : item.inBucket <;> simp [readTemplate, hbucket, TemplateSource.load]
  | none =>
    cases r.snapshot.templates.pages.get page with
    | some path => rfl
    | none => rfl

/-- The markup of a page from the text of its template, or the failure to load or to render it. -/
def html (r : Responder) (values : Json) (text : Answer String) : Answer String :=
  text.bind fun s => r.engine.renderMarkup (r.helpers ++ "\n" ++ s) values

theorem rendered_eq_map_html (text : Answer String) :
    r.rendered page values text = (r.html values text).map (Response.markup page.status) := by
  cases text <;> rfl

/-! ## Answers -/

/-- How a page is answered with, and from which templates.  It is shown if its template can be loaded
and rendered.  If not, the page of an internal failure is answered with and tells of the failure,
unless it is this page that is lost. -/
inductive Answered (r : Responder) : Page → Json → List TemplateLoad → Response → Prop
  | shown {page : Page} {values : Json} {calls : Conversation StoreInterface} {text : Answer String}
      {s : String} (hload : ((r.source page).load r.files).Runs calls text)
      (hhtml : r.html values text = .ok s) :
      Answered r page values [⟨r.source page, calls, text⟩] (.markup page.status s)
  | replaced {page : Page} {values : Json} {calls : Conversation StoreInterface}
      {text : Answer String} {f : Failure} {loads : List TemplateLoad} {response : Response}
      (hpage : page ≠ .internalServerError)
      (hload : ((r.source page).load r.files).Runs calls text)
      (hhtml : r.html values text = .error f)
      (hnext : Answered r .internalServerError (r.failureValues f.message) loads response) :
      Answered r page values (⟨r.source page, calls, text⟩ :: loads) response
  | lost {values : Json} {calls : Conversation StoreInterface} {text : Answer String} {f : Failure}
      (hload : ((r.source .internalServerError).load r.files).Runs calls text)
      (hhtml : r.html values text = .error f) :
      Answered r .internalServerError values [⟨r.source .internalServerError, calls, text⟩]
        (.fallback f.message)

namespace Answered

variable {loads : List TemplateLoad} {response : Response}

/-- The page of an internal failure is not replaced by itself. -/
theorem length_internal (h : r.Answered .internalServerError values loads response) :
    loads.length = 1 := by
  cases h with
  | shown => rfl
  | replaced hpage => exact absurd rfl hpage
  | lost => rfl

theorem length_le (h : r.Answered page values loads response) : loads.length ≤ 2 := by
  cases h with
  | shown => exact Nat.le_succ 1
  | replaced _ _ _ hnext => exact by simp [hnext.length_internal]
  | lost => exact Nat.le_succ 1

end Answered

/-! ## Runs -/

/-- Answer with a page, or else as the failure to show it tells. -/
def pageOr (r : Responder) (page : Page) (values : Json)
    (other : Failure → Answering StoreInterface Unit) : Answering StoreInterface Unit := do
  match ← StateT.lift (r.renderPage page values) with
  | .ok response => put response
  | .error f => other f

theorem internalPage_eq_pageOr (r : Responder) (message : String) :
    r.internalPage message = r.pageOr .internalServerError (r.failureValues message)
      fun f => put (.fallback f.message) := rfl

theorem pageOrInternal_eq_pageOr (r : Responder) (page : Page) (values : Json) :
    r.pageOrInternal page values = r.pageOr page values fun f => r.internalPage f.message := rfl

theorem put_runs_iff {response : Response} :
    ((put response).run slot : Flow StoreInterface _).Runs t ((), last) ↔
      t = [] ∧ last = response :: slot := by
  rw [show ((put response).run slot : Flow StoreInterface _) = .done ((), response :: slot) from rfl,
    runs_done_iff, Prod.mk.injEq, and_iff_right rfl]

theorem pageOr_runs_iff {other : Failure → Answering StoreInterface Unit} :
    ((r.pageOr page values other).run slot).Runs t ((), last) ↔
      ∃ calls text, ((r.source page).load r.files).Runs calls text ∧
        ((∃ s, r.html values text = .ok s ∧ t = calls ∧
            last = .markup page.status s :: slot) ∨
          ∃ f rest, r.html values text = .error f ∧ ((other f).run slot).Runs rest ((), last) ∧
            t = calls ++ rest) := by
  rw [pageOr, run_lift_bind, runs_monad_bind_iff]
  simp only [renderPage_runs_iff, template_eq_load, rendered_eq_map_html]
  constructor
  · rintro ⟨_, calls, rest, ⟨text, hload, rfl⟩, hrest, rfl⟩
    refine ⟨calls, text, hload, ?_⟩
    cases hhtml : r.html values text with
    | ok s =>
      rw [hhtml] at hrest
      obtain ⟨rfl, rfl⟩ := put_runs_iff.1 hrest
      exact .inl ⟨s, rfl, List.append_nil _, rfl⟩
    | error f =>
      rw [hhtml] at hrest
      exact .inr ⟨f, rest, rfl, hrest, rfl⟩
  · rintro ⟨calls, text, hload, ⟨s, hhtml, rfl, rfl⟩ | ⟨f, rest, hhtml, hrest, rfl⟩⟩
    · refine ⟨_, t, [], ⟨text, hload, rfl⟩, ?_, (List.append_nil _).symm⟩
      rw [hhtml]
      exact put_runs_iff.2 ⟨rfl, rfl⟩
    · refine ⟨_, calls, rest, ⟨text, hload, rfl⟩, ?_, rfl⟩
      rw [hhtml]
      exact hrest

/-- The runs of something that answers with a page. -/
def AnswersWith (r : Responder) (page : Page) (values : Json)
    (x : Answering StoreInterface Unit) : Prop :=
  ∀ slot t last, (x.run slot).Runs t ((), last) ↔
    ∃ loads response, r.Answered page values loads response ∧
      t = loads.flatMap (·.calls) ∧ last = response :: slot

theorem internalPage_answersWith (r : Responder) (message : String) :
    r.AnswersWith .internalServerError (r.failureValues message) (r.internalPage message) := by
  intro slot t last
  rw [internalPage_eq_pageOr, pageOr_runs_iff]
  constructor
  · rintro ⟨calls, text, hload, ⟨s, hhtml, rfl, rfl⟩ | ⟨f, rest, hhtml, hput, rfl⟩⟩
    · exact ⟨_, _, .shown hload hhtml, by simp, rfl⟩
    · obtain ⟨rfl, rfl⟩ := put_runs_iff.1 hput
      exact ⟨_, _, .lost hload hhtml, by simp, rfl⟩
  · rintro ⟨loads, response, hanswered, rfl, rfl⟩
    cases hanswered with
    | shown hload hhtml => exact ⟨_, _, hload, .inl ⟨_, hhtml, by simp, rfl⟩⟩
    | replaced hpage => exact absurd rfl hpage
    | lost hload hhtml =>
      exact ⟨_, _, hload, .inr ⟨_, [], hhtml, put_runs_iff.2 ⟨rfl, rfl⟩, by simp⟩⟩

theorem pageOrInternal_answersWith (r : Responder) (page : Page) (values : Json)
    (hpage : page ≠ .internalServerError) :
    r.AnswersWith page values (r.pageOrInternal page values) := by
  intro slot t last
  rw [pageOrInternal_eq_pageOr, pageOr_runs_iff]
  constructor
  · rintro ⟨calls, text, hload, ⟨s, hhtml, rfl, rfl⟩ | ⟨f, rest, hhtml, hinternal, rfl⟩⟩
    · exact ⟨_, _, .shown hload hhtml, by simp, rfl⟩
    · obtain ⟨loads, response, hnext, rfl, rfl⟩ :=
        (internalPage_answersWith r f.message slot rest last).1 hinternal
      exact ⟨_, _, .replaced hpage hload hhtml hnext, by simp, rfl⟩
  · rintro ⟨loads, response, hanswered, rfl, rfl⟩
    cases hanswered with
    | shown hload hhtml => exact ⟨_, _, hload, .inl ⟨_, hhtml, by simp, rfl⟩⟩
    | replaced _ hload hhtml hnext =>
      have hinternal := (internalPage_answersWith r _ slot _ _).2 ⟨_, _, hnext, rfl, rfl⟩
      exact ⟨_, _, hload, .inr ⟨_, _, hhtml, hinternal, by simp⟩⟩
    | lost => exact absurd rfl hpage

theorem respond_answersWith {o : Outcome} (ho : r.outcomePage? o = some (page, values)) :
    r.AnswersWith page values (r.respond o) := by
  cases o with
  | notFound =>
    cases ho
    exact pageOrInternal_answersWith r _ _ nofun
  | forbidden f =>
    cases ho
    exact pageOrInternal_answersWith r _ _ nofun
  | badRequest f =>
    cases ho
    exact pageOrInternal_answersWith r _ _ nofun
  | unauthorized f =>
    cases ho
    exact pageOrInternal_answersWith r _ _ nofun
  | internalServerError f =>
    cases ho
    exact internalPage_answersWith r _
  | listing entries =>
    cases ho
    exact pageOrInternal_answersWith r _ _ nofun
  | notModified | preconditionFailed | redirect _ | redirectWithTrailingSlash | stored _
  | removed _ => cases ho

end Responder

end ObjectGateway.Http
