import ObjectGateway.Http.Service
import ObjectGateway.Proofs.Conversation

/-!
# The pages of a responder

All that a responder asks of a store is the templates of its pages, and only those that lie in the
bucket of its target: `ReadsTemplate`.  A page that is shown has its own status, and what takes the
place of a page that cannot be shown is an internal failure: `PageMade`.  Of each outcome, one
response is made, from a page or without one: `respond_makes`.
-/

namespace ObjectGateway.Http.Responder

open ObjectGateway.Flow

variable {r : Responder} {page : Page} {values : Json} {message : String} {slot last : Slot}
  {t : Conversation StoreInterface}

/-! ## Templates -/

/-- A read of a template of a page from the bucket of the target. -/
def ReadsTemplate (r : Responder) (c : StoreCall) : Prop :=
  ∃ page item, (r.target.bind fun t => t.config.templates.pages.get page) = some item ∧
    item.inBucket = true ∧ c = .get item.path .none

theorem not_readsTemplate_of_target {c : StoreCall} (h : r.target = none) :
    ¬r.ReadsTemplate c := by
  rintro ⟨page, item, hitem, -⟩
  simp [h] at hitem

theorem readObject_runs {key : String} {a : Answer String} (h : (readObject key).Runs t a) :
    ∃ reply, t = [⟨.get key .none, reply⟩] := by
  obtain ⟨reply, rest, hrest, rfl⟩ := runs_call_iff.1 h
  refine ⟨reply, ?_⟩
  rcases reply with f | ⟨output, info⟩
  · obtain ⟨rfl, -⟩ := runs_done_iff.1 hrest
    rfl
  · obtain ⟨rfl, -⟩ := runs_done_iff.1 hrest
    rfl

theorem template_reads {a : Answer String} (h : (r.template page).Runs t a) :
    ∀ e ∈ t, r.ReadsTemplate e.op := by
  unfold template at h
  split at h
  · next item hitem =>
    cases hbucket : item.inBucket with
    | true =>
      obtain ⟨reply, rfl⟩ := readObject_runs (by simpa [readTemplate, hbucket] using h)
      intro e he
      obtain rfl := List.mem_singleton.1 he
      exact ⟨page, item, hitem, hbucket, rfl⟩
    | false =>
      obtain ⟨rfl, -⟩ : t = [] ∧ _ := by simpa [readTemplate, hbucket] using h
      exact List.forall_mem_nil _
  · split at h
    · obtain ⟨rfl, -⟩ := runs_done_iff.1 h
      exact List.forall_mem_nil _
    · obtain ⟨rfl, -⟩ := runs_done_iff.1 h
      exact List.forall_mem_nil _

/-! ## Pages -/

/-- A page as it is rendered from its template. -/
def rendered (r : Responder) (page : Page) (values : Json) (source : Answer String) :
    Answer Response :=
  source.bind fun s =>
    (r.engine.renderMarkup (r.helpers ++ "\n" ++ s) values).map (Response.markup page.status)

theorem renderPage_eq (r : Responder) (page : Page) (values : Json) :
    r.renderPage page values = r.rendered page values <$> r.template page := by
  rw [renderPage, map_eq_pure_bind]
  congr 1
  funext source
  cases source with
  | error f => rfl
  | ok s => rfl

theorem renderPage_runs_iff {a : Answer Response} :
    (r.renderPage page values).Runs t a ↔
      ∃ source, (r.template page).Runs t source ∧ a = r.rendered page values source := by
  rw [renderPage_eq, runs_map_iff]

theorem renderPage_reads {a : Answer Response} (h : (r.renderPage page values).Runs t a) :
    ∀ e ∈ t, r.ReadsTemplate e.op := by
  obtain ⟨source, hsource, -⟩ := renderPage_runs_iff.1 h
  exact template_reads hsource

theorem renderPage_status {shown : Response} (h : (r.renderPage page values).Runs t (.ok shown)) :
    shown.status = page.status := by
  obtain ⟨source, -, hshown⟩ := renderPage_runs_iff.1 h
  rcases source with f | s
  · cases hshown
  · cases hrender : r.engine.renderMarkup (r.helpers ++ "\n" ++ s) values with
    | error f => simp [rendered, Except.bind, Except.map, hrender] at hshown
    | ok text =>
      obtain rfl : shown = Response.markup page.status text := by
        simpa [rendered, Except.bind, Except.map, hrender] using hshown
      rfl

/-- What a response to a page is, after the store has been asked for templates: the page, or an
internal failure where the page is lost. -/
inductive PageMade (r : Responder) (page : Page) (values : Json) (t : Conversation StoreInterface)
    (response : Response) : Prop
  | shown (h : (r.renderPage page values).Runs t (.ok response))
  | lost {first : Conversation StoreInterface} {f : Failure} (hfirst : first <+: t)
      (h : (r.renderPage page values).Runs first (.error f)) (hstatus : response.status = 500)

theorem PageMade.status {response : Response} (h : PageMade r page values t response) :
    response.status = page.status ∨ response.status = 500 := by
  cases h with
  | shown h => exact .inl (renderPage_status h)
  | lost _ _ hstatus => exact .inr hstatus

/-- A page that the first calls of the store are enough to show is the response. -/
theorem PageMade.eq_of_shown {response shown : Response} {first : Conversation StoreInterface}
    (h : PageMade r page values t response) (hfirst : first <+: t)
    (hshown : (r.renderPage page values).Runs first (.ok shown)) : response = shown := by
  obtain ⟨rest, hrest⟩ := hfirst
  cases h with
  | shown h =>
    have hsame : first ++ rest = t ++ [] := by rw [hrest, List.append_nil]
    exact Except.ok.inj (hshown.eq_of_append_eq h hsame).2.symm
  | lost hother h _ =>
    -- The same template cannot be lost after the very calls that showed it.
    obtain ⟨rest', rfl⟩ := hother
    exact absurd (hshown.eq_of_append_eq h hrest).2 (by simp)

/-- What a responder does in order to make a response: it asks for templates of pages only, and adds
the response to those that there are. -/
def Makes (r : Responder) (x : Answering StoreInterface Unit)
    (P : Conversation StoreInterface → Response → Prop) : Prop :=
  ∀ slot t last, (x.run slot).Runs t ((), last) →
    (∀ e ∈ t, r.ReadsTemplate e.op) ∧ ∃ response, last = response :: slot ∧ P t response

theorem Makes.mono {x : Answering StoreInterface Unit}
    {P Q : Conversation StoreInterface → Response → Prop} (h : r.Makes x P)
    (hPQ : ∀ t response, P t response → Q t response) : r.Makes x Q := by
  intro slot t last hrun
  obtain ⟨hreads, response, hlast, hP⟩ := h slot t last hrun
  exact ⟨hreads, response, hlast, hPQ t response hP⟩

theorem put_makes (r : Responder) (response : Response) :
    r.Makes (put response) fun t made => t = [] ∧ made = response := by
  intro slot t last h
  obtain ⟨rfl, hlast⟩ := runs_done_iff.1 h
  exact ⟨List.forall_mem_nil _, response, congrArg Prod.snd hlast, rfl, rfl⟩

theorem run_lift_bind {α : Type} {x : Flow StoreInterface α}
    {f : α → Answering StoreInterface Unit} :
    (StateT.lift x >>= f).run slot = x >>= fun a => (f a).run slot := by
  simp [StateT.run_bind]

theorem internalPage_makes (r : Responder) (message : String) :
    r.Makes (r.internalPage message)
      (PageMade r .internalServerError (r.failureValues message)) := by
  intro slot t last h
  rw [internalPage, run_lift_bind, runs_monad_bind_iff] at h
  obtain ⟨a, t₁, t₂, hpage, hrest, rfl⟩ := h
  rcases a with f | response
  · obtain ⟨-, response, rfl, rfl, rfl⟩ := put_makes r _ slot t₂ last hrest
    rw [List.append_nil]
    exact ⟨renderPage_reads hpage, _, rfl, .lost List.prefix_rfl hpage rfl⟩
  · obtain ⟨-, response', rfl, rfl, rfl⟩ := put_makes r _ slot t₂ last hrest
    rw [List.append_nil]
    exact ⟨renderPage_reads hpage, _, rfl, .shown hpage⟩

theorem pageOrInternal_makes (r : Responder) (page : Page) (values : Json) :
    r.Makes (r.pageOrInternal page values) (PageMade r page values) := by
  intro slot t last h
  rw [pageOrInternal, run_lift_bind, runs_monad_bind_iff] at h
  obtain ⟨a, t₁, t₂, hpage, hrest, rfl⟩ := h
  rcases a with f | response
  · obtain ⟨hreads, response, rfl, hmade⟩ := internalPage_makes r f.message slot t₂ last hrest
    have hstatus : response.status = 500 := by simpa [Page.status] using hmade.status
    refine ⟨?_, response, rfl, .lost (List.prefix_append _ _) hpage hstatus⟩
    exact List.forall_mem_append.2 ⟨renderPage_reads hpage, hreads⟩
  · obtain ⟨-, response', rfl, rfl, rfl⟩ := put_makes r _ slot t₂ last hrest
    rw [List.append_nil]
    exact ⟨renderPage_reads hpage, _, rfl, .shown hpage⟩

/-! ## Outcomes -/

/-- The page that tells of an outcome, with the values that it sees. -/
def outcomePage? (r : Responder) : Outcome → Option (Page × Json)
  | .notFound => some (.notFound, r.failureValues "Not Found")
  | .forbidden f => some (.forbidden, r.failureValues f.message)
  | .badRequest f => some (.badRequest, r.failureValues f.message)
  | .unauthorized f => some (.unauthorized, r.failureValues f.message)
  | .internalServerError f => some (.internalServerError, r.failureValues f.message)
  | .listing entries => some (.folderList, r.listingValues entries)
  | _ => none

/-- The response to an outcome that has no page. -/
def plainResponse? (r : Responder) : Outcome → Option Response
  | .notModified => some (.bare 304)
  | .preconditionFailed => some (.bare 412)
  | .redirect url => some (.redirect url)
  | .redirectWithTrailingSlash => some (.redirect (folderLocation r.request))
  | .stored echo => some (.ofJson 200 echo.toJson)
  | .removed _ => some (.bare 204)
  | _ => none

/-- A response to an outcome, after the store has been asked for templates. -/
def OutcomeMade (r : Responder) (o : Outcome) (t : Conversation StoreInterface)
    (response : Response) : Prop :=
  (∃ page values, r.outcomePage? o = some (page, values) ∧ PageMade r page values t response) ∨
    t = [] ∧ r.plainResponse? o = some response

theorem respond_makes (r : Responder) (o : Outcome) : r.Makes (r.respond o) (r.OutcomeMade o) := by
  have hpage {x : Answering StoreInterface Unit} {page : Page} {values : Json}
      (hx : r.Makes x (PageMade r page values)) (ho : r.outcomePage? o = some (page, values)) :
      r.Makes x (r.OutcomeMade o) := hx.mono fun t response h => .inl ⟨page, values, ho, h⟩
  have hplain {response : Response} (ho : r.plainResponse? o = some response) :
      r.Makes (put response) (r.OutcomeMade o) := by
    refine (put_makes r response).mono ?_
    rintro t made ⟨rfl, rfl⟩
    exact .inr ⟨rfl, ho⟩
  cases o with
  | notFound => exact hpage (pageOrInternal_makes r _ _) rfl
  | forbidden f => exact hpage (pageOrInternal_makes r _ _) rfl
  | badRequest f => exact hpage (pageOrInternal_makes r _ _) rfl
  | unauthorized f => exact hpage (pageOrInternal_makes r _ _) rfl
  | internalServerError f => exact hpage (internalPage_makes r _) rfl
  | notModified => exact hplain rfl
  | preconditionFailed => exact hplain rfl
  | redirect url => exact hplain rfl
  | redirectWithTrailingSlash => exact hplain rfl
  | listing entries => exact hpage (pageOrInternal_makes r _ _) rfl
  | stored echo => exact hplain rfl
  | removed key => exact hplain rfl

end ObjectGateway.Http.Responder
