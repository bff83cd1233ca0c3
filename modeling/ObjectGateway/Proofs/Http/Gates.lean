import ObjectGateway.Proofs.Gateway.Runs
import ObjectGateway.Proofs.Http.Counters

/-!
# The gates of a service

A request has to pass some gates before the gateway of its target is asked: a target is mounted for
it, the target serves its method, its path can be read, and then the dates of a read or the file of
an upload can be read.  The first gate that stops a request decides its answer.  For this nothing is
asked for but templates of pages in the bucket of the target, so that nothing changes in any store
and no hook is told of anything.  The main statement is `first_gate_answers`, for any request after
any others.
-/

namespace ObjectGateway.Http.Service

open ObjectGateway.Flow

/-! ## Gates -/

/-- Why a request is not passed on to the gateway of a target. -/
inductive Stop
  /-- No target is mounted for it. -/
  | unrouted
  /-- Its target does not serve the method. -/
  | refused (actions : Actions)
  /-- Its path is no text without the escapes. -/
  | undecoded (f : Failure)
  /-- A date that a read depends on cannot be read. -/
  | undated (f : Failure)
  /-- The body of an upload breaks off, or it is no form with a file. -/
  | unread (f : Failure)

namespace Stop

/-- The status that a request is stopped with. -/
def status : Stop → Nat
  | unrouted => 404
  | refused _ => 405
  | undecoded _ => 500
  | undated _ => 400
  | unread _ => 500

/-- The outcome that a stopped request comes to; a method is refused without any. -/
def outcome? : Stop → Option Outcome
  | unrouted => some .notFound
  | refused _ => none
  | undecoded f => some (.internalServerError f)
  | undated f => some (.badRequest f)
  | unread f => some (.internalServerError f)

/-- A stop by what could not be read, if it could not. -/
def ofAnswer? {α : Type} (stop : Failure → Stop) : Answer α → Option Stop
  | .ok _ => none
  | .error f => some (stop f)

end Stop

/-- A gate stops a request or lets it pass. -/
abbrev Gate := Snapshot → Request → Option Stop

/-- A target has to be mounted for a request. -/
def routeGate : Gate := fun snapshot request =>
  match routeOf snapshot request with
  | none => some .unrouted
  | some _ => none

/-- The target has to serve the method. -/
def methodGate : Gate := fun snapshot request =>
  (routeOf snapshot request).bind fun route =>
    let actions := route.target.config.actions
    if methodEnabled actions request.method then none else some (.refused actions)

/-- The path below the mount has to be a text without its escapes. -/
def pathGate : Gate := fun snapshot request =>
  (routeOf snapshot request).bind fun route => Stop.ofAnswer? .undecoded (decodePath route.rawPath)

/-- The dates that a read depends on have to be readable. -/
def dateGate : Gate := fun _ request =>
  if request.method = "GET" ∨ request.method = "HEAD" then
    Stop.ofAnswer? .undated do
      let _ ← readInstant? request.headers "if-modified-since"
      readInstant? request.headers "if-unmodified-since"
  else none

/-- The body of an upload has to arrive, and it has to be a form with a file. -/
def uploadGate : Gate := fun _ request =>
  if request.method = "PUT" then
    Stop.ofAnswer? .unread do
      let body ← readBody request.body
      let boundary ← Multipart.readBoundary ((request.headers.text? "content-type").getD "")
      Multipart.readUpload body boundary
  else none

/-- The gates in their order. -/
def gates : List Gate := [routeGate, methodGate, pathGate, dateGate, uploadGate]

/-- What stops a request first, if a gate does. -/
def firstStop? (snapshot : Snapshot) (request : Request) : Option Stop :=
  gates.findSome? fun gate => gate snapshot request

variable {s : Setup} {snapshot : Snapshot} {request : Request} {response : Response} {stop : Stop}
  {route : Route Target} {t : Conversation ServiceInterface}

theorem dateGate_of_read (snapshot : Snapshot)
    (h : request.method = "GET" ∨ request.method = "HEAD") (path : String) :
    dateGate snapshot request = Stop.ofAnswer? .undated (readGetInput path request.headers) := by
  unfold dateGate readGetInput
  rw [if_pos h]
  cases readInstant? request.headers "if-modified-since" with
  | error f => rfl
  | ok modified => cases readInstant? request.headers "if-unmodified-since" <;> rfl

theorem uploadGate_of_put (snapshot : Snapshot) (h : request.method = "PUT") (path : String) :
    uploadGate snapshot request = Stop.ofAnswer? .unread
      (do readPutInput path request.headers (← readBody request.body) : Answer PutInput) := by
  unfold uploadGate readPutInput
  rw [if_pos h]
  cases readBody request.body with
  | error f => rfl
  | ok body =>
    cases Multipart.readBoundary ((request.headers.text? "content-type").getD "") with
    | error f => rfl
    | ok boundary =>
      cases hupload : Multipart.readUpload body boundary <;>
      simp [Bind.bind, Except.bind, Pure.pure, Except.pure, hupload, Stop.ofAnswer?]

theorem firstStop?_of_unrouted (hroute : routeOf snapshot request = none) :
    firstStop? snapshot request = some .unrouted := by
  simp [firstStop?, gates, routeGate, hroute]

theorem firstStop?_of_refused (hroute : routeOf snapshot request = some route)
    (hmethod : methodEnabled route.target.config.actions request.method = false) :
    firstStop? snapshot request = some (.refused route.target.config.actions) := by
  simp [firstStop?, gates, routeGate, methodGate, hroute, hmethod]

theorem firstStop?_of_enabled (hroute : routeOf snapshot request = some route)
    (hmethod : methodEnabled route.target.config.actions request.method = true) :
    firstStop? snapshot request =
      [pathGate, dateGate, uploadGate].findSome? fun gate => gate snapshot request := by
  simp [firstStop?, gates, routeGate, methodGate, hroute, hmethod]

theorem firstStop?_of_undecoded {f : Failure} (hroute : routeOf snapshot request = some route)
    (hmethod : methodEnabled route.target.config.actions request.method = true)
    (hpath : decodePath route.rawPath = .error f) :
    firstStop? snapshot request = some (.undecoded f) := by
  simp [firstStop?_of_enabled hroute hmethod, pathGate, hroute, hpath, Stop.ofAnswer?]

theorem firstStop?_of_decoded {path : String} (hroute : routeOf snapshot request = some route)
    (hmethod : methodEnabled route.target.config.actions request.method = true)
    (hpath : decodePath route.rawPath = .ok path) :
    firstStop? snapshot request =
      [dateGate, uploadGate].findSome? fun gate => gate snapshot request := by
  simp [firstStop?_of_enabled hroute hmethod, pathGate, hroute, hpath, Stop.ofAnswer?]

/-- A gateway whose request is stopped only answers. -/
theorem routed_of_stop (hroute : routeOf snapshot request = some route)
    (hmethod : methodEnabled route.target.config.actions request.method = true)
    (hstop : firstStop? snapshot request = some stop) :
    ∃ o, stop.outcome? = some o ∧ routed s request route = GatewayFlow.respond o := by
  cases hpath : decodePath route.rawPath with
  | error f =>
    rw [firstStop?_of_undecoded hroute hmethod hpath] at hstop
    obtain rfl := Option.some.inj hstop
    exact ⟨_, rfl, by simp [routed, serve, hpath]⟩
  | ok path =>
    rw [firstStop?_of_decoded hroute hmethod hpath] at hstop
    by_cases hput : request.method = "PUT"
    · have hdates : dateGate snapshot request = none := by simp [dateGate, hput]
      have hupload := uploadGate_of_put snapshot hput path
      cases hinput : (do readPutInput path request.headers (← readBody request.body) :
          Answer PutInput) with
      | error f =>
        obtain rfl : Stop.unread f = stop := by
          simpa [hdates, hupload, hinput, Stop.ofAnswer?] using hstop
        exact ⟨_, rfl, by simp [routed, serve, hpath, perform, hput, hinput]⟩
      | ok input => simp [hdates, hupload, hinput, Stop.ofAnswer?] at hstop
    · have hupload : uploadGate snapshot request = none := by simp [uploadGate, hput]
      by_cases hread : request.method = "GET" ∨ request.method = "HEAD"
      · have hdates := dateGate_of_read snapshot hread path
        have hdelete : request.method ≠ "DELETE" := by
          rintro hdelete
          simp [hdelete] at hread
        cases hinput : readGetInput path request.headers with
        | error f =>
          obtain rfl : Stop.undated f = stop := by
            simpa [hdates, hupload, hinput, Stop.ofAnswer?] using hstop
          exact ⟨_, rfl, by simp [routed, serve, hpath, perform, hput, hdelete, hinput]⟩
        | ok input => simp [hdates, hupload, hinput, Stop.ofAnswer?] at hstop
      · have hdates : dateGate snapshot request = none := by simp [dateGate, hread]
        simp [hdates, hupload] at hstop

/-! ## Stopped requests -/

/-- A read of the template of a page from the bucket of the target of a request. -/
def ReadsPage (snapshot : Snapshot) (request : Request) (e : Exchange ServiceInterface) : Prop :=
  ∃ route page item, routeOf snapshot request = some route ∧
    route.target.config.templates.pages.get page = some item ∧ item.inBucket = true ∧
    e.op = .store route.target.config (.get item.path .none)

/-- The exchange with a store in one of the service. -/
def storeCall? : Exchange ServiceInterface → Option (Exchange StoreInterface)
  | ⟨.store _ c, reply⟩ => some ⟨c, reply⟩
  | _ => none

/-- The calls of stores. -/
def storeCalls (t : Conversation ServiceInterface) : Conversation StoreInterface :=
  t.filterMap storeCall?

theorem storeCalls_ofTarget (config : TargetConfig) (calls : Conversation StoreInterface) :
    storeCalls ((calls.map ofStore).map (ofTarget config)) = calls := by
  induction calls with
  | nil => rfl
  | cons e rest ih => exact congrArg (e :: ·) ih

/-- Whether the page of a stop is shown: its template is loaded by the first calls of the store, and
it is rendered.  A refusal has no page. -/
def PageShown (r : Responder) (stop : Stop) (calls : Conversation StoreInterface) : Prop :=
  ∀ o page values, stop.outcome? = some o → r.outcomePage? o = some (page, values) →
    ∃ first shown, first <+: calls ∧ (r.renderPage page values).Runs first (.ok shown)

/-- The page of a stop has the status of the stop. -/
theorem Stop.status_of_outcomePage? {r : Responder} {o : Outcome} {page : Page} {values : Json}
    (ho : stop.outcome? = some o) (hpage : r.outcomePage? o = some (page, values)) :
    page.status = stop.status := by
  cases stop with
  | refused actions => cases ho
  | _ =>
    cases ho
    cases hpage
    rfl

/-- Every stop but a refusal has a page. -/
theorem Stop.plainResponse?_of_outcome? {r : Responder} {o : Outcome}
    (ho : stop.outcome? = some o) : r.plainResponse? o = none := by
  cases stop with
  | refused actions => cases ho
  | _ =>
    cases ho
    rfl

/-- The response to a stop is its page, or an internal failure where the page is lost. -/
theorem status_of_outcomeMade {r : Responder} {o : Outcome} {calls : Conversation StoreInterface}
    (ho : stop.outcome? = some o) (hmade : r.OutcomeMade o calls response) :
    (PageShown r stop calls → response.status = stop.status) ∧
      (response.status = stop.status ∨ response.status = 500) := by
  rcases hmade with ⟨page, values, hpage, hmade⟩ | ⟨-, hplain⟩
  · have hstatus : page.status = stop.status := Stop.status_of_outcomePage? ho hpage
    refine ⟨fun hshown => ?_, hstatus ▸ hmade.status⟩
    obtain ⟨first, shown, hfirst, hrun⟩ := hshown o page values ho hpage
    rw [hmade.eq_of_shown hfirst hrun, Responder.renderPage_status hrun, hstatus]
  · rw [Stop.plainResponse?_of_outcome? ho] at hplain
    cases hplain

theorem mem_allowedMethods_iff {actions : Actions} {method : String} :
    method ∈ allowedMethods actions ↔ methodEnabled actions method = true := by
  unfold allowedMethods methodEnabled
  cases actions.getEnabled <;> cases actions.putEnabled <;> cases actions.deleteEnabled <;>
  grind

theorem nodup_allowedMethods (actions : Actions) : (allowedMethods actions).Nodup := by
  unfold allowedMethods
  cases actions.getEnabled <;> cases actions.putEnabled <;> cases actions.deleteEnabled <;> decide

/-- How a request that is stopped is answered by its target. -/
structure Stopped (s : Setup) (snapshot : Snapshot) (request : Request) (stop : Stop)
    (t : Conversation ServiceInterface) (response : Response) : Prop where
  /-- Nothing is asked for but templates of pages in the bucket of the target. -/
  reads : ∀ e ∈ t, ReadsPage snapshot request e
  /-- The status is that of the stop, where its page is shown. -/
  status : PageShown (responder s snapshot request) stop (storeCalls t) →
    response.status = stop.status
  /-- A page that is lost leaves an internal failure. -/
  statusOrLost : response.status = stop.status ∨ response.status = 500
  /-- A refusal names the methods that the target serves. -/
  allow : ∀ actions, stop = .refused actions → ∃ allowed : List String,
    response.headers = [textHeader "allow" (String.intercalate ", " allowed)] ∧
      allowed.Nodup ∧ ∀ method, method ∈ allowed ↔ methodEnabled actions method = true

theorem stopped_of_process (h : (process s snapshot request).Runs t response)
    (hstop : firstStop? snapshot request = some stop) :
    Stopped s snapshot request stop t response := by
  cases ProcessRun.of_runs h with
  | unrouted hroute hmade =>
    rw [firstStop?_of_unrouted hroute] at hstop
    cases hstop
    have ho : Stop.unrouted.outcome? = some .notFound := rfl
    obtain ⟨hstatus, hlost⟩ := status_of_outcomeMade ho hmade
    exact ⟨List.forall_mem_nil _, hstatus, hlost, by simp⟩
  | refused hroute hmethod =>
    rw [firstStop?_of_refused hroute hmethod] at hstop
    cases hstop
    refine ⟨List.forall_mem_nil _, fun _ => rfl, .inl rfl, ?_⟩
    rintro actions ⟨⟩
    exact ⟨_, rfl, nodup_allowedMethods _, fun _ => mem_allowedMethods_iff⟩
  | @routed route u v slot hroute hmethod hu hcarries =>
    obtain ⟨o, ho, hrouted⟩ := routed_of_stop hroute hmethod hstop
    rw [hrouted, GatewayFlow.respond_runs_iff] at hu
    subst hu
    obtain ⟨calls, response, rfl, rfl, hreads, hmade⟩ := hcarries.of_answered
    obtain ⟨hstatus, hlost⟩ := status_of_outcomeMade ho hmade
    refine ⟨?_, ?_, hlost, ?_⟩
    · intro e he
      obtain ⟨e', he', rfl⟩ := List.mem_map.1 he
      obtain ⟨call, hcall, rfl⟩ := List.mem_map.1 he'
      obtain ⟨page, item, hitem, hbucket, hop⟩ := hreads call hcall
      refine ⟨route, page, item, hroute, ?_, hbucket, ?_⟩
      · simpa [responder, hroute] using hitem
      · exact congrArg (ServiceEffect.store route.target.config) hop
    · rw [storeCalls_ofTarget]
      exact hstatus
    · rintro actions rfl
      cases ho

/-! ## Any request after any others -/

/-- What the counters tell of a request with its response, after others. -/
structure Accounted (before : List (Request × Response)) (m : Metrics) (request : Request)
    (response : Response) (m' : Metrics) : Prop where
  /-- One answer more is counted, by the method and the status. -/
  grown : m'.answers = .answered request.method response.status :: m.answers
  /-- No other answers have been counted than those that were given. -/
  given : m.answers = (before.map answerCount).reverse
  /-- The counters are answered with every answer from before and the number of its occurrences. -/
  shown : request.method = "GET" → request.uri.path = "/metrics" → ∃ shown : Metrics,
    response.status = 200 ∧
      response.headers = [textHeader "content-type" "text/plain; version=0.0.4; charset=utf-8"] ∧
      response.body = .ofText shown.exposition ∧ shown.answers = m.answers ∧
      ∀ c ∈ before.map answerCount, ∃ start rest,
        shown.exposition = start ++ Metrics.line c ((before.map answerCount).count c) ++ rest

/-- Counters that hold the given answers show each of them with the number of its occurrences. -/
theorem exposition_shows_answers {shown : Metrics} {before : List (Request × Response)}
    (h : shown.answers = (before.map answerCount).reverse) {c : Count}
    (hc : c ∈ before.map answerCount) :
    ∃ start rest,
      shown.exposition = start ++ Metrics.line c ((before.map answerCount).count c) ++ rest := by
  have hmem : c ∈ shown.answers := by rw [h]; exact List.mem_reverse.2 hc
  obtain ⟨⟨earlier, answer⟩, -, rfl⟩ := List.mem_map.1 hc
  have hcount := Metrics.count_answers shown earlier.method answer.status
  rw [h, List.count_reverse] at hcount
  have hshows := Metrics.exposition_shows (List.mem_of_mem_filter hmem)
  rw [answerCount] at hshows ⊢
  rwa [hcount]

/-- The first gate that stops a request decides its answer, and its target's store and hooks are
left alone; and each answer is counted once, in every sequence of requests, whatever stores reply
and whatever stores and hooks count. -/
theorem first_gate_answers {s : Setup} {before : List (Request × Response)} {m m' : Metrics}
    {snapshot : Snapshot} {request : Request} {t : Conversation ServiceInterface}
    {response : Response} (h : History s before m)
    (hrun : (handle s snapshot request).Runs t response) (hcounted : Counted m t m') :
    (isProbe request = false → ∀ stop, firstStop? snapshot request = some stop →
      ∃ reads, t = reads ++ [⟨.count (.answered request.method response.status), ()⟩] ∧
        Stopped s snapshot request stop reads response) ∧
    Accounted before m request response m' := by
  constructor
  · intro hprobe stop hstop
    obtain ⟨reads, hreads, ht⟩ := handle_runs_iff.1 hrun
    rw [respond_of_not_isProbe hprobe] at hreads
    exact ⟨reads, ht, stopped_of_process hreads hstop⟩
  · refine ⟨hcounted.answers_of_handle hrun, h.answers, fun hmethod hpath => ?_⟩
    obtain ⟨shown, hshown, rfl⟩ := shown_of_metrics hrun hcounted hmethod hpath
    have hanswers : shown.answers = (before.map answerCount).reverse := hshown.trans h.answers
    exact ⟨shown, rfl, rfl, rfl, hshown, fun c hc => exposition_shows_answers hanswers hc⟩

/-- A refused upload, then a read that depends on a date which is none, and then the counters. -/
theorem first_gate_answers_docs :
    let snapshot : Snapshot :=
      ⟨[(Gateway.docs [] ⟨some ⟨true, .standard⟩, none, none⟩).target], ⟨[], .const none⟩, ""⟩
    let answer (request : Request) (m : Metrics) :=
      (handle ⟨.standard, ⟨[]⟩⟩ snapshot request).converse (surroundings nothing) ((), m)
    let upload : Request := ⟨"PUT", .ofText "/a", [], []⟩
    let refusal := answer upload []
    let read : Request := ⟨"GET", .ofText "/a", [textHeader "if-modified-since" "noon"], []⟩
    let talk := answer read refusal.state.2
    let probe : Request := ⟨"GET", .ofText "/metrics", [], []⟩
    let last := answer probe talk.state.2
    isProbe read = false ∧ (firstStop? snapshot read).map Stop.status = some 400 ∧
      refusal.value.status = 405 ∧ talk.value.status = 400 ∧
      (∀ stop, firstStop? snapshot read = some stop →
        ∃ reads,
          talk.exchanges = reads ++ [⟨.count (.answered read.method talk.value.status), ()⟩] ∧
          Stopped ⟨.standard, ⟨[]⟩⟩ snapshot read stop reads talk.value) ∧
      Accounted [(upload, refusal.value)] refusal.state.2 read talk.value talk.state.2 ∧
      Accounted [(upload, refusal.value), (read, talk.value)] talk.state.2 probe last.value
        last.state.2 ∧
      ∃ start rest,
        last.value.body = .ofText (start ++ Metrics.line (.answered "PUT" 405) 1 ++ rest) := by
  intro snapshot answer upload refusal read talk probe last
  have hanswer (request : Request) (m : Metrics)
      (a : Talk ServiceInterface Response (Unit × Metrics)) (ha : answer request m = a) :
      (handle ⟨.standard, ⟨[]⟩⟩ snapshot request).Runs a.exchanges a.value ∧
        Counted m a.exchanges a.state.2 := by
    subst ha
    exact ⟨converse_runs _ _ _, counted_converse nothing _ () m rfl⟩
  obtain ⟨hrefusal, hrefused⟩ := hanswer upload [] refusal rfl
  obtain ⟨htalk, htalked⟩ := hanswer read refusal.state.2 talk rfl
  obtain ⟨hlast, hlasted⟩ := hanswer probe talk.state.2 last rfl
  have hhistory := History.next .start hrefusal hrefused
  have hprobe : isProbe read = false := by decide +kernel
  have hstop : (firstStop? snapshot read).map Stop.status = some 400 := by decide +kernel
  have hfirst : refusal.value.status = 405 := by decide +kernel
  have hsecond : talk.value.status = 400 := by decide +kernel
  obtain ⟨hstopped, haccounted⟩ := first_gate_answers hhistory htalk htalked
  have hshown : Accounted [(upload, refusal.value), (read, talk.value)] talk.state.2 probe
      last.value last.state.2 :=
    (first_gate_answers (hhistory.next htalk htalked) hlast hlasted).2
  refine ⟨hprobe, hstop, hfirst, hsecond, hstopped hprobe, haccounted, hshown, ?_⟩
  obtain ⟨shown, -, -, hbody, -, hlines⟩ := hshown.shown rfl (by decide +kernel)
  have hanswers : [(upload, refusal.value), (read, talk.value)].map answerCount =
      [.answered "PUT" 405, .answered "GET" 400] := by
    rw [List.map_cons, List.map_cons, List.map_nil, answerCount, answerCount, hfirst, hsecond]
  rw [hanswers] at hlines
  obtain ⟨start, rest, hline⟩ := hlines (.answered "PUT" 405) (by decide)
  exact ⟨start, rest, hbody.trans (congrArg Body.ofText hline)⟩

end ObjectGateway.Http.Service
