import ObjectGateway.Proofs.Http.Exchange

/-!
# Counting answers

A service counts each answer once, by the method of the request and the status of the response, after
it has been made.  Stores and hooks count as well, at any time, but they count no answers.  So the
counters after a sequence of requests hold the answers of these requests and no others
(`History.answers`), and the counters that are shown hold those of the requests before
(`Counted.shown`), each with the number of its occurrences (`Metrics.exposition_shows`).
-/

namespace ObjectGateway

open ObjectGateway.Flow

/-! ## Counters -/

theorem CountFamily.mem_all (f : CountFamily) : f ∈ all := by
  cases f <;> decide

namespace Metrics

/-- The line of a counter. -/
def line (c : Count) (n : Nat) : String :=
  c.family.name ++ c.labelText ++ " " ++ toString n ++ "\n"

theorem mem_samples_iff {m : Metrics} {c : Count} : c ∈ m.samples c.family ↔ c ∈ m := by
  simp [samples, List.mem_mergeSort, List.mem_eraseDups]

theorem exists_join_eq {texts : List String} {s : String} (h : s ∈ texts) :
    ∃ before after, String.join texts = before ++ s ++ after := by
  obtain ⟨first, rest, rfl⟩ := List.append_of_mem h
  exact ⟨String.join first, String.join rest, by
    rw [String.join_append, String.join_cons, String.append_assoc]⟩

theorem familyText_shows {m : Metrics} {c : Count} (h : c ∈ m) :
    ∃ before after, m.familyText c.family = before ++ line c (m.count c) ++ after := by
  have hsample : c ∈ m.samples c.family := mem_samples_iff.2 h
  unfold familyText
  split
  · next hnone => simp [hnone] at hsample
  · next counts _ =>
    obtain ⟨before, after, hjoin⟩ := exists_join_eq (List.mem_map_of_mem
      (f := fun c' => (c.family).name ++ c'.labelText ++ " " ++ toString (m.count c') ++ "\n")
      hsample)
    rw [hjoin]
    exact ⟨_, after, by rw [← String.append_assoc, ← String.append_assoc]; rfl⟩

/-- Whatever has been counted is shown, with the number of its occurrences. -/
theorem exposition_shows {m : Metrics} {c : Count} (h : c ∈ m) :
    ∃ before after, m.exposition = before ++ line c (m.count c) ++ after := by
  obtain ⟨start, rest, hfamily⟩ := familyText_shows h
  have hall : m.familyText c.family ∈ CountFamily.all.map m.familyText :=
    List.mem_map_of_mem (CountFamily.mem_all c.family)
  obtain ⟨before, after, hjoin⟩ := exists_join_eq hall
  refine ⟨before ++ start, rest ++ after, ?_⟩
  rw [exposition, hjoin, hfamily]
  simp only [String.append_assoc]

/-- The answers that have been counted, latest first. -/
def answers (m : Metrics) : Metrics := m.filter (·.family == .answered)

theorem answers_cons_of_ne {m : Metrics} {c : Count} (h : c.family ≠ .answered) :
    answers (c :: m) = m.answers :=
  List.filter_cons_of_neg (by simpa using h)

@[simp] theorem answers_cons_answered (m : Metrics) (method : String) (status : Nat) :
    answers (.answered method status :: m) = .answered method status :: m.answers := rfl

theorem count_answers (m : Metrics) (method : String) (status : Nat) :
    m.answers.count (.answered method status) = m.count (.answered method status) :=
  List.count_filter rfl

end Metrics

/-! ## Conversations -/

namespace Http.Service

variable {s : Setup} {snapshot : Snapshot} {request : Request} {response : Response}
  {t : Conversation ServiceInterface} {m m' : Metrics}

/-- What is counted in an exchange. -/
def count? : Exchange ServiceInterface → Option Count
  | ⟨.count c, _⟩ => some c
  | _ => none

/-- What a service counts itself, first to last. -/
def counted (t : Conversation ServiceInterface) : Metrics := t.filterMap count?

/-- The counters before and after a conversation of a service.  They are shown as they are, and what
the service counts is added.  Stores and hooks count at any time, but no answers. -/
inductive Counted : Metrics → Conversation ServiceInterface → Metrics → Prop
  | nil (m : Metrics) : Counted m [] m
  | aside {m m' : Metrics} {t : Conversation ServiceInterface} {c : Count}
      (hc : c.family ≠ .answered) (h : Counted (c :: m) t m') : Counted m t m'
  | store {m m' : Metrics} {t : Conversation ServiceInterface} (config : TargetConfig)
      (c : StoreCall) (reply : c.Reply) (h : Counted m t m') :
      Counted m (⟨.store config c, reply⟩ :: t) m'
  | dispatch {m m' : Metrics} {t : Conversation ServiceInterface} (event : HookEvent)
      (h : Counted m t m') : Counted m (⟨.dispatch event, ()⟩ :: t) m'
  | counters {m m' : Metrics} {t : Conversation ServiceInterface} (h : Counted m t m') :
      Counted m (⟨.counters, m.exposition⟩ :: t) m'
  | count {m m' : Metrics} {t : Conversation ServiceInterface} (c : Count)
      (h : Counted (c :: m) t m') : Counted m (⟨.count c, ()⟩ :: t) m'

/-- The counters that surround a service. -/
theorem counted_converse {α σ : Type} (store : Server StoreInterface σ)
    (x : Flow ServiceInterface α) (state : σ) (m : Metrics)
    {talk : Talk ServiceInterface α (σ × Metrics)}
    (h : x.converse (surroundings store) (state, m) = talk) :
    Counted m talk.exchanges talk.state.2 := by
  subst h
  induction x generalizing state m with
  | done a => exact .nil m
  | call op next ih =>
    cases op with
    | store config c => exact .store config c _ (ih _ (store c state).2 m)
    | dispatch event => exact .dispatch event (ih _ state m)
    | counters => exact .counters (ih _ state m)
    | count c => exact .count c (ih _ state (c :: m))

/-- The answers that a conversation adds are those that the service counts in it. -/
theorem Counted.answers (h : Counted m t m') :
    m'.answers = (counted t).answers.reverse ++ m.answers := by
  induction h with
  | nil m => rfl
  | aside hc _ ih => rw [ih, Metrics.answers_cons_of_ne hc]
  | store config c reply _ ih => exact ih
  | dispatch event _ ih => exact ih
  | counters _ ih => exact ih
  | count c _ ih =>
    rw [ih]
    by_cases hc : c.family = .answered
    · simp [counted, count?, Metrics.answers, hc]
    · simp [counted, count?, Metrics.answers, hc]

/-- The counters that are shown first hold the answers from before. -/
theorem Counted.shown {text : String} (h : Counted m (⟨.counters, text⟩ :: t) m') :
    ∃ shown : Metrics, shown.answers = m.answers ∧ text = shown.exposition := by
  generalize hu : (⟨.counters, text⟩ :: t : Conversation ServiceInterface) = u at h
  induction h with
  | nil m => cases hu
  | aside hc _ ih =>
    obtain ⟨shown, hshown, htext⟩ := ih hu
    exact ⟨shown, hshown.trans (Metrics.answers_cons_of_ne hc), htext⟩
  | store config c reply _ _ => cases hu
  | dispatch event _ _ => cases hu
  | @counters m _ _ _ _ =>
    cases hu
    exact ⟨m, rfl, rfl⟩
  | count c _ _ => cases hu

/-- What a target asks for is not counted by the service. -/
theorem counted_map_ofTarget (config : TargetConfig) (v : Conversation TargetInterface) :
    counted (v.map (ofTarget config)) = [] := by
  refine List.filterMap_eq_nil_iff.2 fun e he => ?_
  obtain ⟨⟨op, reply⟩, -, rfl⟩ := List.mem_map.1 he
  cases op with
  | store c => rfl
  | dispatch event => rfl

theorem process_counted (h : (process s snapshot request).Runs t response) : counted t = [] := by
  cases ProcessRun.of_runs h with
  | unrouted _ _ => rfl
  | refused _ _ => rfl
  | routed _ _ _ _ => exact counted_map_ofTarget _ _

/-- Whether a request is answered without a target: the health check and the counters. -/
def isProbe (request : Request) : Bool :=
  request.method == "GET" && (request.uri.path == "/healthz" || request.uri.path == "/metrics")

theorem respond_of_not_isProbe (h : isProbe request = false) :
    respond s snapshot request = process s snapshot request := by
  rw [isProbe, Bool.and_or_distrib_left, Bool.or_eq_false_iff] at h
  simp [respond, h.1, h.2]

theorem respond_of_metrics (hmethod : request.method = "GET")
    (hpath : request.uri.path = "/metrics") :
    respond s snapshot request = do
      let text ← (.call .counters .done : Flow ServiceInterface String)
      return countersResponse text := by
  simp [respond, hmethod, hpath]

theorem respond_counted (h : (respond s snapshot request).Runs t response) : counted t = [] := by
  unfold respond at h
  split at h
  · obtain ⟨rfl, -⟩ := runs_pure_iff.1 h
    rfl
  · split at h
    · obtain ⟨text, t₁, t₂, hshown, hpure, rfl⟩ := runs_monad_bind_iff.1 h
      obtain ⟨rfl, -⟩ := runs_pure_iff.1 hpure
      obtain rfl := runs_ask_iff.1 hshown
      rfl
    · exact process_counted h

/-- A service counts the answer to a request, and nothing else. -/
theorem handle_counted (h : (handle s snapshot request).Runs t response) :
    counted t = [.answered request.method response.status] := by
  obtain ⟨u, hu, rfl⟩ := handle_runs_iff.1 h
  rw [counted, List.filterMap_append]
  have hnone : u.filterMap count? = [] := respond_counted hu
  rw [hnone]
  rfl

/-- The counters grow by one answer with each request. -/
theorem Counted.answers_of_handle (h : (handle s snapshot request).Runs t response)
    (hcounted : Counted m t m') :
    m'.answers = .answered request.method response.status :: m.answers := by
  rw [hcounted.answers, handle_counted h]
  rfl

/-! ## Sequences of requests -/

/-- The counter of a request with its response. -/
def answerCount (p : Request × Response) : Count := .answered p.1.method p.2.status

/-- Requests that were answered one after the other, first to last, with the responses and with the
counters after them.  Another configuration may come into force between two requests. -/
inductive History (s : Setup) : List (Request × Response) → Metrics → Prop
  | start : History s [] []
  | next {before : List (Request × Response)} {m m' : Metrics} {snapshot : Snapshot}
      {request : Request} {response : Response} {t : Conversation ServiceInterface}
      (h : History s before m) (hrun : (handle s snapshot request).Runs t response)
      (hcounted : Counted m t m') : History s (before ++ [(request, response)]) m'

/-- The answers that have been counted are those that have been given. -/
theorem History.answers {before : List (Request × Response)} (h : History s before m) :
    m.answers = (before.map answerCount).reverse := by
  induction h with
  | start => rfl
  | next _ hrun hcounted ih =>
    rw [hcounted.answers_of_handle hrun, ih, List.map_append, List.reverse_append]
    rfl

/-- The counters are answered with all answers from before. -/
theorem shown_of_metrics (h : (handle s snapshot request).Runs t response)
    (hcounted : Counted m t m') (hmethod : request.method = "GET")
    (hpath : request.uri.path = "/metrics") :
    ∃ shown : Metrics, shown.answers = m.answers ∧
      response = countersResponse shown.exposition := by
  obtain ⟨u, hu, rfl⟩ := handle_runs_iff.1 h
  rw [respond_of_metrics hmethod hpath] at hu
  obtain ⟨text, t₁, t₂, htext, hpure, rfl⟩ := runs_monad_bind_iff.1 hu
  obtain ⟨rfl, rfl⟩ := runs_pure_iff.1 hpure
  obtain rfl := runs_ask_iff.1 htext
  obtain ⟨shown, hshown, rfl⟩ := hcounted.shown
  exact ⟨shown, hshown, rfl⟩

end Http.Service

end ObjectGateway
