import ObjectGateway.Http.Response
import ObjectGateway.Proofs.Gateway.Reads
import ObjectGateway.Proofs.Gateway.Serving

/-!
# Files that are refused

A file can be refused by whoever is to send it, for instance over HTTP if something that is known
about it cannot stand in a header.  The read then fails and is answered so.  Hooks are not told of
content that was refused, since they are told of content only when it has been sent; but they have
been told of a question about an object already, since its event comes before the file.
`refused_file_answered` says so for every run of a read.
-/

namespace ObjectGateway.Gateway

open Exchange (called told sent answered)

/-- What hooks are told of a read whose file is refused. -/
def toldOfRefused (g : Gateway) (input : GetInput) (info : ResultInfo) :
    ReadMode → List HookEvent
  | .get => []
  | .head => [g.readEvent .head input info]

/-- A read whose file is refused: it is answered by the failure that came of sending the file. -/
structure RefusedFile (g : Gateway) (mode : ReadMode) (input : GetInput) (file : FileAnswer)
    (f : Failure) (t : Conversation GatewayInterface) : Prop where
  content : file.body.isSome ↔ mode = .get
  answers : t.answers = [.outcome (if isFolderPath input.requestPath then readOutcome f
    else g.fileFailure input.requestPath f)]
  events : ∃ info, t.events = g.toldOfRefused input info mode

/-- Where a part of a read is over in which a file was refused: it fails by that, and the failure is
still to be answered. -/
structure RefusedSoFar (g : Gateway) (mode : ReadMode) (input : GetInput) (file : FileAnswer)
    (f : Failure) (t : Conversation GatewayInterface) (a : Answer Unit) : Prop where
  failed : a = .error f
  content : file.body.isSome ↔ mode = .get
  answers : t.answers = []
  events : ∃ info, t.events = g.toldOfRefused input info mode

section Refusals

variable {g : Gateway} {ctx : RequestContext} {mode : ReadMode} {key contentKey : String}
  {input : GetInput} {file : FileAnswer} {f : Failure} {t : Conversation GatewayInterface}
  {a : Answer Unit}

/-- Content that is refused is not announced. -/
theorem streamFile_refused (h : (g.streamFile key input).Runs t a)
    (hsent : sent file (.error f) ∈ t) : RefusedSoFar g .get input file f t a := by
  rcases streamFile_runs_iff.1 h with
    ⟨f', rfl, rfl⟩ | ⟨output, info, f', rfl, rfl⟩ | ⟨output, info, rfl, rfl⟩
  · simp at hsent
  · obtain ⟨rfl, rfl⟩ : file = ⟨some output.body, output.metadata⟩ ∧ f = f' := by
      simpa using hsent
    exact ⟨rfl, by simp, rfl, info, rfl⟩
  · simp at hsent

/-- A signed address is no file. -/
theorem redirectToSignedUrl_sends_nothing (h : (g.redirectToSignedUrl key input).Runs t a)
    (reply : Answer Unit) : sent file reply ∉ t := by
  rw [redirectToSignedUrl_runs_iff] at h
  split at h
  · obtain ⟨rfl, -⟩ := h
    simp
  · rcases h with ⟨f', rfl, -⟩ | ⟨url, rfl, -⟩
    · simp
    · simp

theorem FoundRun.refused {found : HeadOutput} {info : ResultInfo}
    (h : FoundRun g key contentKey input found info mode t a)
    (hsent : sent file (.error f) ∈ t) : RefusedSoFar g mode input file f t a := by
  cases h with
  | described a =>
    obtain ⟨rfl, rfl⟩ : file = ⟨none, found.metadata⟩ ∧ a = .error f := by
      simpa [eq_comm] using hsent
    exact ⟨rfl, by simp, rfl, info, rfl⟩
  | redirected _ h => exact absurd hsent (redirectToSignedUrl_sends_nothing h _)
  | streamed _ h => exact streamFile_refused h hsent

/-- A question about an object in front of a conversation is neither announced nor answered. -/
theorem RefusedSoFar.cons_head {reply : Answer (HeadOutput × ResultInfo)}
    (h : RefusedSoFar g mode input file f t a) :
    RefusedSoFar g mode input file f (called (.head key) reply :: t) a :=
  ⟨h.failed, h.content, h.answers, h.events⟩

theorem FileRun.refused (h : FileRun g key input mode t a) (hsent : sent file (.error f) ∈ t) :
    RefusedSoFar g mode input file f t a := by
  cases h with
  | unfound _ f' => simp at hsent
  | found _ h =>
    have hrest := h.refused (by simpa using hsent)
    exact hrest.cons_head
  | opened _ h => exact streamFile_refused h hsent

/-- The failure that is left over is answered. -/
theorem RefusedSoFar.refusedFile (h : RefusedSoFar g mode input file f t a)
    {outcome : Failure → Outcome}
    (houtcome : outcome f = if isFolderPath input.requestPath then readOutcome f
      else g.fileFailure input.requestPath f) :
    RefusedFile g mode input file f (t ++ failureAnswer outcome a) := by
  obtain ⟨rfl, hcontent, hanswers, info, hevents⟩ := h
  refine ⟨hcontent, ?_, info, ?_⟩
  · rw [Conversation.answers_append, hanswers, ← houtcome]
    rfl
  · rw [Conversation.events_append, hevents]
    exact List.append_nil _

/-- What follows a part of a read is no file. -/
theorem mem_of_mem_append_failureAnswer {outcome : Failure → Outcome} {reply : Answer Unit}
    (h : sent file reply ∈ t ++ failureAnswer outcome a) : sent file reply ∈ t := by
  refine (List.mem_append.1 h).resolve_right ?_
  rcases a with f' | ⟨⟨⟩⟩
  · simp
  · simp

theorem ListingRun.sends_nothing (h : ListingRun g ctx mode key input t) (reply : Answer Unit) :
    sent file reply ∉ t := by
  cases h with
  | disabled _ => simp
  | unlisted f' => simp
  | listed ds info => simp

theorem FolderRun.refused (h : FolderRun g ctx mode key input t)
    (hfolder : isFolderPath input.requestPath = true) (hsent : sent file (.error f) ∈ t) :
    RefusedFile g mode input file f t := by
  cases h with
  | listed _ h => exact absurd hsent (h.sends_nothing _)
  | unindexed _ h => exact absurd (by simpa using hsent) (h.sends_nothing (.error f))
  | unknown _ _ => simp at hsent
  | @indexed index found info t a _ h =>
    have hrest : sent file (.error f) ∈ t ++ failureAnswer readOutcome a := by
      rcases List.mem_cons.1 hsent with heq | hrest
      · cases heq
      · exact hrest
    have hfound : sent file (.error f) ∈ t := mem_of_mem_append_failureAnswer hrest
    have hso : RefusedSoFar g mode input file f
        (called (.head (joinKey key index)) (.ok (found, info)) :: t) a :=
      (h.refused hfound).cons_head
    exact hso.refusedFile (by rw [if_pos hfolder])

/-- A read whose file is refused is answered by the failure that came of it.  Hooks are told of a
question by one event, and of content by none. -/
theorem refused_file_answered (h : (g.read ctx mode input).Runs t ())
    (hsent : sent file (.error f) ∈ t) : RefusedFile g mode input file f t := by
  cases ReadRun.of_runs h with
  | unrewritten _ => simp at hsent
  | folder _ hpath hfolder => exact hfolder.refused hpath hsent
  | @file key t₁ a _ hpath hfile =>
    have hpart : sent file (.error f) ∈ t₁ := mem_of_mem_append_failureAnswer hsent
    have hfile' : ¬isFolderPath input.requestPath = true := by simp [hpath]
    exact (hfile.refused hpart).refusedFile (by rw [if_neg hfile'])

end Refusals

/-- A file is sent over HTTP if a response can be made of it. -/
def sendOverHttp (file : FileAnswer) : Answer Unit := (Http.fileResponse file).map fun _ => ()

/-- What is known about an object whose type is of two lines. -/
def brokenType : ObjectMetadata := { MemoryStore.metadata [104, 105] with contentType := "a\nb" }

/-- A question about that object.  Its type cannot stand in a header. -/
def brokenQuestion : Conversation GatewayInterface :=
  [called (.head "a") (.ok (⟨"a", brokenType⟩, MemoryStore.info "a")),
    told ⟨.head, "docs", "/a", some (.head .none), MemoryStore.info "a"⟩,
    sent ⟨none, brokenType⟩ (.error (.internal "file headers")),
    answered (.internalServerError (.internal "file headers"))]

theorem brokenQuestion_runs :
    ((docs [] ⟨some ⟨true, .standard⟩, none, none⟩).read default .head ⟨"/a", .none⟩).Runs
      brokenQuestion () :=
  ReadRun.runs (.file rfl rfl (.found (.inl rfl) (.described _)))

theorem refused_file_answered_docs :
    let g := docs [] ⟨some ⟨true, .standard⟩, none, none⟩
    let file : FileAnswer := ⟨none, brokenType⟩
    sent file (.error (.internal "file headers")) ∈ brokenQuestion ∧
      RefusedFile g .head ⟨"/a", .none⟩ file (.internal "file headers") brokenQuestion := by
  intro g file
  have hsent : sent file (.error (.internal "file headers")) ∈ brokenQuestion := by
    simp [brokenQuestion, file]
  exact ⟨hsent, refused_file_answered brokenQuestion_runs hsent⟩

/-- Hooks are told of a question whose file is refused over HTTP. -/
theorem refused_question_announced :
    ¬∀ (g : Gateway) (ctx : RequestContext) (mode : ReadMode) (input : GetInput)
      (t : Conversation GatewayInterface), (g.read ctx mode input).Runs t () →
      (∀ file reply, sent file reply ∈ t → reply = sendOverHttp file) →
      ∀ file f, sent file (.error f) ∈ t → t.events = [] := by
  intro hall
  have hrefused : sendOverHttp ⟨none, brokenType⟩ = .error (.internal "file headers") := by
    decide +kernel
  have hevents := hall _ _ _ _ brokenQuestion brokenQuestion_runs
    (fun file reply hsent => by
      obtain ⟨rfl, rfl⟩ := by simpa [brokenQuestion] using hsent
      exact hrefused.symm)
    ⟨none, brokenType⟩ (.internal "file headers") (by simp [brokenQuestion])
  cases hevents

end ObjectGateway.Gateway
