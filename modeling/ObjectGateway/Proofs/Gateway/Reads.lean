import ObjectGateway.Gateway.Get
import ObjectGateway.Proofs.Gateway.Runs

/-!
# The runs of reads

Every conversation that a gateway can have while it answers a read, whatever the store replies and
whatever becomes of a file that is sent.  They are listed part by part, and `read_runs_iff` says that
`ReadRun` lists exactly those that occur.  Whichever way a read goes, nothing is changed in the store
and there is one answer: `read_answeredRead`.
-/

namespace ObjectGateway.Gateway

open GatewayFlow
open Exchange (called told sent answered)

theorem streamFile_runs_iff {g : Gateway} {key : String} {input : GetInput}
    {t : Conversation GatewayInterface} {a : Answer Unit} :
    (g.streamFile key input).Runs t a ↔
      (∃ f, t = [called (.get key input.conditions) (.error f)] ∧ a = .error f) ∨
      (∃ output info f, t = [called (.get key input.conditions) (.ok (output, info)),
          sent ⟨some output.body, output.metadata⟩ (.error f)] ∧ a = .error f) ∨
      ∃ output info, t = [called (.get key input.conditions) (.ok (output, info)),
        sent ⟨some output.body, output.metadata⟩ (.ok ()), told (g.readEvent .get input info)] ∧
        a = .ok () := by
  simp only [streamFile, Flow.runs_monad_bind_iff, get_runs_iff]
  constructor
  · rintro ⟨reply, _, rest, rfl, h, rfl⟩
    rcases reply with f | ⟨output, info⟩
    · exact .inl ⟨f, by simpa using h⟩
    · simp only [Flow.runs_monad_bind_iff, sendFile_runs_iff] at h
      obtain ⟨sending, _, last, rfl, hlast, rfl⟩ := h
      rcases sending with f | ⟨⟨⟩⟩
      · exact .inr (.inl ⟨output, info, f, by simpa using hlast⟩)
      · exact .inr (.inr ⟨output, info, by simpa using hlast⟩)
  · rintro (⟨f, rfl, rfl⟩ | ⟨output, info, f, rfl, rfl⟩ | ⟨output, info, rfl, rfl⟩)
    · exact ⟨.error f, _, [], rfl, by simp, rfl⟩
    · refine ⟨.ok (output, info), _, _, rfl, ?_, rfl⟩
      simp only [Flow.runs_monad_bind_iff, sendFile_runs_iff]
      exact ⟨.error f, _, [], rfl, by simp, rfl⟩
    · refine ⟨.ok (output, info), _, _, rfl, ?_, rfl⟩
      simp only [Flow.runs_monad_bind_iff, sendFile_runs_iff]
      exact ⟨.ok (), _, _, rfl, by simp, rfl⟩

theorem answerHead_runs_iff {g : Gateway} {input : GetInput} {found : HeadOutput}
    {info : ResultInfo} {t : Conversation GatewayInterface} {a : Answer Unit} :
    (g.answerHead input found info).Runs t a ↔
      t = [told (g.readEvent .head input info), sent ⟨none, found.metadata⟩ a] := by
  simp [answerHead]

theorem redirectToSignedUrl_runs_iff {g : Gateway} {key : String} {input : GetInput}
    {t : Conversation GatewayInterface} {a : Answer Unit} :
    (g.redirectToSignedUrl key input).Runs t a ↔
      match g.getConfig.expiration with
      | .error f => t = [] ∧ a = .error f
      | .ok span =>
        (∃ f, t = [called (.signedUrl key input.conditions span) (.error f)] ∧ a = .error f) ∨
        ∃ url, t = [called (.signedUrl key input.conditions span) (.ok url),
          answered (.redirect url)] ∧ a = .ok () := by
  unfold redirectToSignedUrl
  cases g.getConfig.expiration with
  | error f => simp
  | ok span =>
    simp only [Flow.runs_monad_bind_iff, signedUrl_runs_iff]
    constructor
    · rintro ⟨reply, _, rest, rfl, h, rfl⟩
      rcases reply with f | url
      · exact .inl ⟨f, by simpa using h⟩
      · exact .inr ⟨url, by simpa using h⟩
    · rintro (⟨f, rfl, rfl⟩ | ⟨url, rfl, rfl⟩)
      · exact ⟨.error f, _, [], rfl, by simp, rfl⟩
      · exact ⟨.ok url, _, _, rfl, by simp, rfl⟩

/-- What is said after a part of a read: nothing, or the answer to its failure. -/
@[simp] def failureAnswer (outcome : Failure → Outcome) :
    Answer Unit → Conversation GatewayInterface
  | .ok () => []
  | .error f => [answered (outcome f)]

/-- The conversations about an object that was found. -/
inductive FoundRun (g : Gateway) (key contentKey : String) (input : GetInput) (found : HeadOutput)
    (info : ResultInfo) : ReadMode → Conversation GatewayInterface → Answer Unit → Prop
  | described (a : Answer Unit) : FoundRun g key contentKey input found info .head
      [told (g.readEvent .head input info), sent ⟨none, found.metadata⟩ a] a
  | redirected {t : Conversation GatewayInterface} {a : Answer Unit}
      (hsigned : g.getConfig.redirectToSignedUrl = true)
      (h : (g.redirectToSignedUrl key input).Runs t a) :
      FoundRun g key contentKey input found info .get t a
  | streamed {t : Conversation GatewayInterface} {a : Answer Unit}
      (hsigned : g.getConfig.redirectToSignedUrl = false)
      (h : (g.streamFile contentKey input).Runs t a) :
      FoundRun g key contentKey input found info .get t a

/-- The conversations about the object of a key. -/
inductive FileRun (g : Gateway) (key : String) (input : GetInput) :
    ReadMode → Conversation GatewayInterface → Answer Unit → Prop
  | unfound {mode : ReadMode} (hasked : mode = .head ∨ g.getConfig.redirectToSignedUrl = true)
      (f : Failure) : FileRun g key input mode [called (.head key) (.error f)] (.error f)
  | found {mode : ReadMode} {found : HeadOutput} {info : ResultInfo}
      {t : Conversation GatewayInterface} {a : Answer Unit}
      (hasked : mode = .head ∨ g.getConfig.redirectToSignedUrl = true)
      (h : FoundRun g key key input found info mode t a) :
      FileRun g key input mode (called (.head key) (.ok (found, info)) :: t) a
  | opened {t : Conversation GatewayInterface} {a : Answer Unit}
      (hsigned : g.getConfig.redirectToSignedUrl = false)
      (h : (g.streamFile key input).Runs t a) : FileRun g key input .get t a

/-- The conversations that show a listing. -/
inductive ListingRun (g : Gateway) (ctx : RequestContext) (mode : ReadMode) (key : String)
    (input : GetInput) : Conversation GatewayInterface → Prop
  | disabled (hdisabled : g.getConfig.disableListing = true) :
      ListingRun g ctx mode key input [answered (.listing [])]
  | unlisted (f : Failure) (henabled : g.getConfig.disableListing = false) :
      ListingRun g ctx mode key input
        [called (.list key) (.error f), answered (.internalServerError f)]
  | listed (ds : List Descriptor) (info : ResultInfo)
      (henabled : g.getConfig.disableListing = false) : ListingRun g ctx mode key input
      [called (.list key) (.ok (ds, info)), told (g.readEvent mode input info),
        answered (.listing (g.entries ctx.mountPath ds))]

/-- The conversations about a folder. -/
inductive FolderRun (g : Gateway) (ctx : RequestContext) (mode : ReadMode) (key : String)
    (input : GetInput) : Conversation GatewayInterface → Prop
  | listed {t : Conversation GatewayInterface} (hindex : g.indexDocument? = none)
      (h : ListingRun g ctx mode key input t) : FolderRun g ctx mode key input t
  | unindexed {index : String} {t : Conversation GatewayInterface}
      (hindex : g.indexDocument? = some index) (h : ListingRun g ctx mode key input t) :
      FolderRun g ctx mode key input (called (.head (joinKey key index)) (.error .notFound) :: t)
  | unknown {index : String} {f : Failure} (hindex : g.indexDocument? = some index)
      (hf : f ≠ .notFound) : FolderRun g ctx mode key input
        [called (.head (joinKey key index)) (.error f), answered (.internalServerError f)]
  | indexed {index : String} {found : HeadOutput} {info : ResultInfo}
      {t : Conversation GatewayInterface} {a : Answer Unit}
      (hindex : g.indexDocument? = some index)
      (h : FoundRun g (joinKey key index) found.key input found info mode t a) :
      FolderRun g ctx mode key input
        (called (.head (joinKey key index)) (.ok (found, info)) ::
          (t ++ failureAnswer readOutcome a))

/-- The conversations of a read. -/
inductive ReadRun (g : Gateway) (ctx : RequestContext) (mode : ReadMode) (input : GetInput) :
    Conversation GatewayInterface → Prop
  | unrewritten {f : Failure} (hkey : g.objectKey ctx input.requestPath = .error f) :
      ReadRun g ctx mode input [answered (failureOutcome f)]
  | folder {key : String} {t : Conversation GatewayInterface}
      (hkey : g.objectKey ctx input.requestPath = .ok key)
      (hpath : isFolderPath input.requestPath = true) (h : FolderRun g ctx mode key input t) :
      ReadRun g ctx mode input t
  | file {key : String} {t : Conversation GatewayInterface} {a : Answer Unit}
      (hkey : g.objectKey ctx input.requestPath = .ok key)
      (hpath : isFolderPath input.requestPath = false) (h : FileRun g key input mode t a) :
      ReadRun g ctx mode input (t ++ failureAnswer (g.fileFailure input.requestPath) a)

section Inversion

variable {g : Gateway} {ctx : RequestContext} {mode : ReadMode} {key contentKey : String}
  {input : GetInput} {t : Conversation GatewayInterface} {a : Answer Unit}

theorem FoundRun.of_runs {found : HeadOutput} {info : ResultInfo}
    (h : (g.answerFound mode key contentKey input found info).Runs t a) :
    FoundRun g key contentKey input found info mode t a := by
  unfold answerFound at h
  cases mode with
  | head =>
    obtain rfl := answerHead_runs_iff.1 h
    exact .described a
  | get =>
    cases hsigned : g.getConfig.redirectToSignedUrl with
    | true => exact .redirected hsigned (by simpa [hsigned] using h)
    | false => exact .streamed hsigned (by simpa [hsigned] using h)

theorem FileRun.of_runs (h : (g.readFile mode key input).Runs t a) :
    FileRun g key input mode t a := by
  unfold readFile at h
  split at h
  · next hasked =>
    simp only [Flow.runs_monad_bind_iff, head_runs_iff] at h
    obtain ⟨reply, _, rest, rfl, hrest, rfl⟩ := h
    rcases reply with f | ⟨found, info⟩
    · obtain ⟨rfl, rfl⟩ : rest = [] ∧ a = .error f := by simpa using hrest
      exact .unfound hasked f
    · exact .found hasked (FoundRun.of_runs hrest)
  · next hopened =>
    -- An object is opened at once only where its content is asked for.
    obtain ⟨hmode, hsigned⟩ := not_or.1 hopened
    obtain rfl : mode = .get := by
      cases mode with
      | get => rfl
      | head => exact absurd rfl hmode
    exact .opened (by simpa using hsigned) h

theorem ListingRun.of_runs (h : (g.listFolder ctx mode key input).Runs t ()) :
    ListingRun g ctx mode key input t := by
  unfold listFolder at h
  split at h
  · next hdisabled =>
    obtain rfl : t = [answered (.listing [])] := by simpa using h
    exact .disabled hdisabled
  · next hdisabled =>
    have henabled : g.getConfig.disableListing = false := by simpa using hdisabled
    simp only [Flow.runs_monad_bind_iff, list_runs_iff] at h
    obtain ⟨reply, _, rest, rfl, hrest, rfl⟩ := h
    rcases reply with f | ⟨ds, info⟩
    · obtain rfl : rest = [answered (.internalServerError f)] := by simpa using hrest
      exact .unlisted f henabled
    · obtain rfl : rest = [told (g.readEvent mode input info),
          answered (.listing (g.entries ctx.mountPath ds))] := by simpa using hrest
      exact .listed ds info henabled

theorem FolderRun.of_runs (h : (g.readFolder ctx mode key input).Runs t ()) :
    FolderRun g ctx mode key input t := by
  unfold readFolder at h
  split at h
  · next hindex => exact .listed hindex (ListingRun.of_runs h)
  · next index hindex =>
    simp only [Flow.runs_monad_bind_iff, head_runs_iff] at h
    obtain ⟨reply, _, rest, rfl, hrest, rfl⟩ := h
    rcases reply with f | ⟨found, info⟩
    · -- A folder without an index document is listed; any other failure is answered.
      by_cases hf : f = .notFound
      · subst hf
        exact .unindexed hindex (ListingRun.of_runs hrest)
      · obtain rfl : rest = [answered (.internalServerError f)] := by
          cases f <;> simp_all
        exact .unknown hindex hf
    · simp only [Flow.runs_monad_bind_iff] at hrest
      obtain ⟨a, t₁, t₂, hfound, hlast, rfl⟩ := hrest
      obtain rfl : t₂ = failureAnswer readOutcome a := by
        rcases a with f | ⟨⟨⟩⟩
        · simpa using hlast
        · simpa using hlast
      exact .indexed hindex (FoundRun.of_runs hfound)

/-- Every conversation of a read is one of those that are listed. -/
theorem ReadRun.of_runs (h : (g.read ctx mode input).Runs t ()) : ReadRun g ctx mode input t := by
  unfold read at h
  split at h
  · next f hkey =>
    obtain rfl : t = [answered (failureOutcome f)] := by simpa using h
    exact .unrewritten hkey
  · next key hkey =>
    split at h
    · next hpath => exact .folder hkey hpath (FolderRun.of_runs h)
    · next hpath =>
      simp only [Flow.runs_monad_bind_iff] at h
      obtain ⟨a, t₁, t₂, hfile, hlast, rfl⟩ := h
      obtain rfl : t₂ = failureAnswer (g.fileFailure input.requestPath) a := by
        rcases a with f | ⟨⟨⟩⟩
        · simpa using hlast
        · simpa using hlast
      exact .file hkey (by simpa using hpath) (FileRun.of_runs hfile)

/-! ### Conversations that occur -/

/-- What follows a part of a read: nothing, or the answer to its failure. -/
theorem failureAnswer_runs (outcome : Failure → Outcome) (a : Answer Unit) :
    (match a with
      | .ok () => pure ()
      | .error f => respond (outcome f) : GatewayFlow Unit).Runs (failureAnswer outcome a) () := by
  rcases a with f | ⟨⟨⟩⟩
  · exact respond_runs_iff.2 rfl
  · exact Flow.runs_pure_iff.2 ⟨rfl, rfl⟩

theorem FoundRun.runs {found : HeadOutput} {info : ResultInfo}
    (h : FoundRun g key contentKey input found info mode t a) :
    (g.answerFound mode key contentKey input found info).Runs t a := by
  unfold answerFound
  cases h with
  | described a => exact answerHead_runs_iff.2 rfl
  | redirected hsigned h => simpa [hsigned] using h
  | streamed hsigned h => simpa [hsigned] using h

theorem FileRun.runs (h : FileRun g key input mode t a) : (g.readFile mode key input).Runs t a := by
  unfold readFile
  cases h with
  | unfound hasked f =>
    rw [if_pos hasked]
    exact Flow.runs_monad_bind_iff.2
      ⟨.error f, _, [], head_runs_iff.2 rfl, Flow.runs_pure_iff.2 ⟨rfl, rfl⟩, rfl⟩
  | @found _ found info _ _ hasked h =>
    rw [if_pos hasked]
    exact Flow.runs_monad_bind_iff.2
      ⟨.ok (found, info), _, _, head_runs_iff.2 rfl, h.runs, rfl⟩
  | opened hsigned h =>
    rw [if_neg (by simp [hsigned])]
    exact h

theorem ListingRun.runs (h : ListingRun g ctx mode key input t) :
    (g.listFolder ctx mode key input).Runs t () := by
  unfold listFolder
  cases h with
  | disabled hdisabled =>
    rw [if_pos hdisabled]
    exact respond_runs_iff.2 rfl
  | unlisted f henabled =>
    rw [if_neg (by simp [henabled])]
    exact Flow.runs_monad_bind_iff.2
      ⟨.error f, _, _, list_runs_iff.2 rfl, respond_runs_iff.2 rfl, rfl⟩
  | listed ds info henabled =>
    rw [if_neg (by simp [henabled])]
    exact Flow.runs_monad_bind_iff.2
      ⟨.ok (ds, info), _, _, list_runs_iff.2 rfl, by simp, rfl⟩

theorem FolderRun.runs (h : FolderRun g ctx mode key input t) :
    (g.readFolder ctx mode key input).Runs t () := by
  unfold readFolder
  cases h with
  | listed hindex h =>
    rw [hindex]
    exact h.runs
  | @unindexed index t hindex h =>
    rw [hindex]
    exact Flow.runs_monad_bind_iff.2
      ⟨.error .notFound, _, t, head_runs_iff.2 rfl, h.runs, rfl⟩
  | @unknown index f hindex hf =>
    rw [hindex]
    refine Flow.runs_monad_bind_iff.2
      ⟨.error f, _, [answered (.internalServerError f)], head_runs_iff.2 rfl, ?_, rfl⟩
    cases f <;> first | exact absurd rfl hf | exact respond_runs_iff.2 rfl
  | @indexed index found info t a hindex h =>
    rw [hindex]
    exact Flow.runs_monad_bind_iff.2 ⟨.ok (found, info), _, _, head_runs_iff.2 rfl,
      Flow.runs_monad_bind_iff.2 ⟨a, t, _, h.runs, failureAnswer_runs readOutcome a, rfl⟩, rfl⟩

/-- Every conversation that is listed occurs. -/
theorem ReadRun.runs (h : ReadRun g ctx mode input t) : (g.read ctx mode input).Runs t () := by
  cases h with
  | unrewritten hkey =>
    rw [objectKey] at hkey
    simp [read, hkey]
  | folder hkey hpath h =>
    rw [objectKey] at hkey
    simp only [read, hkey, hpath, if_true]
    exact h.runs
  | @file key t a hkey hpath h =>
    rw [objectKey] at hkey
    simp only [read, hkey, hpath, Bool.false_eq_true, if_false]
    exact Flow.runs_monad_bind_iff.2 ⟨a, t, _, h.runs, failureAnswer_runs _ a, rfl⟩

theorem read_runs_iff : (g.read ctx mode input).Runs t () ↔ ReadRun g ctx mode input t :=
  ⟨ReadRun.of_runs, ReadRun.runs⟩

/-- The conversations of a read that is answered by an object. -/
theorem read_runs_of_file (h : (g.read ctx .get input).Runs t ())
    (hkey : g.objectKey ctx input.requestPath = .ok key)
    (hfile : isFolderPath input.requestPath = false)
    (hsigned : g.getConfig.redirectToSignedUrl = false) :
    (∃ f, t = [called (.get key input.conditions) (.error f),
        answered (g.fileFailure input.requestPath f)]) ∨
      (∃ output info f, t = [called (.get key input.conditions) (.ok (output, info)),
        sent ⟨some output.body, output.metadata⟩ (.error f),
        answered (g.fileFailure input.requestPath f)]) ∨
      ∃ output info, t = [called (.get key input.conditions) (.ok (output, info)),
        sent ⟨some output.body, output.metadata⟩ (.ok ()), told (g.readEvent .get input info)] := by
  cases ReadRun.of_runs h with
  | unrewritten hfailed => cases hkey.symm.trans hfailed
  | folder _ hpath _ => cases hfile.symm.trans hpath
  | @file key' t₁ a hkey' _ hrun =>
    obtain rfl : key' = key := Except.ok.inj (hkey'.symm.trans hkey)
    have hstream : (g.streamFile key' input).Runs t₁ a := by
      cases hrun with
      | opened _ hstream => exact hstream
      | unfound hasked _ => simp [hsigned] at hasked
      | found hasked _ => simp [hsigned] at hasked
    rcases streamFile_runs_iff.1 hstream with
      ⟨f, rfl, rfl⟩ | ⟨output, info, f, rfl, rfl⟩ | ⟨output, info, rfl, rfl⟩
    · exact .inl ⟨f, rfl⟩
    · exact .inr (.inl ⟨output, info, f, rfl⟩)
    · exact .inr (.inr ⟨output, info, rfl⟩)

end Inversion

/-! ## Failures -/

theorem readOutcome_delivers (f : Failure) : (readOutcome f).delivers = false := by
  cases f <;> rfl

theorem failureOutcome_delivers (f : Failure) : (failureOutcome f).delivers = false := by
  cases f <;> rfl

theorem fileFailure_delivers (g : Gateway) (path : String) (f : Failure) :
    (g.fileFailure path f).delivers = false := by
  unfold fileFailure
  split
  · rfl
  · exact readOutcome_delivers f

/-! ## What every read keeps to -/

/-- A conversation changes nothing in the store and holds one answer, which tells of no change. -/
structure AnsweredRead (t : Conversation GatewayInterface) : Prop where
  changes : t.changes = []
  answers : ∃ a, t.answers = [a] ∧ a.tellsChange = false

/-- Where a part of a read is over: it is answered unless it yields a failure, which is still to be
answered then. -/
def Settled (t : Conversation GatewayInterface) : Answer Unit → Prop
  | .ok () => AnsweredRead t
  | .error _ => t.changes = [] ∧ t.answers = []

section Settling

variable {g : Gateway} {ctx : RequestContext} {mode : ReadMode} {key contentKey : String}
  {input : GetInput} {t : Conversation GatewayInterface} {a : Answer Unit}

theorem streamFile_settled (h : (g.streamFile key input).Runs t a) : Settled t a := by
  rcases streamFile_runs_iff.1 h with
    ⟨f, rfl, rfl⟩ | ⟨output, info, f, rfl, rfl⟩ | ⟨output, info, rfl, rfl⟩
  · exact ⟨rfl, rfl⟩
  · exact ⟨rfl, rfl⟩
  · exact ⟨rfl, _, rfl, rfl⟩

theorem redirectToSignedUrl_settled (h : (g.redirectToSignedUrl key input).Runs t a) :
    Settled t a := by
  rw [redirectToSignedUrl_runs_iff] at h
  split at h
  · obtain ⟨rfl, rfl⟩ := h
    exact ⟨rfl, rfl⟩
  · rcases h with ⟨f, rfl, rfl⟩ | ⟨url, rfl, rfl⟩
    · exact ⟨rfl, rfl⟩
    · exact ⟨rfl, _, rfl, rfl⟩

theorem FoundRun.settled {found : HeadOutput} {info : ResultInfo}
    (h : FoundRun g key contentKey input found info mode t a) : Settled t a := by
  cases h with
  | described a =>
    rcases a with f | ⟨⟨⟩⟩
    · exact ⟨rfl, rfl⟩
    · exact ⟨rfl, _, rfl, rfl⟩
  | redirected _ h => exact redirectToSignedUrl_settled h
  | streamed _ h => exact streamFile_settled h

/-- A question about an object in front of a conversation changes nothing and answers nothing. -/
theorem AnsweredRead.cons_head {reply : Answer (HeadOutput × ResultInfo)} (h : AnsweredRead t) :
    AnsweredRead (called (.head key) reply :: t) := ⟨h.changes, h.answers⟩

theorem Settled.cons_head {reply : Answer (HeadOutput × ResultInfo)} (h : Settled t a) :
    Settled (called (.head key) reply :: t) a := by
  rcases a with f | ⟨⟨⟩⟩
  · exact h
  · exact AnsweredRead.cons_head h

theorem FileRun.settled (h : FileRun g key input mode t a) : Settled t a := by
  cases h with
  | unfound _ f => exact ⟨rfl, rfl⟩
  | found _ h => exact h.settled.cons_head
  | opened _ h => exact streamFile_settled h

/-- A failure that is answered settles a read. -/
theorem Settled.answeredRead (h : Settled t a) {outcome : Failure → Outcome}
    (houtcome : ∀ f, (outcome f).delivers = false) :
    AnsweredRead (t ++ failureAnswer outcome a) := by
  rcases a with f | ⟨⟨⟩⟩
  · obtain ⟨hchanges, hanswers⟩ := h
    constructor
    · rw [Conversation.changes_append, hchanges]
      rfl
    · refine ⟨.outcome (outcome f), ?_, Recorded.tellsChange_of_not_delivers (houtcome f)⟩
      rw [Conversation.answers_append, hanswers]
      rfl
  · rw [failureAnswer, List.append_nil]
    exact h

theorem ListingRun.answeredRead (h : ListingRun g ctx mode key input t) : AnsweredRead t := by
  cases h with
  | disabled _ => exact ⟨rfl, _, rfl, rfl⟩
  | unlisted f => exact ⟨rfl, _, rfl, rfl⟩
  | listed ds info => exact ⟨rfl, _, rfl, rfl⟩

theorem FolderRun.answeredRead (h : FolderRun g ctx mode key input t) : AnsweredRead t := by
  cases h with
  | listed _ h => exact h.answeredRead
  | unindexed _ h => exact h.answeredRead.cons_head
  | unknown _ _ => exact ⟨rfl, _, rfl, rfl⟩
  | indexed _ h => exact (h.settled.answeredRead readOutcome_delivers).cons_head

/-- A read changes nothing in the store, and it is answered once. -/
theorem read_answeredRead (h : (g.read ctx mode input).Runs t ()) : AnsweredRead t := by
  cases ReadRun.of_runs h with
  | @unrewritten f _ =>
    exact ⟨rfl, _, rfl, Recorded.tellsChange_of_not_delivers (failureOutcome_delivers f)⟩
  | folder _ _ hfolder => exact hfolder.answeredRead
  | file _ _ hfile => exact hfile.settled.answeredRead (fileFailure_delivers g input.requestPath)

end Settling

end ObjectGateway.Gateway
