import ObjectGateway.Proofs.Config.Dependable
import ObjectGateway.Proofs.Gateway.Reads
import ObjectGateway.Proofs.Gateway.Serving

/-!
# How reads are decided

A read goes through a short plan of calls until one of them fails.  What the last call has shown, or
the failure, decides the answer.  `Decision` is the table of all reads: the calls with their replies
on the one side and the answer on the other.  `read_decides` says that the runs of a read, as they
are answered by a recording, are exactly the rows of the table.
-/

namespace ObjectGateway.Gateway

open GatewayFlow
open Exchange (called told sent answered)

/-! ## The table -/

/-- What a call has shown of the store: an answer, or the failure that ends the plan. -/
inductive Shows (g : Gateway) (ctx : RequestContext) :
    Exchange StoreInterface → Answer Recorded → Prop
  | failed (c : StoreCall) (f : Failure) : Shows g ctx ⟨c, c.fail f⟩ (.error f)
  | described (key : String) (found : HeadOutput) (info : ResultInfo) :
      Shows g ctx ⟨.head key, .ok (found, info)⟩ (.ok (.file none found.metadata.contentType))
  | streamed (key : String) (c : GetConditions) (info : ResultInfo) {output : GetOutput}
      {content : Bytes} (h : output.body.collect = .ok content) :
      Shows g ctx ⟨.get key c, .ok (output, info)⟩
        (.ok (.file (some content) output.metadata.contentType))
  /-- The content breaks off while it is read. -/
  | broken (key : String) (c : GetConditions) (info : ResultInfo) {output : GetOutput}
      {reason : String} (h : output.body.collect = .error reason) :
      Shows g ctx ⟨.get key c, .ok (output, info)⟩ (.error (.internal reason))
  | signed (key : String) (c : GetConditions) (span : Timespan) (url : String) :
      Shows g ctx ⟨.signedUrl key c span, .ok url⟩ (.ok (.outcome (.redirect url)))
  | listed (key : String) (ds : List Descriptor) (info : ResultInfo) :
      Shows g ctx ⟨.list key, .ok (ds, info)⟩ (.ok (.outcome (.listing (g.entries ctx.mountPath ds))))

/-- The calls of a plan are made one after the other until one fails, and what was shown last
counts. -/
inductive Follows (g : Gateway) (ctx : RequestContext) :
    Option Recorded → List StoreCall → Conversation StoreInterface → Answer Recorded → Prop
  | done (r : Recorded) : Follows g ctx (some r) [] [] (.ok r)
  | stopped {shown : Option Recorded} {c : StoreCall} {reply : c.Reply} {f : Failure}
      (rest : List StoreCall) (h : Shows g ctx ⟨c, reply⟩ (.error f)) :
      Follows g ctx shown (c :: rest) [⟨c, reply⟩] (.error f)
  | next {shown : Option Recorded} {c : StoreCall} {reply : c.Reply} {r : Recorded}
      {rest : List StoreCall} {calls : Conversation StoreInterface} {result : Answer Recorded}
      (h : Shows g ctx ⟨c, reply⟩ (.ok r)) (hrest : Follows g ctx (some r) rest calls result) :
      Follows g ctx shown (c :: rest) (⟨c, reply⟩ :: calls) result

/-- How long the signed addresses of a target are valid: as configured, or for fifteen minutes. -/
def Lasts (g : Gateway) (span : Timespan) : Prop :=
  match g.getConfig.signedUrlExpiration with
  | some text => Timespan.parse text = .ok span
  | none => span = .ofSeconds (15 * 60)

/-- The calls for an object that was found: none for a question, one for its content. -/
def foundPlan (g : Gateway) (mode : ReadMode) (key : String) (input : GetInput) (span : Timespan) :
    List StoreCall :=
  match mode with
  | .head => []
  | .get =>
    if g.getConfig.redirectToSignedUrl then [.signedUrl key input.conditions span]
    else [.get key input.conditions]

/-- The calls for an object.  It is opened at once where its content is passed on. -/
def filePlan (g : Gateway) (mode : ReadMode) (key : String) (input : GetInput) (span : Timespan) :
    List StoreCall :=
  if mode = .head ∨ g.getConfig.redirectToSignedUrl then
    .head key :: g.foundPlan mode key input span
  else [.get key input.conditions]

/-- The calls for an index document, which is always asked for first. -/
def indexPlan (g : Gateway) (mode : ReadMode) (key : String) (input : GetInput) (span : Timespan) :
    List StoreCall :=
  .head key :: g.foundPlan mode key input span

/-- The answer to a failure to read an object.  Where `slash` holds, an object that is not there may
be a folder. -/
def refusal (slash : Bool) : Failure → Outcome
  | .notFound => if slash then .redirectWithTrailingSlash else .notFound
  | .notModified => .notModified
  | .preconditionFailed => .preconditionFailed
  | f => .internalServerError f

/-- The answer that a plan comes to. -/
def settle (outcome : Failure → Outcome) : Answer Recorded → Recorded
  | .ok r => r
  | .error f => .outcome (outcome f)

/-- The listings of a folder. -/
inductive ListingDecision (g : Gateway) (ctx : RequestContext) (key : String) :
    Conversation StoreInterface → Recorded → Prop
  | disabled (hdisabled : g.getConfig.disableListing = true) :
      ListingDecision g ctx key [] (.outcome (.listing []))
  | listed {calls : Conversation StoreInterface} {result : Answer Recorded}
      (henabled : g.getConfig.disableListing = false)
      (h : Follows g ctx none [.list key] calls result) :
      ListingDecision g ctx key calls (settle .internalServerError result)

/-- The rows for a folder. -/
inductive FolderDecision (g : Gateway) (ctx : RequestContext) (mode : ReadMode) (key : String)
    (input : GetInput) : Conversation StoreInterface → Recorded → Prop
  | listed {calls : Conversation StoreInterface} {r : Recorded} (hindex : g.indexDocument? = none)
      (h : ListingDecision g ctx key calls r) : FolderDecision g ctx mode key input calls r
  | indexed {index : String} {found : HeadOutput} {info : ResultInfo} {span : Timespan}
      {calls : Conversation StoreInterface} {result : Answer Recorded}
      (hindex : g.indexDocument? = some index) (hspan : g.Lasts span)
      (h : Follows g ctx none (g.indexPlan mode (joinKey key index) input span)
        (⟨.head (joinKey key index), .ok (found, info)⟩ :: calls) result) :
      FolderDecision g ctx mode key input
        (⟨.head (joinKey key index), .ok (found, info)⟩ :: calls) (settle (refusal false) result)
  | unindexed {index : String} {calls : Conversation StoreInterface} {r : Recorded}
      (hindex : g.indexDocument? = some index) (h : ListingDecision g ctx key calls r) :
      FolderDecision g ctx mode key input
        (⟨.head (joinKey key index), .error .notFound⟩ :: calls) r
  | unknown {index : String} {f : Failure} (hindex : g.indexDocument? = some index)
      (hf : f ≠ .notFound) :
      FolderDecision g ctx mode key input [⟨.head (joinKey key index), .error f⟩]
        (.outcome (.internalServerError f))

/-- The table of reads. -/
inductive Decision (g : Gateway) (ctx : RequestContext) (mode : ReadMode) (input : GetInput) :
    Conversation StoreInterface → Recorded → Prop
  | unrewritten {f : Failure} (hkey : g.objectKey ctx input.requestPath = .error f) :
      Decision g ctx mode input [] (.outcome (failureOutcome f))
  | file {key : String} {span : Timespan} {calls : Conversation StoreInterface}
      {result : Answer Recorded} (hkey : g.objectKey ctx input.requestPath = .ok key)
      (hpath : isFolderPath input.requestPath = false) (hspan : g.Lasts span)
      (h : Follows g ctx none (g.filePlan mode key input span) calls result) :
      Decision g ctx mode input calls
        (settle (refusal g.getConfig.redirectWithTrailingSlash) result)
  | folder {key : String} {calls : Conversation StoreInterface} {r : Recorded}
      (hkey : g.objectKey ctx input.requestPath = .ok key)
      (hpath : isFolderPath input.requestPath = true)
      (h : FolderDecision g ctx mode key input calls r) : Decision g ctx mode input calls r

/-! ## What calls show -/

section Shows

variable {g : Gateway} {ctx : RequestContext} {key : String} {c : GetConditions} {span : Timespan}
  {result : Answer Recorded}

@[simp] theorem shows_head_iff {reply : Answer (HeadOutput × ResultInfo)} :
    Shows g ctx ⟨.head key, reply⟩ result ↔
      result = reply.map fun p => .file none p.1.metadata.contentType := by
  constructor
  · rintro (⟨_, f⟩ | ⟨_, found, info⟩)
    · rfl
    · rfl
  · rintro rfl
    rcases reply with f | ⟨found, info⟩
    · exact .failed (.head key) f
    · exact .described key found info

@[simp] theorem shows_get_iff {reply : Answer (GetOutput × ResultInfo)} :
    Shows g ctx ⟨.get key c, reply⟩ result ↔
      result = reply.bind fun p => match p.1.body.collect with
        | .ok content => .ok (.file (some content) p.1.metadata.contentType)
        | .error reason => .error (.internal reason) := by
  constructor
  · rintro (⟨_, f⟩ | _ | ⟨_, _, info, h⟩ | ⟨_, _, info, h⟩)
    · rfl
    · simp [Except.bind, h]
    · simp [Except.bind, h]
  · rintro rfl
    rcases reply with f | ⟨output, info⟩
    · exact .failed (.get key c) f
    · cases h : output.body.collect with
      | ok content => simpa [Except.bind, h] using Shows.streamed key c info h
      | error reason => simpa [Except.bind, h] using Shows.broken key c info h

@[simp] theorem shows_signedUrl_iff {reply : Answer String} :
    Shows g ctx ⟨.signedUrl key c span, reply⟩ result ↔
      result = reply.map fun url => .outcome (.redirect url) := by
  constructor
  · rintro (⟨_, f⟩ | _ | _ | _ | _)
    · rfl
    · rfl
  · rintro rfl
    rcases reply with f | url
    · exact .failed (.signedUrl key c span) f
    · exact .signed key c span url

@[simp] theorem shows_list_iff {reply : Answer (List Descriptor × ResultInfo)} :
    Shows g ctx ⟨.list key, reply⟩ result ↔
      result = reply.map fun p => .outcome (.listing (g.entries ctx.mountPath p.1)) := by
  constructor
  · rintro (⟨_, f⟩ | _ | _ | _ | _ | ⟨_, ds, info⟩)
    · rfl
    · rfl
  · rintro rfl
    rcases reply with f | ⟨ds, info⟩
    · exact .failed (.list key) f
    · exact .listed key ds info

end Shows

section Follows

variable {g : Gateway} {ctx : RequestContext} {shown : Option Recorded} {c : StoreCall}
  {rest : List StoreCall} {calls : Conversation StoreInterface} {result : Answer Recorded}

@[simp] theorem follows_nil_iff :
    Follows g ctx shown [] calls result ↔ ∃ r, shown = some r ∧ calls = [] ∧ result = .ok r := by
  constructor
  · rintro ⟨r⟩
    exact ⟨r, rfl, rfl, rfl⟩
  · rintro ⟨r, rfl, rfl, rfl⟩
    exact .done r

@[simp] theorem follows_cons_iff :
    Follows g ctx shown (c :: rest) calls result ↔
      ∃ (reply : c.Reply) (first : Answer Recorded), Shows g ctx ⟨c, reply⟩ first ∧
        match first with
        | .error f => calls = [⟨c, reply⟩] ∧ result = .error f
        | .ok r => ∃ calls', Follows g ctx (some r) rest calls' result ∧
          calls = ⟨c, reply⟩ :: calls' := by
  constructor
  · intro h
    cases h with
    | stopped _ h => exact ⟨_, _, h, rfl, rfl⟩
    | next h hrest => exact ⟨_, _, h, _, hrest, rfl⟩
  · rintro ⟨reply, f | r, h, hrest⟩
    · obtain ⟨rfl, rfl⟩ := hrest
      exact .stopped rest h
    · obtain ⟨calls', hrest, rfl⟩ := hrest
      exact .next h hrest

end Follows

/-! ## Parts of a read -/

/-- The store finds no other object than the one that it is asked for. -/
def FindsAsked (calls : Conversation StoreInterface) : Prop :=
  ∀ key found info, ⟨.head key, .ok (found, info)⟩ ∈ calls → found.key = key

theorem FindsAsked.of_cons {e : Exchange StoreInterface} {calls : Conversation StoreInterface}
    (h : FindsAsked (e :: calls)) : FindsAsked calls :=
  fun key found info hmem => h key found info (List.mem_cons_of_mem e hmem)

/-- What a part of a read has come to: it is answered, or its failure is still to be answered. -/
def Gives (t : Conversation GatewayInterface) (a : Answer Unit) : Answer Recorded → Prop
  | .ok r => a = .ok () ∧ t.answers = [r]
  | .error f => a = .error f ∧ t.answers = []

/-- A call of the store in front of a part of a read is no answer. -/
theorem Gives.cons_called {t : Conversation GatewayInterface} {a : Answer Unit}
    {result : Answer Recorded} {c : StoreCall} {reply : c.Reply} (h : Gives t a result) :
    Gives (called c reply :: t) a result := by
  cases result with
  | ok r => exact h
  | error f => exact h

/-- The runs of a part of a read are the rows of a table. -/
structure Decides (flow : GatewayFlow (Answer Unit))
    (table : Conversation StoreInterface → Answer Recorded → Prop) : Prop where
  decided : ∀ t a, flow.Runs t a → t.RecordsFiles → FindsAsked t.storeCalls →
    ∃ result, table t.storeCalls result ∧ Gives t a result
  occurs : ∀ calls result, table calls result → FindsAsked calls →
    ∃ t a, flow.Runs t a ∧ t.RecordsFiles ∧ t.storeCalls = calls ∧ Gives t a result

section Parts

variable {g : Gateway} {ctx : RequestContext} {mode : ReadMode} {key : String} {input : GetInput}
  {span : Timespan} {shown : Option Recorded}

/-- What becomes of a file that is recorded: it is taken up unless its content breaks off. -/
def takenUp (file : FileAnswer) : Answer Unit :=
  match file.body with
  | none => .ok ()
  | some stream =>
    match stream.collect with
    | .ok _ => .ok ()
    | .error reason => .error (.internal reason)

theorem sendFile_reply (r : Recording) (file : FileAnswer) :
    (r.sendFile file).1 = takenUp file := by
  unfold Recording.sendFile takenUp
  cases file.body with
  | none => rfl
  | some stream => cases hcollect : stream.collect <;> simp [hcollect]

theorem recordsFiles_iff {t : Conversation GatewayInterface} :
    t.RecordsFiles ↔ ∀ file reply, sent file reply ∈ t → reply = takenUp file := by
  refine forall_congr' fun file => forall_congr' fun reply => imp_congr_right fun _ => ?_
  constructor
  · rintro ⟨r, hr⟩
    rw [← hr, sendFile_reply]
  · rintro rfl
    exact ⟨⟨.ofObjects [], [], []⟩, sendFile_reply _ file⟩

/-- Content that was read to its end is the answer. -/
theorem answers_streamed {c : StoreCall} {reply : c.Reply} {stream : ObjectStream}
    {metadata : ObjectMetadata} {content : Bytes} (h : stream.collect = .ok content)
    (event : HookEvent) :
    Conversation.answers [called c reply, sent ⟨some stream, metadata⟩ (.ok ()), told event] =
      [.file (some content) metadata.contentType] := by
  show [Recorded.file stream.collect.toOption metadata.contentType] = _
  rw [h]
  rfl

theorem streamFile_decides :
    Decides (g.streamFile key input) (Follows g ctx shown [.get key input.conditions]) := by
  constructor
  · intro t a h hfiles _
    rw [recordsFiles_iff] at hfiles
    rcases streamFile_runs_iff.1 h with
      ⟨f, rfl, rfl⟩ | ⟨output, info, f, rfl, rfl⟩ | ⟨output, info, rfl, rfl⟩
    · exact ⟨.error f, .stopped [] (.failed _ f), rfl, rfl⟩
    · have htaken := hfiles ⟨some output.body, output.metadata⟩ (.error f) (by simp)
      cases hcollect : output.body.collect with
      | ok content => simp [takenUp, hcollect] at htaken
      | error reason =>
        obtain rfl : f = .internal reason := by simpa [takenUp, hcollect] using htaken
        exact ⟨_, .stopped [] (.broken _ _ info hcollect), rfl, rfl⟩
    · have htaken := hfiles ⟨some output.body, output.metadata⟩ (.ok ()) (by simp)
      cases hcollect : output.body.collect with
      | error reason => simp [takenUp, hcollect] at htaken
      | ok content =>
        exact ⟨_, .next (.streamed _ _ info hcollect) (.done _), rfl, answers_streamed hcollect _⟩
  · intro calls result h _
    simp only [follows_cons_iff, follows_nil_iff, shows_get_iff] at h
    obtain ⟨reply, _, rfl, h⟩ := h
    rcases reply with f | ⟨output, info⟩
    · obtain ⟨rfl, rfl⟩ := h
      exact ⟨_, _, streamFile_runs_iff.2 (.inl ⟨f, rfl, rfl⟩), by simp [recordsFiles_iff], rfl, rfl,
        rfl⟩
    · cases hcollect : output.body.collect with
      | error reason =>
        obtain ⟨rfl, rfl⟩ : calls = [⟨.get key input.conditions, .ok (output, info)⟩] ∧
            result = .error (.internal reason) := by simpa [Except.bind, hcollect] using h
        refine ⟨_, _, streamFile_runs_iff.2 (.inr (.inl ⟨output, info, .internal reason, rfl, rfl⟩)),
          ?_, rfl, rfl, rfl⟩
        simp [recordsFiles_iff, takenUp, hcollect]
      | ok content =>
        obtain ⟨rfl, rfl⟩ : calls = [⟨.get key input.conditions, .ok (output, info)⟩] ∧
            result = .ok (.file (some content) output.metadata.contentType) := by
          simpa [Except.bind, hcollect, and_comm] using h
        refine ⟨_, _, streamFile_runs_iff.2 (.inr (.inr ⟨output, info, rfl, rfl⟩)), ?_, rfl, rfl,
          answers_streamed hcollect _⟩
        simp [recordsFiles_iff, takenUp, hcollect]

theorem redirectToSignedUrl_decides (hspan : g.getConfig.expiration = .ok span) :
    Decides (g.redirectToSignedUrl key input)
      (Follows g ctx shown [.signedUrl key input.conditions span]) := by
  have hruns {t : Conversation GatewayInterface} {a : Answer Unit} :
      (g.redirectToSignedUrl key input).Runs t a ↔
        (∃ f, t = [called (.signedUrl key input.conditions span) (.error f)] ∧ a = .error f) ∨
        ∃ url, t = [called (.signedUrl key input.conditions span) (.ok url),
          answered (.redirect url)] ∧ a = .ok () := by
    rw [redirectToSignedUrl_runs_iff, hspan]
  constructor
  · intro t a h _ _
    rcases hruns.1 h with ⟨f, rfl, rfl⟩ | ⟨url, rfl, rfl⟩
    · exact ⟨_, .stopped [] (.failed _ f), rfl, rfl⟩
    · exact ⟨_, .next (.signed _ _ _ url) (.done _), rfl, rfl⟩
  · intro calls result h _
    simp only [follows_cons_iff, follows_nil_iff, shows_signedUrl_iff] at h
    obtain ⟨reply, _, rfl, h⟩ := h
    rcases reply with f | url
    · obtain ⟨rfl, rfl⟩ := h
      exact ⟨_, _, hruns.2 (.inl ⟨f, rfl, rfl⟩), by simp [recordsFiles_iff], rfl, rfl, rfl⟩
    · obtain ⟨rfl, rfl⟩ : calls = [⟨.signedUrl key input.conditions span, .ok url⟩] ∧
          result = .ok (.outcome (.redirect url)) := by simpa [Except.map, and_comm] using h
      exact ⟨_, _, hruns.2 (.inr ⟨url, rfl, rfl⟩), by simp [recordsFiles_iff], rfl, rfl, rfl⟩

/-- What is said about an object that was found.  The answer to a question is known by then. -/
theorem answerFound_decides (hspan : g.getConfig.expiration = .ok span) (found : HeadOutput)
    (info : ResultInfo) :
    Decides (g.answerFound mode key key input found info)
      (Follows g ctx (some (.file none found.metadata.contentType))
        (g.foundPlan mode key input span)) := by
  unfold answerFound foundPlan
  cases mode with
  | get =>
    cases hsigned : g.getConfig.redirectToSignedUrl with
    | true => simpa only [if_true] using redirectToSignedUrl_decides hspan
    | false => simpa only [Bool.false_eq_true, if_false] using streamFile_decides
  | head =>
    constructor
    · intro t a h hfiles _
      obtain rfl := answerHead_runs_iff.1 h
      have hsent : sent ⟨none, found.metadata⟩ a ∈ [told (g.readEvent .head input info),
          sent ⟨none, found.metadata⟩ a] := by simp
      obtain rfl : a = .ok () := hfiles.reply_of_body_none hsent
      exact ⟨_, .done _, rfl, rfl⟩
    · intro calls result h _
      obtain ⟨r, ⟨⟩, rfl, rfl⟩ := follows_nil_iff.1 h
      exact ⟨_, .ok (), answerHead_runs_iff.2 rfl, by simp [recordsFiles_iff, takenUp], rfl, rfl, rfl⟩

/-- An object is asked for before anything else: a failure ends the plan, and what was found is what
is shown next. -/
theorem Decides.after_head {next : HeadOutput → ResultInfo → GatewayFlow (Answer Unit)}
    {plan : List StoreCall}
    (h : ∀ found info, found.key = key → Decides (next found info)
      (Follows g ctx (some (.file none found.metadata.contentType)) plan)) :
    Decides (do
      match ← head key with
      | .error f => return .error f
      | .ok (found, info) => next found info)
      (Follows g ctx shown (.head key :: plan)) := by
  constructor
  · intro t a hruns hfiles hfinds
    obtain ⟨reply, t₁, t₂, hhead, hrest, rfl⟩ := Flow.runs_monad_bind_iff.1 hruns
    obtain rfl := head_runs_iff.1 hhead
    rcases reply with f | ⟨found, info⟩
    · obtain ⟨rfl, rfl⟩ := Flow.runs_pure_iff.1 hrest
      exact ⟨_, .stopped plan (.failed (.head key) f), rfl, rfl⟩
    · have hkey : found.key = key := hfinds key found info List.mem_cons_self
      obtain ⟨result, hfollows, hgives⟩ :=
        (h found info hkey).decided t₂ a hrest hfiles.of_cons hfinds.of_cons
      exact ⟨result, .next (.described key found info) hfollows, hgives.cons_called⟩
  · intro calls result hfollows hfinds
    simp only [follows_cons_iff, shows_head_iff] at hfollows
    obtain ⟨reply, _, rfl, hfollows⟩ := hfollows
    rcases reply with f | ⟨found, info⟩
    · obtain ⟨rfl, rfl⟩ := hfollows
      exact ⟨_, _, Flow.runs_monad_bind_iff.2 ⟨.error f, _, [], head_runs_iff.2 rfl,
        Flow.runs_pure_iff.2 ⟨rfl, rfl⟩, rfl⟩, by simp [recordsFiles_iff], rfl, rfl, rfl⟩
    · obtain ⟨calls', hfollows, rfl⟩ := hfollows
      have hkey : found.key = key := hfinds key found info List.mem_cons_self
      obtain ⟨t, a, hruns, hfiles, rfl, hgives⟩ :=
        (h found info hkey).occurs calls' result hfollows hfinds.of_cons
      exact ⟨_, a, Flow.runs_monad_bind_iff.2 ⟨.ok (found, info), _, t, head_runs_iff.2 rfl, hruns,
        rfl⟩, hfiles.cons_called, rfl, hgives.cons_called⟩

/-- The object of a path is answered by the plan for files. -/
theorem readFile_decides (hspan : g.getConfig.expiration = .ok span) :
    Decides (g.readFile mode key input)
      (Follows g ctx shown (g.filePlan mode key input span)) := by
  unfold readFile filePlan
  split
  · exact Decides.after_head fun found info _ => answerFound_decides hspan found info
  · exact streamFile_decides

end Parts

/-! ## Whole reads -/

section Whole

variable {g : Gateway} {ctx : RequestContext} {mode : ReadMode} {key : String} {input : GetInput}
  {span : Timespan} {shown : Option Recorded}

/-- The runs of a flow that answers are the rows of a table. -/
structure Answers (flow : GatewayFlow Unit)
    (table : Conversation StoreInterface → Recorded → Prop) : Prop where
  decided : ∀ t, flow.Runs t () → t.RecordsFiles → FindsAsked t.storeCalls →
    ∃ r, table t.storeCalls r ∧ t.answers = [r]
  occurs : ∀ calls r, table calls r → FindsAsked calls →
    ∃ t, flow.Runs t () ∧ t.RecordsFiles ∧ t.storeCalls = calls ∧ t.answers = [r]

/-- The failure of a part is answered behind it. -/
theorem Gives.answers {t : Conversation GatewayInterface} {a : Answer Unit}
    {result : Answer Recorded} (h : Gives t a result) (outcome : Failure → Outcome) :
    (t ++ failureAnswer outcome a).answers = [settle outcome result] := by
  rw [Conversation.answers_append]
  cases result with
  | ok r =>
    obtain ⟨rfl, hanswers⟩ := h
    rw [hanswers]
    rfl
  | error f =>
    obtain ⟨rfl, hanswers⟩ := h
    rw [hanswers]
    rfl

theorem storeCalls_append_failureAnswer (t : Conversation GatewayInterface)
    (outcome : Failure → Outcome) (a : Answer Unit) :
    (t ++ failureAnswer outcome a).storeCalls = t.storeCalls := by
  rw [Conversation.storeCalls_append]
  rcases a with f | ⟨⟨⟩⟩
  · exact List.append_nil _
  · exact List.append_nil _

theorem recordsFiles_append_failureAnswer (t : Conversation GatewayInterface)
    (outcome : Failure → Outcome) (a : Answer Unit) :
    (t ++ failureAnswer outcome a).RecordsFiles ↔ t.RecordsFiles := by
  rcases a with f | ⟨⟨⟩⟩
  · simp [recordsFiles_iff]
  · simp

/-- A part of a read with the answer to its failure behind it. -/
theorem Decides.answers {flow : GatewayFlow (Answer Unit)}
    {table : Conversation StoreInterface → Answer Recorded → Prop} (h : Decides flow table)
    (outcome : Failure → Outcome) :
    Answers (do
      match ← flow with
      | .ok () => return
      | .error f => respond (outcome f))
      fun calls r => ∃ result, table calls result ∧ r = settle outcome result := by
  constructor
  · intro t hruns hfiles hfinds
    obtain ⟨a, t₁, t₂, hflow, hlast, rfl⟩ := Flow.runs_monad_bind_iff.1 hruns
    obtain rfl : t₂ = failureAnswer outcome a := by
      rcases a with f | ⟨⟨⟩⟩
      · simpa using hlast
      · simpa using hlast
    rw [storeCalls_append_failureAnswer] at hfinds ⊢
    rw [recordsFiles_append_failureAnswer] at hfiles
    obtain ⟨result, htable, hgives⟩ := h.decided t₁ a hflow hfiles hfinds
    exact ⟨_, ⟨result, htable, rfl⟩, hgives.answers outcome⟩
  · rintro calls r ⟨result, htable, rfl⟩ hfinds
    obtain ⟨t, a, hflow, hfiles, rfl, hgives⟩ := h.occurs calls result htable hfinds
    exact ⟨_, Flow.runs_monad_bind_iff.2 ⟨a, t, _, hflow, failureAnswer_runs outcome a, rfl⟩,
      (recordsFiles_append_failureAnswer t outcome a).2 hfiles,
      storeCalls_append_failureAnswer t outcome a, hgives.answers outcome⟩

theorem listFolder_answers :
    Answers (g.listFolder ctx mode key input) (ListingDecision g ctx key) := by
  constructor
  · intro t h _ _
    cases ListingRun.of_runs h with
    | disabled hdisabled => exact ⟨_, .disabled hdisabled, rfl⟩
    | unlisted f henabled =>
      exact ⟨_, .listed henabled (.stopped [] (.failed (.list key) f)), rfl⟩
    | listed ds info henabled =>
      exact ⟨_, .listed henabled (.next (.listed key ds info) (.done _)), rfl⟩
  · intro calls r h _
    cases h with
    | disabled hdisabled =>
      exact ⟨_, (ListingRun.disabled hdisabled).runs, by simp [recordsFiles_iff], rfl, rfl⟩
    | listed henabled h =>
      simp only [follows_cons_iff, follows_nil_iff, shows_list_iff] at h
      obtain ⟨reply, _, rfl, h⟩ := h
      rcases reply with f | ⟨ds, info⟩
      · obtain ⟨rfl, rfl⟩ := h
        exact ⟨_, (ListingRun.unlisted f henabled).runs, by simp [recordsFiles_iff], rfl, rfl⟩
      · obtain ⟨_, ⟨r, hr, rfl, rfl⟩, rfl⟩ := h
        obtain rfl := Option.some.inj hr
        exact ⟨_, (ListingRun.listed ds info henabled).runs, by simp [recordsFiles_iff], rfl, rfl⟩

theorem readOutcome_eq_refusal (f : Failure) : readOutcome f = refusal false f := by
  cases f <;> rfl

theorem fileFailure_eq_refusal {path : String} (hpath : isFolderPath path = false) (f : Failure) :
    g.fileFailure path f = refusal g.getConfig.redirectWithTrailingSlash f := by
  obtain ⟨-, hslash⟩ : path.isEmpty = false ∧ path.toList.getLast? ≠ some '/' := by
    simpa [isFolderPath] using hpath
  unfold fileFailure
  cases f with
  | notFound => cases g.getConfig.redirectWithTrailingSlash <;> simp [hslash, readOutcome, refusal]
  | _ => rfl

theorem lasts_iff : g.Lasts span ↔ g.getConfig.expiration = .ok span := by
  unfold Lasts GetConfig.expiration
  cases g.getConfig.signedUrlExpiration with
  | some text => rfl
  | none =>
    constructor
    · rintro rfl
      rfl
    · intro h
      exact (Except.ok.inj h).symm

/-- An index document that was found is followed by what its plan goes on with. -/
theorem follows_found_iff {found : HeadOutput} {info : ResultInfo} {plan : List StoreCall}
    {calls : Conversation StoreInterface} {result : Answer Recorded} :
    Follows g ctx shown (.head key :: plan) (⟨.head key, .ok (found, info)⟩ :: calls) result ↔
      Follows g ctx (some (.file none found.metadata.contentType)) plan calls result := by
  constructor
  · intro h
    cases h with
    | stopped _ h => simp [Except.map] at h
    | next h hrest =>
      obtain rfl : _ = Recorded.file none found.metadata.contentType := by
        simpa [Except.map] using h
      exact hrest
  · exact fun h => .next (.described key found info) h

/-- A folder is answered by its index document or by its listing. -/
theorem readFolder_answers (hspan : g.getConfig.expiration = .ok span) :
    Answers (g.readFolder ctx mode key input) (FolderDecision g ctx mode key input) := by
  have houtcome : readOutcome = refusal false := funext readOutcome_eq_refusal
  constructor
  · intro t hruns hfiles hfinds
    cases FolderRun.of_runs hruns with
    | listed hindex h =>
      obtain ⟨r, hrow, hanswers⟩ := listFolder_answers.decided t h.runs hfiles hfinds
      exact ⟨r, .listed hindex hrow, hanswers⟩
    | unindexed hindex h =>
      obtain ⟨r, hrow, hanswers⟩ :=
        listFolder_answers.decided _ h.runs hfiles.of_cons hfinds.of_cons
      exact ⟨r, .unindexed hindex hrow, hanswers⟩
    | unknown hindex hf => exact ⟨_, .unknown hindex hf, rfl⟩
    | @indexed index found info t a hindex h =>
      -- The content of the index document is that of the key it was asked for at.
      have hkey : found.key = joinKey key index := hfinds _ found info List.mem_cons_self
      rw [hkey] at h
      have hcalls : FindsAsked (t ++ failureAnswer readOutcome a).storeCalls := hfinds.of_cons
      rw [storeCalls_append_failureAnswer] at hcalls
      obtain ⟨result, hrow, hgives⟩ := (answerFound_decides hspan found info).decided t a h.runs
        hfiles.of_cons.of_append_left hcalls
      refine ⟨settle (refusal false) result, ?_, ?_⟩
      · rw [Conversation.storeCalls_called, storeCalls_append_failureAnswer]
        exact .indexed hindex (lasts_iff.2 hspan) (follows_found_iff.2 hrow)
      · rw [← houtcome]
        exact hgives.answers readOutcome
  · intro calls r hrow hfinds
    cases hrow with
    | listed hindex h =>
      obtain ⟨t, hruns, hrest⟩ := listFolder_answers.occurs calls r h hfinds
      exact ⟨t, (FolderRun.listed hindex (ListingRun.of_runs hruns)).runs, hrest⟩
    | @unindexed index calls r hindex h =>
      obtain ⟨t, hruns, hfiles, rfl, hanswers⟩ :=
        listFolder_answers.occurs calls r h hfinds.of_cons
      exact ⟨_, (FolderRun.unindexed hindex (ListingRun.of_runs hruns)).runs, hfiles.cons_called,
        rfl, hanswers⟩
    | unknown hindex hf =>
      exact ⟨_, (FolderRun.unknown hindex hf).runs, by simp [recordsFiles_iff], rfl, rfl⟩
    | @indexed index found info span' calls result hindex hspan' h =>
      obtain rfl : span' = span := Except.ok.inj ((lasts_iff.1 hspan').symm.trans hspan)
      have hkey : found.key = joinKey key index := hfinds _ found info List.mem_cons_self
      obtain ⟨t, a, hruns, hfiles, rfl, hgives⟩ :=
        (answerFound_decides hspan found info).occurs calls result (follows_found_iff.1 h)
          hfinds.of_cons
      have hfound : FoundRun g (joinKey key index) found.key input found info mode t a := by
        rw [hkey]
        exact FoundRun.of_runs hruns
      have hfiles := (recordsFiles_append_failureAnswer t readOutcome a).2 hfiles
      refine ⟨_, (FolderRun.indexed hindex hfound).runs, hfiles.cons_called, ?_, ?_⟩
      · rw [Conversation.storeCalls_called, storeCalls_append_failureAnswer]
      · rw [← houtcome]
        exact hgives.answers readOutcome

/-- A read below a target whose expiration can be read is answered as the table says. -/
theorem read_answers (hspan : g.getConfig.expiration = .ok span) :
    Answers (g.read ctx mode input) (Decision g ctx mode input) := by
  have houtcome (hpath : isFolderPath input.requestPath = false) :
      g.fileFailure input.requestPath = refusal g.getConfig.redirectWithTrailingSlash :=
    funext (fileFailure_eq_refusal hpath)
  constructor
  · intro t hruns hfiles hfinds
    cases ReadRun.of_runs hruns with
    | unrewritten hkey => exact ⟨_, .unrewritten hkey, rfl⟩
    | folder hkey hpath h =>
      obtain ⟨r, hrow, hanswers⟩ := (readFolder_answers hspan).decided t h.runs hfiles hfinds
      exact ⟨r, .folder hkey hpath hrow, hanswers⟩
    | @file key t a hkey hpath h =>
      rw [storeCalls_append_failureAnswer] at hfinds ⊢
      obtain ⟨result, hrow, hgives⟩ := (readFile_decides hspan).decided t a h.runs
        hfiles.of_append_left hfinds
      refine ⟨_, .file hkey hpath (lasts_iff.2 hspan) hrow, ?_⟩
      rw [← houtcome hpath]
      exact hgives.answers _
  · intro calls r hrow hfinds
    cases hrow with
    | unrewritten hkey =>
      exact ⟨_, (ReadRun.unrewritten hkey).runs, by simp [recordsFiles_iff], rfl, rfl⟩
    | folder hkey hpath h =>
      obtain ⟨t, hruns, hrest⟩ := (readFolder_answers hspan).occurs calls r h hfinds
      exact ⟨t, (ReadRun.folder hkey hpath (FolderRun.of_runs hruns)).runs, hrest⟩
    | @file key span' calls result hkey hpath hspan' h =>
      obtain rfl : span' = span := Except.ok.inj ((lasts_iff.1 hspan').symm.trans hspan)
      obtain ⟨t, a, hruns, hfiles, rfl, hgives⟩ :=
        (readFile_decides hspan).occurs calls result h hfinds
      refine ⟨_, (ReadRun.file hkey hpath (FileRun.of_runs hruns)).runs,
        (recordsFiles_append_failureAnswer t _ a).2 hfiles,
        storeCalls_append_failureAnswer t _ a, ?_⟩
      rw [← houtcome hpath]
      exact hgives.answers _

end Whole

/-- The reads of a valid target that are answered by a recording are the rows of the table, whatever
the store replies, as long as it finds no other object than the one that it is asked for: every read
calls the store and is answered as a row says, and every row is a read. -/
theorem read_decides {g : Gateway} (hvalid : g.target.config.validate = .ok ())
    (ctx : RequestContext) (mode : ReadMode) (input : GetInput) :
    (∀ t, (g.read ctx mode input).Runs t () → t.RecordsFiles → FindsAsked t.storeCalls →
      ∃ r, t.answers = [r] ∧ Decision g ctx mode input t.storeCalls r) ∧
    ∀ calls r, Decision g ctx mode input calls r → FindsAsked calls →
      ∃ t, (g.read ctx mode input).Runs t () ∧ t.RecordsFiles ∧ t.storeCalls = calls ∧
        t.answers = [r] := by
  obtain ⟨span, hspan⟩ := (TargetConfig.validate_eq_ok_iff.1 hvalid).expiration_isOk
  have hread : Answers (g.read ctx mode input) (Decision g ctx mode input) := read_answers hspan
  constructor
  · intro t hruns hfiles hfinds
    obtain ⟨r, hrow, hanswers⟩ := hread.decided t hruns hfiles hfinds
    exact ⟨r, hanswers, hrow⟩
  · exact hread.occurs

/-- A folder whose index document cannot be signed, although it was found. -/
theorem read_decides_docs :
    let get : GetConfig := { GetConfig.standard with
      indexDocument := some "index.html", redirectWithTrailingSlash := true
      redirectToSignedUrl := true }
    let g := docs [] ⟨some ⟨true, get⟩, none, none⟩
    let calls : Conversation StoreInterface :=
      [⟨.head "a/index.html", .ok (⟨"a/index.html", .empty⟩, MemoryStore.info "a/index.html")⟩,
        ⟨.signedUrl "a/index.html" .none (.ofSeconds 900), .error .notFound⟩]
    g.target.config.validate = .ok () ∧ FindsAsked calls ∧
      Decision g default .get ⟨"/a/", .none⟩ calls (.outcome .notFound) ∧
      ∃ t, (g.read default .get ⟨"/a/", .none⟩).Runs t () ∧ t.RecordsFiles ∧
        t.storeCalls = calls ∧ t.answers = [.outcome .notFound] := by
  intro get g calls
  have hvalid : g.target.config.validate = .ok () := rfl
  have hfinds : FindsAsked calls := by
    intro key found info hmem
    obtain ⟨rfl, rfl, rfl⟩ : key = "a/index.html" ∧ found = ⟨"a/index.html", .empty⟩ ∧
        info = MemoryStore.info "a/index.html" := by simpa [calls] using hmem
    rfl
  have hspan : g.Lasts (.ofSeconds 900) := rfl
  have hfollows : Follows g default none
      (g.indexPlan .get (joinKey "a/" "index.html") ⟨"/a/", .none⟩ (.ofSeconds 900)) calls
      (.error .notFound) :=
    .next (.described "a/index.html" _ _) (.stopped [] (.failed (.signedUrl _ _ _) .notFound))
  have hfolder : FolderDecision g default .get "a/" ⟨"/a/", .none⟩ calls (.outcome .notFound) :=
    .indexed rfl hspan hfollows
  have hrow : Decision g default .get ⟨"/a/", .none⟩ calls (.outcome .notFound) :=
    .folder rfl rfl hfolder
  exact ⟨hvalid, hfinds, hrow, (read_decides hvalid _ _ _).2 _ _ hrow hfinds⟩

end ObjectGateway.Gateway
