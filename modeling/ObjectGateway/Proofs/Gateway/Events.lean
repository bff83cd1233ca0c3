import ObjectGateway.Proofs.Gateway.Mutation

/-!
# What hooks are told of

Hooks are told of a request when it is completed: when a file is sent, an object is stored or
removed, or a listing of the store is shown.  `serve_announces` says that there is one event then,
which names the request and the place where the last call of the store has been carried out, and
that there is none after a failure, a redirect or a listing that the store was not asked for.

The handler that answers is a recording, which takes up every file but one whose content breaks off.
With a handler that refuses other files, hooks could be told of a question about an object that is
not answered, as a question is announced before its file is sent.
-/

namespace ObjectGateway

/-- Where a call of the store has been carried out. -/
@[simp] def Exchange.place? : Exchange StoreInterface → Option ResultInfo
  | ⟨.list _, reply⟩ => (Except.toOption reply).map (·.2)
  | ⟨.head _, reply⟩ => (Except.toOption reply).map (·.2)
  | ⟨.get _ _, reply⟩ => (Except.toOption reply).map (·.2)
  | ⟨.put _, reply⟩ => Except.toOption reply
  | ⟨.delete _, reply⟩ => Except.toOption reply
  | ⟨.signedUrl _ _ _, _⟩ => none

namespace Conversation

/-- Where the last call of the store that has succeeded has been carried out. -/
def lastPlace? (t : Conversation GatewayInterface) : Option ResultInfo :=
  (t.storeCalls.filterMap Exchange.place?).getLast?

variable {t u : Conversation GatewayInterface} {info : ResultInfo}

/-- Calls before the last one that has succeeded do not matter. -/
theorem lastPlace?_append (h : u.lastPlace? = some info) : (t ++ u).lastPlace? = some info := by
  unfold lastPlace? at h ⊢
  rw [storeCalls_append, List.filterMap_append, List.getLast?_append, h]
  rfl

end Conversation

namespace Gateway

open GatewayFlow
open Exchange (called told sent answered)

/-- The event of a request that has been completed at a place.  A question has the conditions of a
read but for the range. -/
def Request.event (g : Gateway) (info : ResultInfo) : Request → HookEvent
  | .read .get input => ⟨.get, g.name, input.requestPath, some (.get input.conditions), info⟩
  | .read .head input =>
    ⟨.head, g.name, input.requestPath, some (.head { input.conditions with range := none }), info⟩
  | .write input =>
    ⟨.put, g.name, input.requestPath,
      some (.put input.filename input.contentType input.contentSize), info⟩
  | .remove path => ⟨.delete, g.name, path, none, info⟩

/-- An answer completes a request.  A listing does so if it shows what the store has listed. -/
inductive Completes (g : Gateway) (ctx : RequestContext) (t : Conversation GatewayInterface) :
    Recorded → Prop
  | file (body : Option Bytes) (contentType : String) : Completes g ctx t (.file body contentType)
  | stored (echo : PutEcho) : Completes g ctx t (.outcome (.stored echo))
  | removed (key : String) : Completes g ctx t (.outcome (.removed key))
  | listing {key : String} {ds : List Descriptor} {info : ResultInfo}
      (h : ⟨.list key, .ok (ds, info)⟩ ∈ t.storeCalls) :
      Completes g ctx t (.outcome (.listing (g.entries ctx.mountPath ds)))

/-- There is one answer, and hooks are told of what it completes: by one event with the place of the
last call that has succeeded if it completes the request, and by none otherwise. -/
def Announces (g : Gateway) (ctx : RequestContext) (event : ResultInfo → HookEvent)
    (t : Conversation GatewayInterface) : Prop :=
  ∃ a, t.answers = [a] ∧
    ((Completes g ctx t a ∧ ∃ info, t.lastPlace? = some info ∧ t.events = [event info]) ∨
      (¬Completes g ctx t a ∧ t.events = []))

/-- Where a part of a read is over: hooks are told of what has been answered, and of nothing where a
failure is still to be answered. -/
def AnnouncesSoFar (g : Gateway) (ctx : RequestContext) (event : ResultInfo → HookEvent)
    (t : Conversation GatewayInterface) : Answer Unit → Prop
  | .ok () => Announces g ctx event t
  | .error _ => t.answers = [] ∧ t.events = []

section Announcements

variable {g : Gateway} {ctx : RequestContext} {event : ResultInfo → HookEvent}
  {t u : Conversation GatewayInterface} {key : String}

/-! ## Answers -/

theorem not_completes_of_not_delivers {o : Outcome} (h : o.delivers = false) :
    ¬Completes g ctx t (.outcome o) := by
  intro hcompletes
  cases hcompletes <;> cases h

/-- A failure or a redirect is answered, and hooks are told of nothing. -/
theorem announces_of_not_delivers {o : Outcome} (ho : o.delivers = false)
    (hanswers : t.answers = [.outcome o]) (hevents : t.events = []) : Announces g ctx event t :=
  ⟨.outcome o, hanswers, .inr ⟨not_completes_of_not_delivers ho, hevents⟩⟩

/-- A question about an object in front of a conversation matters to nothing that follows. -/
theorem Announces.cons_head {reply : Answer (HeadOutput × ResultInfo)}
    (h : Announces g ctx event t) : Announces g ctx event (called (.head key) reply :: t) := by
  obtain ⟨a, ha, hcase⟩ := h
  have hsame : Completes g ctx (called (.head key) reply :: t) a ↔ Completes g ctx t a := by
    constructor
    · intro hcompletes
      cases hcompletes with
      | file body contentType => exact .file body contentType
      | stored echo => exact .stored echo
      | removed key => exact .removed key
      | listing hlist => exact .listing (by simpa using hlist)
    · intro hcompletes
      cases hcompletes with
      | file body contentType => exact .file body contentType
      | stored echo => exact .stored echo
      | removed key => exact .removed key
      | listing hlist => exact .listing (List.mem_cons_of_mem _ hlist)
  refine ⟨a, ha, ?_⟩
  rcases hcase with ⟨hcompletes, info, hplace, hevents⟩ | ⟨hnot, hevents⟩
  · refine .inl ⟨hsame.2 hcompletes, info, ?_, hevents⟩
    exact Conversation.lastPlace?_append (t := [_]) hplace
  · exact .inr ⟨fun hcompletes => hnot (hsame.1 hcompletes), hevents⟩

theorem AnnouncesSoFar.cons_head {reply : Answer (HeadOutput × ResultInfo)} {a : Answer Unit}
    (h : AnnouncesSoFar g ctx event t a) :
    AnnouncesSoFar g ctx event (called (.head key) reply :: t) a := by
  rcases a with f | ⟨⟨⟩⟩
  · exact h
  · exact Announces.cons_head h

/-- A failure that is left over is answered, and hooks are told of nothing. -/
theorem AnnouncesSoFar.announces {a : Answer Unit} (h : AnnouncesSoFar g ctx event t a)
    {outcome : Failure → Outcome} (houtcome : ∀ f, (outcome f).delivers = false) :
    Announces g ctx event (t ++ failureAnswer outcome a) := by
  rcases a with f | ⟨⟨⟩⟩
  · obtain ⟨hanswers, hevents⟩ := h
    apply announces_of_not_delivers (houtcome f)
    · rw [Conversation.answers_append, hanswers]
      rfl
    · rw [Conversation.events_append, hevents]
      rfl
  · rw [failureAnswer, List.append_nil]
    exact h

/-! ## Reads -/

variable {mode : ReadMode} {input : GetInput} {a : Answer Unit}

theorem streamFile_announces (h : (g.streamFile key input).Runs t a) :
    AnnouncesSoFar g ctx (g.readEvent .get input) t a := by
  rcases streamFile_runs_iff.1 h with
    ⟨f, rfl, rfl⟩ | ⟨output, info, f, rfl, rfl⟩ | ⟨output, info, rfl, rfl⟩
  · exact ⟨rfl, rfl⟩
  · exact ⟨rfl, rfl⟩
  · exact ⟨_, rfl, .inl ⟨.file _ _, info, rfl, rfl⟩⟩

theorem redirectToSignedUrl_announces (h : (g.redirectToSignedUrl key input).Runs t a) :
    AnnouncesSoFar g ctx event t a := by
  rw [redirectToSignedUrl_runs_iff] at h
  split at h
  · obtain ⟨rfl, rfl⟩ := h
    exact ⟨rfl, rfl⟩
  · rcases h with ⟨f, rfl, rfl⟩ | ⟨url, rfl, rfl⟩
    · exact ⟨rfl, rfl⟩
    · exact announces_of_not_delivers (o := .redirect url) rfl rfl rfl

/-- What is said of an object that was found names the place where it was found, unless it is opened
and so found once more. -/
theorem FoundRun.announces {contentKey headKey : String} {found : HeadOutput} {info : ResultInfo}
    (h : FoundRun g key contentKey input found info mode t a) (hfiles : t.RecordsFiles) :
    AnnouncesSoFar g ctx (g.readEvent mode input) (called (.head headKey) (.ok (found, info)) :: t)
      a := by
  cases h with
  | described a =>
    have hsent : sent ⟨none, found.metadata⟩ a ∈ [told (g.readEvent .head input info),
        sent ⟨none, found.metadata⟩ a] := by simp
    obtain rfl : a = .ok () := hfiles.reply_of_body_none hsent
    exact ⟨_, rfl, .inl ⟨.file _ _, info, rfl, rfl⟩⟩
  | redirected _ h => exact (redirectToSignedUrl_announces h).cons_head
  | streamed _ h => exact (streamFile_announces h).cons_head

theorem FileRun.announces (h : FileRun g key input mode t a) (hfiles : t.RecordsFiles) :
    AnnouncesSoFar g ctx (g.readEvent mode input) t a := by
  cases h with
  | unfound _ f => exact ⟨rfl, rfl⟩
  | found _ h => exact h.announces hfiles.of_cons
  | opened _ h => exact streamFile_announces h

theorem ListingRun.announces (h : ListingRun g ctx mode key input t) :
    Announces g ctx (g.readEvent mode input) t := by
  cases h with
  | disabled _ =>
    -- The store has not been called, so that this listing completes nothing.
    refine ⟨_, rfl, .inr ⟨?_, rfl⟩⟩
    generalize hlisting : Recorded.outcome (.listing []) = r
    intro hcompletes
    cases hcompletes with
    | listing hlist => simp at hlist
    | _ => cases hlisting
  | unlisted f => exact announces_of_not_delivers (o := .internalServerError f) rfl rfl rfl
  | listed ds info =>
    have hcall : ⟨.list key, .ok (ds, info)⟩ ∈ Conversation.storeCalls
        [called (.list key) (.ok (ds, info)), told (g.readEvent mode input info),
          answered (.listing (g.entries ctx.mountPath ds))] := List.mem_cons_self
    exact ⟨_, rfl, .inl ⟨.listing hcall, info, rfl, rfl⟩⟩

theorem FolderRun.announces (h : FolderRun g ctx mode key input t) (hfiles : t.RecordsFiles) :
    Announces g ctx (g.readEvent mode input) t := by
  cases h with
  | listed _ h => exact h.announces
  | unindexed _ h => exact h.announces.cons_head
  | @unknown index f _ _ =>
    exact announces_of_not_delivers (o := .internalServerError f) rfl rfl rfl
  | @indexed index found info t a _ h =>
    -- The question about the index document gives the place, unless a read opens the object.
    have hfirst : t.RecordsFiles := Conversation.RecordsFiles.of_append_left hfiles.of_cons
    have hso : AnnouncesSoFar g ctx (g.readEvent mode input)
        (called (.head (joinKey key index)) (.ok (found, info)) :: t) a := h.announces hfirst
    exact hso.announces readOutcome_delivers

theorem read_announces (h : (g.read ctx mode input).Runs t ()) (hfiles : t.RecordsFiles) :
    Announces g ctx (g.readEvent mode input) t := by
  cases ReadRun.of_runs h with
  | @unrewritten f _ => exact announces_of_not_delivers (failureOutcome_delivers f) rfl rfl
  | folder _ _ hfolder => exact hfolder.announces hfiles
  | @file key t₁ a _ _ hfile =>
    have hso : AnnouncesSoFar g ctx (g.readEvent mode input) t₁ a :=
      hfile.announces hfiles.of_append_left
    exact hso.announces (fileFailure_delivers g input.requestPath)

/-! ## Writes and removals -/

theorem absenceCheck_events (g : Gateway) (key : String) (t : Conversation GatewayInterface) :
    (g.absenceCheck key ++ t).events = t.events := by
  unfold absenceCheck
  split
  · rfl
  · rfl

theorem WriteRun.announces {input : PutInput} (h : WriteRun g ctx input t) :
    Announces g ctx (g.putEvent input) t := by
  cases h with
  | unrewritten _ => exact announces_of_not_delivers (failureOutcome_delivers _) rfl rfl
  | unrendered _ _ => exact announces_of_not_delivers (failureOutcome_delivers _) rfl rfl
  | @occupied key r found _ _ _ =>
    exact announces_of_not_delivers (o := .forbidden (.objectExists key)) rfl rfl rfl
  | unknown _ _ _ _ => exact announces_of_not_delivers (failureOutcome_delivers _) rfl rfl
  | @unstored key r f _ _ =>
    apply announces_of_not_delivers (failureOutcome_delivers f)
    · rw [absenceCheck_answers]
      rfl
    · rw [absenceCheck_events]
      rfl
  | @stored key r info _ _ =>
    refine ⟨.outcome (.stored (putEcho input r)), ?_, .inl ⟨.stored _, info, ?_, ?_⟩⟩
    · rw [absenceCheck_answers]
      rfl
    · exact Conversation.lastPlace?_append rfl
    · rw [absenceCheck_events]
      rfl

theorem RemoveRun.announces {path : String} (h : RemoveRun g ctx path t) :
    Announces g ctx (fun info => ⟨.delete, g.name, path, none, info⟩) t := by
  cases h with
  | unrewritten _ => exact announces_of_not_delivers (failureOutcome_delivers _) rfl rfl
  | folder _ _ => exact announces_of_not_delivers (o := .badRequest .removalFolder) rfl rfl rfl
  | unremoved _ _ => exact announces_of_not_delivers (failureOutcome_delivers _) rfl rfl
  | @removed key info _ _ => exact ⟨_, rfl, .inl ⟨.removed key, info, rfl, rfl⟩⟩

end Announcements

/-! ## Targets of events -/

/-- Hooks are told of one target, and of no other. -/
def TellsOf (name : String) (t : Conversation GatewayInterface) : Prop :=
  ∀ event, told event ∈ t → event.target = name

section Targets

variable {g : Gateway} {ctx : RequestContext} {mode : ReadMode} {key contentKey name : String}
  {input : GetInput} {t u : Conversation GatewayInterface} {a : Answer Unit}

theorem TellsOf.append (ht : TellsOf name t) (hu : TellsOf name u) : TellsOf name (t ++ u) := by
  intro event h
  rcases List.mem_append.1 h with h | h
  · exact ht event h
  · exact hu event h

theorem tellsOf_called (c : StoreCall) (reply : c.Reply) : TellsOf name [called c reply] := by
  simp [TellsOf]

theorem tellsOf_answered (o : Outcome) : TellsOf name [answered o] := by
  simp [TellsOf]

theorem tellsOf_failureAnswer (outcome : Failure → Outcome) (a : Answer Unit) :
    TellsOf name (failureAnswer outcome a) := by
  rcases a with f | ⟨⟨⟩⟩
  · exact tellsOf_answered _
  · simp [TellsOf]

@[simp] theorem readEvent_target (g : Gateway) (mode : ReadMode) (input : GetInput)
    (info : ResultInfo) : (g.readEvent mode input info).target = g.name := by
  cases mode <;> rfl

theorem streamFile_tellsOf (h : (g.streamFile key input).Runs t a) : TellsOf g.name t := by
  rcases streamFile_runs_iff.1 h with
    ⟨f, rfl, rfl⟩ | ⟨output, info, f, rfl, rfl⟩ | ⟨output, info, rfl, rfl⟩ <;>
  simp [TellsOf]

theorem redirectToSignedUrl_tellsOf (h : (g.redirectToSignedUrl key input).Runs t a) :
    TellsOf name t := by
  rw [redirectToSignedUrl_runs_iff] at h
  split at h
  · obtain ⟨rfl, rfl⟩ := h
    simp [TellsOf]
  · rcases h with ⟨f, rfl, rfl⟩ | ⟨url, rfl, rfl⟩ <;> simp [TellsOf]

theorem FoundRun.tellsOf {found : HeadOutput} {info : ResultInfo}
    (h : FoundRun g key contentKey input found info mode t a) : TellsOf g.name t := by
  cases h with
  | described a => simp [TellsOf]
  | redirected _ h => exact redirectToSignedUrl_tellsOf h
  | streamed _ h => exact streamFile_tellsOf h

theorem FileRun.tellsOf (h : FileRun g key input mode t a) : TellsOf g.name t := by
  cases h with
  | unfound _ f => exact tellsOf_called _ _
  | found _ h => exact (tellsOf_called _ _).append h.tellsOf
  | opened _ h => exact streamFile_tellsOf h

theorem ListingRun.tellsOf (h : ListingRun g ctx mode key input t) : TellsOf g.name t := by
  cases h with
  | disabled _ => exact tellsOf_answered _
  | unlisted f => exact (tellsOf_called _ _).append (tellsOf_answered _)
  | listed ds info => simp [TellsOf]

theorem FolderRun.tellsOf (h : FolderRun g ctx mode key input t) : TellsOf g.name t := by
  cases h with
  | listed _ h => exact h.tellsOf
  | unindexed _ h => exact (tellsOf_called _ _).append h.tellsOf
  | unknown _ _ => exact (tellsOf_called _ _).append (tellsOf_answered _)
  | indexed _ h =>
    exact (tellsOf_called _ _).append (h.tellsOf.append (tellsOf_failureAnswer _ _))

theorem read_tellsOf (h : (g.read ctx mode input).Runs t ()) : TellsOf g.name t := by
  cases ReadRun.of_runs h with
  | unrewritten _ => exact tellsOf_answered _
  | folder _ _ hfolder => exact hfolder.tellsOf
  | file _ _ hfile => exact hfile.tellsOf.append (tellsOf_failureAnswer _ _)

theorem absenceCheck_tellsOf (g : Gateway) (key : String) :
    TellsOf name (g.absenceCheck key) := by
  unfold absenceCheck
  split <;> simp [TellsOf]

theorem write_tellsOf {upload : PutInput} (h : (g.write ctx upload).Runs t ()) :
    TellsOf g.name t := by
  cases WriteRun.of_runs h with
  | unrewritten _ => exact tellsOf_answered _
  | unrendered _ _ => exact tellsOf_answered _
  | occupied _ _ _ => exact (tellsOf_called _ _).append (tellsOf_answered _)
  | unknown _ _ _ _ => exact (tellsOf_called _ _).append (tellsOf_answered _)
  | unstored _ _ =>
    exact (absenceCheck_tellsOf g _).append ((tellsOf_called _ _).append (tellsOf_answered _))
  | stored _ _ => exact (absenceCheck_tellsOf g _).append (by simp [TellsOf, putEvent])

theorem remove_tellsOf {path : String} (h : (g.remove ctx path).Runs t ()) :
    TellsOf g.name t := by
  cases remove_runs_iff.1 h with
  | unrewritten _ => exact tellsOf_answered _
  | folder _ _ => exact tellsOf_answered _
  | unremoved _ _ => exact (tellsOf_called _ _).append (tellsOf_answered _)
  | removed _ _ => simp [TellsOf]

end Targets

/-! ## Requests -/

/-- A request of any kind that is answered by a recording, whatever the store replies: hooks are
told of it by one event if its answer completes it, and by none otherwise. -/
theorem serve_announces {g : Gateway} {ctx : RequestContext} {request : Request}
    {t : Conversation GatewayInterface} (h : (g.serve ctx request).Runs t ())
    (hfiles : t.RecordsFiles) :
    ∃ a, t.answers = [a] ∧
      ((Completes g ctx t a ∧
          ∃ info, t.lastPlace? = some info ∧ t.events = [request.event g info]) ∨
        (¬Completes g ctx t a ∧ t.events = [])) := by
  cases request with
  | read mode input =>
    cases mode with
    | get => exact read_announces h hfiles
    | head => exact read_announces h hfiles
  | write input => exact (write_runs_iff.1 h).announces
  | remove path => exact (remove_runs_iff.1 h).announces

/-- A conditional question about a folder without its index document: the store is asked twice, and
the event names the place of the listing and the condition. -/
theorem serve_announces_docs :
    let g := docs [] ⟨some ⟨true, { GetConfig.standard with indexDocument := some "index.html" }⟩,
      none, none⟩
    let unlike : GetConditions := { GetConditions.none with ifNoneMatch := some "\"v1\"" }
    let request : Request := .read .head ⟨"/a/", { unlike with range := some "bytes=0-" }⟩
    let t := ((g.serve default request).converse Recording.server
      ⟨MemoryStore.ofObjects [("a/b", [104, 105])], [], []⟩).exchanges
    t.RecordsFiles ∧ t.lastPlace? = some (MemoryStore.info "a/") ∧
      t.events = [⟨.head, "docs", "/a/", some (.head unlike), MemoryStore.info "a/"⟩] ∧
      ∃ a, t.answers = [a] ∧
        ((Completes g default t a ∧
            ∃ info, t.lastPlace? = some info ∧ t.events = [request.event g info]) ∨
          (¬Completes g default t a ∧ t.events = [])) := by
  intro g unlike request t
  have hfiles : t.RecordsFiles := Recording.serves_files (Flow.converse_serves _ _ _)
  have hruns : (g.serve default request).Runs t () := Flow.converse_runs_unit Recording.server _ _
  exact ⟨hfiles, by decide +kernel, by decide +kernel, serve_announces hruns hfiles⟩

end Gateway

end ObjectGateway
