import ObjectGateway.Proofs.Gateway.Reads
import ObjectGateway.Proofs.Gateway.Serving

/-!
# Questions about objects

A question about an object is answered as the object itself would be, less its content.  The two are
answered by different calls of the store, so that is said of a store whose replies to both agree:
`head_mirrors_get`.

The proof follows the two flows side by side.  `Mirrored` relates flows whose recorded conversations
mirror each other and which yield the same value; a call of the store may come on one side only.
-/

namespace ObjectGateway

def Recorded.withoutBody : Recorded → Recorded
  | .file _ contentType => .file none contentType
  | .outcome o => .outcome o

/-- The input of a question in place of that of a read: the same conditions, less the range. -/
def HookInput.asHead : HookInput → HookInput
  | .get conditions => .head { conditions with range := none }
  | input => input

/-- The event of a question in place of the event of a read. -/
def HookEvent.asHead (event : HookEvent) : HookEvent :=
  { event with action := .head, input := event.input.map HookInput.asHead }

/-- A question for the object of a key and a read of it meet the same failure, or the same object at
the same place, and its content can be read to its end. -/
inductive Agree (key : String) :
    Answer (HeadOutput × ResultInfo) → Answer (GetOutput × ResultInfo) → Prop
  | failed (f : Failure) : Agree key (.error f) (.error f)
  | found {stream : ObjectStream} {bs : Bytes} (metadata : ObjectMetadata) (info : ResultInfo)
      (hbody : stream.collect = .ok bs) :
      Agree key (.ok (⟨key, metadata⟩, info)) (.ok (⟨stream, metadata⟩, info))

/-- A store in memory agrees with itself as long as no call fails and nothing is replaced. -/
theorem MemoryStore.agree_ofObjects (objects : TextMap Bytes) (key : String)
    (conditions : GetConditions) :
    Agree key ((ofObjects objects).perform (.head key)).1
      ((ofObjects objects).perform (.get key conditions)).1 := by
  have hobjects : (ofObjects objects).objects = objects := rfl
  unfold perform
  simp only [hobjects]
  cases hfound : objects.get? key with
  | none => exact .failed .notFound
  | some content =>
    have hbody : ((ofObjects objects).shownBody key content).collect = .ok (content ++ []) := rfl
    exact .found _ _ hbody

/-- A conversation with a recording in front of a store that always gives the same replies. -/
structure Conversation.RecordedFrom (reply : (c : StoreCall) → c.Reply)
    (t : Conversation GatewayInterface) : Prop where
  calls : ∀ c a, Exchange.called c a ∈ t → a = reply c
  files : t.RecordsFiles

/-- A conversation is the other one with the content of files left out. -/
structure Mirrors (t u : Conversation GatewayInterface) : Prop where
  answers : u.answers = t.answers.map Recorded.withoutBody
  events : u.events = t.events.map HookEvent.asHead

/-- A recording in front of a store that always gives the same replies. -/
def Recording.serverBefore (reply : (c : StoreCall) → c.Reply) : Server GatewayInterface Recording
  | .store c, r => (reply c, r)
  | e, r => r.reply e

open GatewayFlow
open Exchange (called told sent answered)

section Sides

variable {α β : Type} {reply : (c : StoreCall) → c.Reply}
  {t u t' u' : Conversation GatewayInterface}

namespace Conversation

theorem RecordedFrom.append_iff :
    (t ++ u).RecordedFrom reply ↔ t.RecordedFrom reply ∧ u.RecordedFrom reply := by
  constructor
  · rintro ⟨hcalls, hfiles⟩
    refine ⟨⟨fun c a h => hcalls c a ?_, fun f a h => hfiles f a ?_⟩,
      ⟨fun c a h => hcalls c a ?_, fun f a h => hfiles f a ?_⟩⟩
    · exact List.mem_append_left u h
    · exact List.mem_append_left u h
    · exact List.mem_append_right t h
    · exact List.mem_append_right t h
  · rintro ⟨ht, hu⟩
    constructor
    · intro c a h
      rcases List.mem_append.1 h with h | h
      · exact ht.calls c a h
      · exact hu.calls c a h
    · intro f a h
      rcases List.mem_append.1 h with h | h
      · exact ht.files f a h
      · exact hu.files f a h

theorem RecordedFrom.of_serves {r r' : Recording}
    (h : Serves (Recording.serverBefore reply) r t r') : t.RecordedFrom reply := by
  constructor
  · induction t generalizing r with
    | nil =>
      intro c a hcalled
      cases hcalled
    | cons e t ih =>
      obtain ⟨next, hreply, hrest⟩ := h
      intro c a hcalled
      rcases List.mem_cons.1 hcalled with rfl | hcalled
      · exact (congrArg Prod.fst hreply).symm
      · exact ih hrest c a hcalled
  · exact RecordsFiles.of_serves (fun _ s => ⟨s, rfl⟩) h

end Conversation

/-! ## Flows side by side -/

theorem Mirrors.append (h : Mirrors t u) (h' : Mirrors t' u') : Mirrors (t ++ t') (u ++ u') := by
  constructor
  · rw [Conversation.answers_append, Conversation.answers_append, List.map_append, h.answers,
      h'.answers]
  · rw [Conversation.events_append, Conversation.events_append, List.map_append, h.events,
      h'.events]

/-- Two flows yield the same and mirror each other in front of one store. -/
def Mirrored (reply : (c : StoreCall) → c.Reply) (x y : GatewayFlow α) : Prop :=
  ∀ ⦃t u : Conversation GatewayInterface⦄ ⦃a b : α⦄, x.Runs t a → y.Runs u b →
    t.RecordedFrom reply → u.RecordedFrom reply → a = b ∧ Mirrors t u

theorem Mirrored.pure (a : α) : Mirrored reply (pure a : GatewayFlow α) (pure a) := by
  intro t u b c hx hy _ _
  obtain ⟨rfl, rfl⟩ := Flow.runs_pure_iff.1 hx
  obtain ⟨rfl, rfl⟩ := Flow.runs_pure_iff.1 hy
  exact ⟨rfl, rfl, rfl⟩

theorem Mirrored.respond (o : Outcome) : Mirrored reply (respond o) (respond o) := by
  intro t u a b hx hy _ _
  obtain rfl := respond_runs_iff.1 hx
  obtain rfl := respond_runs_iff.1 hy
  exact ⟨rfl, rfl, rfl⟩

theorem Mirrored.bind {x y : GatewayFlow α} {f h : α → GatewayFlow β} (hxy : Mirrored reply x y)
    (hnext : ∀ a, Mirrored reply (f a) (h a)) : Mirrored reply (x >>= f) (y >>= h) := by
  intro t u a b hx hy ht hu
  obtain ⟨c, t₁, t₂, hx₁, hx₂, rfl⟩ := Flow.runs_monad_bind_iff.1 hx
  obtain ⟨d, u₁, u₂, hy₁, hy₂, rfl⟩ := Flow.runs_monad_bind_iff.1 hy
  obtain ⟨ht₁, ht₂⟩ := Conversation.RecordedFrom.append_iff.1 ht
  obtain ⟨hu₁, hu₂⟩ := Conversation.RecordedFrom.append_iff.1 hu
  obtain ⟨rfl, hfirst⟩ := hxy hx₁ hy₁ ht₁ hu₁
  obtain ⟨rfl, hlast⟩ := hnext c hx₂ hy₂ ht₂ hu₂
  exact ⟨rfl, hfirst.append hlast⟩

/-- A flow that begins with a call of the store goes on with the reply of the store. -/
theorem runs_store_bind {c : StoreCall} {f : c.Reply → GatewayFlow α} {a : α}
    (h : (store c >>= f).Runs t a) (ht : t.RecordedFrom reply) :
    ∃ rest, t = called c (reply c) :: rest ∧ (f (reply c)).Runs rest a ∧
      Conversation.RecordedFrom reply rest := by
  obtain ⟨r, t₁, rest, hcall, hnext, rfl⟩ := Flow.runs_monad_bind_iff.1 h
  obtain rfl : t₁ = [called c r] := Flow.runs_ask_iff.1 hcall
  obtain ⟨hfirst, hrest⟩ := Conversation.RecordedFrom.append_iff.1 ht
  obtain rfl : r = reply c := hfirst.calls c r List.mem_cons_self
  exact ⟨rest, rfl, hnext, hrest⟩

theorem Mirrored.store_left {c : StoreCall} {f : c.Reply → GatewayFlow α} {y : GatewayFlow α}
    (h : Mirrored reply (f (reply c)) y) : Mirrored reply (store c >>= f) y := by
  intro t u a b hx hy ht hu
  obtain ⟨rest, rfl, hnext, hrest⟩ := runs_store_bind hx ht
  obtain ⟨hvalue, hmirrors⟩ := h hnext hy hrest hu
  exact ⟨hvalue, hmirrors.answers, hmirrors.events⟩

theorem Mirrored.store_right {c : StoreCall} {x : GatewayFlow α} {f : c.Reply → GatewayFlow α}
    (h : Mirrored reply x (f (reply c))) : Mirrored reply x (store c >>= f) := by
  intro t u a b hx hy ht hu
  obtain ⟨rest, rfl, hnext, hrest⟩ := runs_store_bind hy hu
  obtain ⟨hvalue, hmirrors⟩ := h hx hnext ht hrest
  exact ⟨hvalue, hmirrors.answers, hmirrors.events⟩

end Sides

/-! ## Reads and questions side by side -/

namespace Gateway

section Reading

variable {reply : (c : StoreCall) → c.Reply} {g : Gateway} {ctx : RequestContext}
  {input : GetInput} {key : String}

/-- What is said of an object is what is sent with it, told in the opposite order. -/
theorem streamFile_mirrored {stream : ObjectStream} {bs : Bytes} {metadata : ObjectMetadata}
    {info : ResultInfo} (hget : reply (.get key input.conditions) = .ok (⟨stream, metadata⟩, info))
    (hbody : stream.collect = .ok bs) :
    Mirrored reply (g.streamFile key input) (g.answerHead input ⟨key, metadata⟩ info) := by
  refine Mirrored.store_left ?_
  rw [hget]
  intro t u a b hx hy ht hu
  obtain rfl := answerHead_runs_iff.1 hy
  obtain ⟨sending, t₁, t₂, hsend, hnext, rfl⟩ := Flow.runs_monad_bind_iff.1 hx
  obtain rfl := sendFile_runs_iff.1 hsend
  -- A recording takes up either file: one has content that can be read, the other has none.
  have hsent : sent ⟨some stream, metadata⟩ sending ∈
      [sent ⟨some stream, metadata⟩ sending] ++ t₂ := by simp
  obtain rfl : sending = .ok () := ht.files.reply_of_collect hbody hsent
  have hquestion : sent ⟨none, metadata⟩ b ∈
      [told (g.readEvent .head input info), sent ⟨none, metadata⟩ b] := by simp
  obtain rfl : b = .ok () := hu.files.reply_of_body_none hquestion
  obtain ⟨rfl, rfl⟩ : t₂ = [told (g.readEvent .get input info)] ∧ a = .ok () := by
    simpa using hnext
  exact ⟨rfl, rfl, rfl⟩

theorem listFolder_mirrored :
    Mirrored reply (g.listFolder ctx .get key input) (g.listFolder ctx .head key input) := by
  unfold listFolder
  split
  · exact Mirrored.respond (.listing [])
  · refine Mirrored.store_left (Mirrored.store_right ?_)
    cases reply (.list key) with
    | error f => exact Mirrored.respond (.internalServerError f)
    | ok listed =>
      obtain ⟨ds, info⟩ := listed
      have hevents : Mirrored reply (dispatch (g.readEvent .get input info))
          (dispatch (g.readEvent .head input info)) := by
        intro t u a b hx hy _ _
        obtain rfl := dispatch_runs_iff.1 hx
        obtain rfl := dispatch_runs_iff.1 hy
        exact ⟨rfl, rfl, rfl⟩
      exact hevents.bind fun _ => Mirrored.respond _

variable (hsigned : g.getConfig.redirectToSignedUrl = false)
  (hagree : ∀ key, Agree key (reply (.head key)) (reply (.get key input.conditions)))

include hsigned in
theorem answerFound_mirrored {stream : ObjectStream} {bs : Bytes} {metadata : ObjectMetadata}
    {info : ResultInfo} (hget : reply (.get key input.conditions) = .ok (⟨stream, metadata⟩, info))
    (hbody : stream.collect = .ok bs) :
    Mirrored reply (g.answerFound .get key key input ⟨key, metadata⟩ info)
      (g.answerFound .head key key input ⟨key, metadata⟩ info) := by
  have hopened : g.answerFound .get key key input ⟨key, metadata⟩ info =
      g.streamFile key input := by
    simp [answerFound, hsigned]
  rw [hopened]
  exact streamFile_mirrored hget hbody

include hsigned hagree

theorem readFile_mirrored :
    Mirrored reply (g.readFile .get key input) (g.readFile .head key input) := by
  have hread : g.readFile .get key input = g.streamFile key input := by
    simp [readFile, hsigned]
  rw [hread]
  -- A question for the object is answered from what `head` replies, a read from what `get` replies;
  -- both replies are named here, so that the cases of their agreement bear on both flows.
  have hboth := hagree key
  generalize hhead : reply (.head key) = asked at hboth
  generalize hget : reply (.get key input.conditions) = opened at hboth
  refine Mirrored.store_right ?_
  rw [hhead]
  cases hboth with
  | failed f =>
    refine Mirrored.store_left ?_
    rw [hget]
    exact Mirrored.pure (Except.error f)
  | found metadata info hbody => exact streamFile_mirrored hget hbody

theorem readFolder_mirrored :
    Mirrored reply (g.readFolder ctx .get key input) (g.readFolder ctx .head key input) := by
  unfold readFolder
  split
  · exact listFolder_mirrored
  · next index _ =>
    have hboth := hagree (joinKey key index)
    generalize hhead : reply (.head (joinKey key index)) = asked at hboth
    generalize hget : reply (.get (joinKey key index) input.conditions) = opened at hboth
    -- Both ask for the index document first, and a read goes on with its key as `head` names it.
    refine Mirrored.store_left (Mirrored.store_right ?_)
    rw [hhead]
    cases hboth with
    | failed f =>
      cases f with
      | notFound => exact listFolder_mirrored
      | _ => exact Mirrored.respond _
    | found metadata info hbody =>
      refine (answerFound_mirrored hsigned hget hbody).bind fun a => ?_
      rcases a with f | ⟨⟨⟩⟩
      · exact Mirrored.respond (readOutcome f)
      · exact Mirrored.pure ()

theorem read_mirrored :
    Mirrored reply (g.read ctx .get input) (g.read ctx .head input) := by
  unfold read
  split
  · exact Mirrored.respond (failureOutcome _)
  · split
    · exact readFolder_mirrored hsigned hagree
    · refine (readFile_mirrored hsigned hagree).bind fun a => ?_
      rcases a with f | ⟨⟨⟩⟩
      · exact Mirrored.respond (g.fileFailure input.requestPath f)
      · exact Mirrored.pure ()

end Reading

/-! ## What a question asks for -/

section Asking

variable {g : Gateway} {ctx : RequestContext} {input : GetInput} {key contentKey : String}
  {t u : Conversation GatewayInterface} {a : Answer Unit}

/-- The store is called only for what is known about objects and for listings. -/
def OnlyAsks (t : Conversation GatewayInterface) : Prop :=
  ∀ c reply, called c reply ∈ t → (∃ key, c = .head key) ∨ ∃ key, c = .list key

theorem OnlyAsks.cons_head {reply : Answer (HeadOutput × ResultInfo)} (h : OnlyAsks t) :
    OnlyAsks (called (.head key) reply :: t) := by
  intro c r hcalled
  rcases List.mem_cons.1 hcalled with heq | hcalled
  · cases heq
    exact .inl ⟨key, rfl⟩
  · exact h c r hcalled

theorem OnlyAsks.failureAnswer (h : OnlyAsks t) (outcome : Failure → Outcome) (a : Answer Unit) :
    OnlyAsks (t ++ failureAnswer outcome a) := by
  intro c r hcalled
  rcases List.mem_append.1 hcalled with hcalled | hcalled
  · exact h c r hcalled
  · cases a <;> simp at hcalled

theorem FoundRun.onlyAsks {found : HeadOutput} {info : ResultInfo}
    (h : FoundRun g key contentKey input found info .head t a) : OnlyAsks t := by
  cases h with
  | described a =>
    intro c r hcalled
    simp at hcalled

theorem FileRun.onlyAsks (h : FileRun g key input .head t a) : OnlyAsks t := by
  have hnothing : OnlyAsks [] := fun _ _ hcalled => by cases hcalled
  cases h with
  | unfound _ f => exact hnothing.cons_head
  | found _ h => exact h.onlyAsks.cons_head

theorem ListingRun.onlyAsks (h : ListingRun g ctx .head key input t) : OnlyAsks t := by
  intro c r hcalled
  cases h with
  | disabled _ => simp at hcalled
  | unlisted f => exact .inr ⟨key, by simp_all⟩
  | listed ds info => exact .inr ⟨key, by simp_all⟩

theorem FolderRun.onlyAsks (h : FolderRun g ctx .head key input t) : OnlyAsks t := by
  cases h with
  | listed _ h => exact h.onlyAsks
  | unindexed _ h => exact h.onlyAsks.cons_head
  | unknown _ _ => exact OnlyAsks.cons_head fun _ _ hcalled => by simp at hcalled
  | indexed _ h => exact (h.onlyAsks.failureAnswer readOutcome _).cons_head

theorem read_head_onlyAsks (h : (g.read ctx .head input).Runs t ()) : OnlyAsks t := by
  cases ReadRun.of_runs h with
  | unrewritten _ => exact fun _ _ hcalled => by simp at hcalled
  | folder _ _ hfolder => exact hfolder.onlyAsks
  | file _ _ hfile => exact hfile.onlyAsks.failureAnswer (g.fileFailure input.requestPath) _

end Asking

/-- In front of a store whose replies to questions and reads agree, a question is answered as a
read is, but for the content of a file, and hooks are told as many events, which are the same but
for the action and the part that is asked for.  Whatever the store replies, a question calls it only
for what is known about an object or for a listing. -/
theorem head_mirrors_get {g : Gateway} {ctx : RequestContext} {input : GetInput}
    {reply : (c : StoreCall) → c.Reply} (hsigned : g.getConfig.redirectToSignedUrl = false)
    (hagree : ∀ key, Agree key (reply (.head key)) (reply (.get key input.conditions))) :
    (∀ t u, (g.read ctx .get input).Runs t () → (g.read ctx .head input).Runs u () →
      t.RecordedFrom reply → u.RecordedFrom reply →
        u.answers = t.answers.map Recorded.withoutBody ∧
          u.events = t.events.map HookEvent.asHead) ∧
    ∀ u, (g.read ctx .head input).Runs u () → ∀ c a, called c a ∈ u →
      (∃ key, c = .head key) ∨ ∃ key, c = .list key := by
  constructor
  · intro t u hget hhead ht hu
    obtain ⟨-, hmirrors⟩ := read_mirrored hsigned hagree hget hhead ht hu
    exact ⟨hmirrors.answers, hmirrors.events⟩
  · intro u hhead c a hcalled
    exact read_head_onlyAsks hhead c a hcalled

/-- An index document is found by a question and a read of a part of it, on one condition. -/
theorem head_mirrors_get_docs :
    let g := docs [] ⟨some ⟨true, { GetConfig.standard with indexDocument := some "index.html" }⟩,
      none, none⟩
    let s := MemoryStore.ofObjects [("a/index.html", [104, 105])]
    let reply := fun c => (s.perform c).1
    let unlike : GetConditions := { GetConditions.none with ifNoneMatch := some "\"v1\"" }
    let input : GetInput := ⟨"/a/", { unlike with range := some "bytes=0-" }⟩
    let talk := fun mode =>
      ((g.read default mode input).converse (Recording.serverBefore reply) ⟨s, [], []⟩).exchanges
    (∀ key, Agree key (reply (.head key)) (reply (.get key input.conditions))) ∧
      (talk .get).answers = [.file (some [104, 105]) "text/plain"] ∧
      (talk .head).answers = (talk .get).answers.map Recorded.withoutBody ∧
      (talk .head).events = (talk .get).events.map HookEvent.asHead ∧
      (talk .head).events =
        [⟨.head, "docs", "/a/", some (.head unlike), MemoryStore.info "a/index.html"⟩] ∧
      ∀ c a, called c a ∈ talk .head → (∃ key, c = .head key) ∨ ∃ key, c = .list key := by
  intro g s reply unlike input talk
  have hagree : ∀ key, Agree key (reply (.head key)) (reply (.get key input.conditions)) :=
    fun key => MemoryStore.agree_ofObjects _ key _
  have hrecorded : ∀ mode, (talk mode).RecordedFrom reply := fun mode =>
    Conversation.RecordedFrom.of_serves (Flow.converse_serves _ _ _)
  have hsigned : g.getConfig.redirectToSignedUrl = false := rfl
  obtain ⟨hboth, hasks⟩ := @head_mirrors_get g default input reply hsigned hagree
  obtain ⟨hanswers, hevents⟩ := hboth (talk .get) (talk .head) (Flow.converse_runs_unit _ _ _)
    (Flow.converse_runs_unit _ _ _) (hrecorded .get) (hrecorded .head)
  exact ⟨hagree, by decide +kernel, hanswers, hevents, by decide +kernel,
    hasks _ (Flow.converse_runs_unit _ _ _)⟩

end Gateway

end ObjectGateway
