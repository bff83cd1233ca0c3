import ObjectGateway.Proofs.Gateway.Addressing
import ObjectGateway.Proofs.Gateway.Override
import ObjectGateway.Proofs.Interleaving

/-!
# Uploads beside one another

Where objects must not be replaced, an upload asks for an object before it stores one.  The question
and the upload are two calls, and other uploads may come between them.  So an object can still be
replaced, `overlapping_uploads_override`, but only by an upload that had asked before the object was
there: `uploads_override_only_unseen` says for any number of uploads, in whatever order their calls
come, which of them store an object and what becomes of it.

An upload that is under way has begun one of the conversations that are listed by `WriteRun`.  What
the store replies in between follows from the calls before, since no upload takes an object away.
-/

namespace ObjectGateway

/-- Of a list that ends in something new, the beginnings that hold it are the whole list. -/
theorem eq_of_append_eq_concat {α : Type} {begun rest whole : List α} {x : α}
    (h : begun ++ rest = whole ++ [x]) (hx : x ∈ begun) (hnew : x ∉ whole) :
    begun = whole ++ [x] := by
  rcases List.append_eq_append_iff.1 h with ⟨others, rfl, -⟩ | ⟨others, rfl, hlast⟩
  · exact absurd (List.mem_append_left others hx) hnew
  · cases others with
    | nil =>
      rw [List.append_nil] at hx
      exact absurd hx hnew
    | cons y others =>
      obtain ⟨rfl, hnil⟩ := List.cons.inj hlast
      obtain ⟨rfl, rfl⟩ := List.append_eq_nil_iff.1 hnil.symm
      rfl

namespace Gateway

open MemoryStore (applyCalls RemovesNothing Untouched)
open SharedConversation (own whole)
open Exchange (called told sent answered)

/-- An upload that comes to a gateway. -/
structure Upload where
  gateway : Gateway
  context : RequestContext
  input : PutInput

/-- The key that an upload goes to. -/
def Upload.key (u : Upload) : Answer String :=
  u.gateway.objectKey u.context (uploadPath u.input)

/-- Uploads that come at the same time, of which nothing has been done. -/
def uploadsAt {σ : Type} (uploads : List Upload) (s : σ) : Race GatewayInterface Unit σ :=
  .start (uploads.map fun u => u.gateway.write u.context u.input) s

/-- A client stores an object. -/
abbrev stores (i : Nat) (r : PutRequest) (info : ResultInfo) : Nat × Exchange GatewayInterface :=
  (i, called (.put r) (.ok info))

/-- A client asks for an object. -/
abbrev asks (i : Nat) (key : String) (reply : Answer (HeadOutput × ResultInfo)) :
    Nat × Exchange GatewayInterface :=
  (i, called (.head key) reply)

/-- What becomes of the objects of a store in a conversation of uploads beside one another.  The
conversation may be under way; `flows` is what is left of the uploads. -/
structure OverridesUnseen (uploads : List Upload) (first last : MemoryStore)
    (trace : SharedConversation GatewayInterface) (flows : List (GatewayFlow Unit)) : Prop where
  /-- An upload stores its own content at its own key, once and after a question that found no
  object; and there was none at the start. -/
  stored : ∀ i r info, stores i r info ∈ trace →
    (∃ u, uploads[i]? = some u ∧ u.key = .ok r.key ∧ r.body = u.input.body) ∧
      (own i trace).storeCalls = [⟨.head r.key, .error .notFound⟩, ⟨.put r, .ok info⟩] ∧
      first.objects.get? r.key = none
  /-- When an object is stored, each upload that ever stores one at its key has asked before. -/
  asked : ∀ before after j r' info', trace = before ++ stores j r' info' :: after →
    ∀ i r info, stores i r info ∈ trace → r.key = r'.key →
      asks i r.key (.error .notFound) ∈ before
  /-- An upload that asks after an object was stored is told of it, changes nothing, and gives no
  other answer than that the object must not be replaced. -/
  refused : ∀ before after j r info, trace = before ++ stores j r info :: after →
    ∀ i reply, asks i r.key reply ∈ after →
      (∃ found, reply = .ok found) ∧ (own i trace).changes = [] ∧
        (own i trace).answers <+: [.outcome (.forbidden (.objectExists r.key))]
  /-- Who is told that an object was stored has stored it. -/
  told : ∀ i echo, (i, answered (.stored echo)) ∈ trace →
    ∃ r info, stores i r info ∈ trace ∧ r.key = echo.key
  /-- An upload that has asked while there was no object stores its own and says so, unless the
  store fails for the key. -/
  settled : ∀ i key, asks i key (.error .notFound) ∈ trace → flows[i]? = some (.done ()) →
    first.failures.get? key = none →
      ∃ r info echo, r.key = key ∧ echo.key = key ∧ stores i r info ∈ trace ∧
        (i, answered (.stored echo)) ∈ trace
  /-- An object stays what it is until the next one is stored at its key. -/
  kept : ∀ before after i r info, trace = before ++ stores i r info :: after →
    (∀ j r' info', stores j r' info' ∈ after → r'.key ≠ r.key) →
      last.objects.get? r.key = some r.body
  /-- Where no upload stores an object, all is as it was. -/
  untouched : ∀ key, (∀ i r info, stores i r info ∈ trace → r.key ≠ key) →
    last.objects.get? key = first.objects.get? key

/-! ## Uploads that are under way -/

section Begun

variable {g : Gateway} {ctx : RequestContext} {input : PutInput} {u : Upload}
  {t : Conversation GatewayInterface}

/-- What an upload stores is its own content at its own key. -/
theorem WriteRun.stored_own (h : WriteRun g ctx input t) {r : PutRequest}
    {reply : Answer ResultInfo} (hput : called (.put r) reply ∈ t) :
    g.objectKey ctx (uploadPath input) = .ok r.key ∧ r.body = input.body := by
  -- What stands before the upload is a question at most.
  have hcheck (key : String) : called (.put r) reply ∉ g.absenceCheck key := by
    unfold absenceCheck
    split
    · simp
    · simp
  cases h with
  | unrewritten _ => simp at hput
  | unrendered _ _ => simp at hput
  | occupied _ _ _ => simp at hput
  | unknown _ _ _ _ => simp at hput
  | @unstored key r' f hkey hrequest =>
    obtain ⟨rfl, -⟩ : r = r' ∧ reply = .error f := by simpa [hcheck key] using hput
    obtain ⟨hr, hbody⟩ := uploadRequest_key_body hrequest
    exact ⟨by rw [hkey, hr], hbody⟩
  | @stored key r' info hkey hrequest =>
    obtain ⟨rfl, -⟩ : r = r' ∧ reply = .ok info := by simpa [hcheck key] using hput
    obtain ⟨hr, hbody⟩ := uploadRequest_key_body hrequest
    exact ⟨by rw [hkey, hr], hbody⟩

/-- An upload that is told of as stored ends so, after a question and the upload itself. -/
theorem WriteRun.eq_of_stored (h : WriteRun g ctx input t) (hkeeps : g.keepsObjects = true)
    {echo : PutEcho} (hstored : .outcome (.stored echo) ∈ t.answers) :
    ∃ r info, r.key = echo.key ∧ t = [called (.head r.key) (.error .notFound),
      called (.put r) (.ok info), told (g.putEvent input info)] ++ [answered (.stored echo)] := by
  cases h with
  | unrewritten _ => exact absurd hstored stored_notMem_of_failure
  | unrendered _ _ => exact absurd hstored stored_notMem_of_failure
  | occupied _ _ _ => cases List.mem_singleton.1 hstored
  | unknown _ _ _ _ => exact absurd hstored stored_notMem_of_failure
  | unstored _ _ =>
    rw [absenceCheck_answers] at hstored
    exact absurd hstored stored_notMem_of_failure
  | @stored key r info hkey hrequest =>
    rw [absenceCheck_answers] at hstored
    have hecho : Recorded.outcome (.stored echo) = .outcome (.stored (putEcho input r)) :=
      List.mem_singleton.1 hstored
    obtain rfl : echo = putEcho input r := by simpa using hecho
    refine ⟨r, info, rfl, ?_⟩
    rw [absenceCheck_of_keepsObjects hkeeps, (uploadRequest_key_body hrequest).1]
    rfl

/-- An upload that has found no object stores its own and says so, unless the store fails. -/
theorem WriteRun.stored_or_failed (h : WriteRun g ctx input t) {key : String}
    (hhead : called (.head key) (.error .notFound) ∈ t) :
    ∃ r, r.key = key ∧ ((∃ f, called (.put r) (.error f) ∈ t) ∨
      ∃ info echo, echo.key = key ∧ called (.put r) (.ok info) ∈ t ∧
        answered (.stored echo) ∈ t) := by
  -- The only question is for the key of the upload.
  have hcheck {key' : String} (hhead : called (.head key) (.error .notFound) ∈
      g.absenceCheck key') : key = key' := by
    unfold absenceCheck at hhead
    split at hhead
    · simpa using hhead
    · cases hhead
  cases h with
  | unrewritten _ => simp at hhead
  | unrendered _ _ => simp at hhead
  | occupied _ _ _ => simp at hhead
  | unknown _ _ _ hf =>
    obtain ⟨-, rfl⟩ := by simpa using hhead
    exact absurd rfl hf
  | @unstored key' r f hkey hrequest =>
    obtain rfl : key = key' := hcheck (by simpa using hhead)
    exact ⟨r, (uploadRequest_key_body hrequest).1, .inl ⟨f, by simp⟩⟩
  | @stored key' r info hkey hrequest =>
    obtain rfl : key = key' := hcheck (by simpa using hhead)
    have hr : r.key = key := (uploadRequest_key_body hrequest).1
    exact ⟨r, hr, .inr ⟨info, putEcho input r, hr, by simp, by simp⟩⟩

/-- An upload has begun a conversation that it can have. -/
def Begun (u : Upload) (t : Conversation GatewayInterface) : Prop :=
  ∃ rest, WriteRun u.gateway u.context u.input (t ++ rest)

/-- No upload takes an object away. -/
theorem Begun.not_delete (h : Begun u t) (key : String) (reply : Answer ResultInfo) :
    called (.delete key) reply ∉ t := by
  obtain ⟨rest, hrun⟩ := h
  intro hmem
  have hchange : StoreCall.delete key ∈ (t ++ rest).changes :=
    List.mem_filterMap.2 ⟨_, List.mem_append_left rest hmem, rfl⟩
  rcases hrun.changes with hnone | ⟨r, hput⟩
  · rw [hnone] at hchange
    cases hchange
  · rw [hput] at hchange
    cases List.mem_singleton.1 hchange

/-- An upload that is storing an object has asked for one, and has found none. -/
theorem Begun.stored (h : Begun u t) (hkeeps : u.gateway.keepsObjects = true) {r : PutRequest}
    {reply : Answer ResultInfo} (hput : called (.put r) reply ∈ t) :
    u.key = .ok r.key ∧ r.body = u.input.body ∧
      t.storeCalls = [⟨.head r.key, .error .notFound⟩, ⟨.put r, reply⟩] := by
  obtain ⟨rest, hrun⟩ := h
  obtain ⟨hkey, hbody⟩ := hrun.stored_own (List.mem_append_left rest hput)
  refine ⟨hkey, hbody, ?_⟩
  have hcalls : t.storeCalls ++ rest.storeCalls =
      [⟨.head r.key, .error .notFound⟩] ++ [⟨.put r, reply⟩] := by
    rw [← Conversation.storeCalls_append]
    exact hrun.stored_after_absence hkeeps
      (Conversation.mem_storeCalls_iff.2 (List.mem_append_left rest hput))
  exact eq_of_append_eq_concat hcalls (Conversation.mem_storeCalls_iff.2 hput) (by simp)

/-- An upload that has found an object changes nothing, and can answer in one way only. -/
theorem Begun.refused (h : Begun u t) (hkeeps : u.gateway.keepsObjects = true) {key : String}
    {found : HeadOutput × ResultInfo} (hhead : called (.head key) (.ok found) ∈ t) :
    t.changes = [] ∧ t.answers <+: [.outcome (.forbidden (.objectExists key))] := by
  obtain ⟨rest, hrun⟩ := h
  obtain ⟨hanswers, hchanges, -⟩ := hrun.refused_of_found hkeeps
    (Conversation.mem_storeCalls_iff.2 (List.mem_append_left rest hhead))
  rw [Conversation.changes_append] at hchanges
  rw [Conversation.answers_append] at hanswers
  exact ⟨(List.append_eq_nil_iff.1 hchanges).1, ⟨_, hanswers⟩⟩

/-- An upload that is told of as stored has been stored. -/
theorem Begun.told (h : Begun u t) (hkeeps : u.gateway.keepsObjects = true) {echo : PutEcho}
    (hstored : answered (.stored echo) ∈ t) :
    ∃ r info, called (.put r) (.ok info) ∈ t ∧ r.key = echo.key := by
  obtain ⟨rest, hrun⟩ := h
  have hanswer : Recorded.outcome (.stored echo) ∈ (t ++ rest).answers :=
    List.mem_filterMap.2 ⟨_, List.mem_append_left rest hstored, rfl⟩
  obtain ⟨r, info, hkey, heq⟩ := hrun.eq_of_stored hkeeps hanswer
  have ht := eq_of_append_eq_concat heq hstored (by simp)
  exact ⟨r, info, by simp [ht], hkey⟩

end Begun

/-! ## The store between the calls -/

/-- Uploads that must not replace objects are under way on a store. -/
structure UnderWay (uploads : List Upload) (first last : MemoryStore)
    (trace : SharedConversation GatewayInterface) : Prop where
  keeps : ∀ u ∈ uploads, u.gateway.keepsObjects = true
  lateFailures : first.lateFailures = []
  begun : ∀ i e, (i, e) ∈ trace → ∃ u, uploads[i]? = some u ∧ Begun u (own i trace)
  serves : Serves MemoryStore.reply first (whole trace).storeCalls last

section Between

variable {uploads : List Upload} {first last : MemoryStore}
  {trace before after : SharedConversation GatewayInterface} {i j : Nat} {key : String}
  {r r' : PutRequest} {info info' : ResultInfo}

theorem mem_whole_storeCalls_iff {c : StoreCall} {reply : c.Reply} :
    ⟨c, reply⟩ ∈ (whole trace).storeCalls ↔ ∃ i, (i, called c reply) ∈ trace := by
  rw [Conversation.mem_storeCalls_iff, whole, List.mem_map]
  constructor
  · rintro ⟨⟨i, e⟩, hmem, rfl⟩
    exact ⟨i, hmem⟩
  · rintro ⟨i, hmem⟩
    exact ⟨_, hmem, rfl⟩

/-- An upload that has said something is under way, and must not replace objects. -/
theorem UnderWay.exists_upload (h : UnderWay uploads first last trace)
    {e : Exchange GatewayInterface} (hmem : (i, e) ∈ trace) :
    ∃ u, uploads[i]? = some u ∧ u.gateway.keepsObjects = true ∧ Begun u (own i trace) := by
  obtain ⟨u, hu, hbegun⟩ := h.begun i e hmem
  exact ⟨u, hu, h.keeps u (List.mem_of_getElem? hu), hbegun⟩

theorem UnderWay.removesNothing (h : UnderWay uploads first last trace) :
    RemovesNothing (whole trace).storeCalls := by
  rintro ⟨op, reply⟩ hmem key rfl
  obtain ⟨i, hmem⟩ := mem_whole_storeCalls_iff.1 hmem
  obtain ⟨u, -, -, hbegun⟩ := h.exists_upload hmem
  exact hbegun.not_delete key reply (SharedConversation.mem_own_iff.2 hmem)

theorem untouched_iff :
    Untouched key (whole trace).storeCalls ↔ ∀ i r info, stores i r info ∈ trace → r.key ≠ key := by
  constructor
  · intro h i r info hmem
    exact h r info (mem_whole_storeCalls_iff.2 ⟨i, hmem⟩)
  · intro h r info hmem
    obtain ⟨i, hmem⟩ := mem_whole_storeCalls_iff.1 hmem
    exact h i r info hmem

theorem whole_storeCalls_append (before after : SharedConversation GatewayInterface) :
    (whole (before ++ after)).storeCalls =
      (whole before).storeCalls ++ (whole after).storeCalls := by
  rw [SharedConversation.whole_append, Conversation.storeCalls_append]

/-- A reply comes from a store whose objects are those that the calls before have left. -/
theorem UnderWay.reply_eq (h : UnderWay uploads first last (before ++ after)) {c : StoreCall}
    {reply : c.Reply} {rest : SharedConversation GatewayInterface}
    (hafter : after = (i, called c reply) :: rest) :
    ∃ between : MemoryStore,
      between.objects = applyCalls (whole before).storeCalls first.objects ∧
      reply = match first.failures.get? c.key with
        | some f => c.fail f
        | none => ((MemoryStore.record c between).perform c).1 := by
  have hserves := h.serves
  subst hafter
  rw [whole_storeCalls_append] at hserves
  obtain ⟨between, hbefore, next, hreply, -⟩ := serves_append_iff.1 hserves
  obtain ⟨record, lastPut, lastSigned, hbetween⟩ :=
    MemoryStore.serves_state hbefore h.lateFailures
  have hlate : between.lateFailures = [] := by rw [hbetween, h.lateFailures]
  refine ⟨between, by rw [hbetween], ?_⟩
  rw [MemoryStore.reply_eq hlate, show between.failures = first.failures by rw [hbetween]] at hreply
  have hvalue : (_ : c.Reply) = reply := congrArg Prod.fst hreply
  rw [← hvalue]
  cases first.failures.get? c.key with
  | some f => rfl
  | none => rfl

/-- A store where an object was stored does not fail for its key. -/
theorem UnderWay.failures_of_stored (h : UnderWay uploads first last trace)
    (hmem : stores i r info ∈ trace) : first.failures.get? r.key = none := by
  obtain ⟨before, after, rfl⟩ := List.append_of_mem hmem
  obtain ⟨between, -, hreply⟩ := h.reply_eq rfl
  cases hfails : first.failures.get? r.key with
  | none => rfl
  | some f =>
    rw [show first.failures.get? (StoreCall.put r).key = some f from hfails] at hreply
    cases hreply

/-- A store that does not fail for a key finds an object there if there is one. -/
theorem UnderWay.reply_head (h : UnderWay uploads first last (before ++ after))
    {reply : Answer (HeadOutput × ResultInfo)} {rest : SharedConversation GatewayInterface}
    (hafter : after = asks i key reply :: rest) (hfails : first.failures.get? key = none) :
    (reply = .error .notFound ∧
        (applyCalls (whole before).storeCalls first.objects).get? key = none) ∨
      ((∃ found, reply = .ok found) ∧
        (applyCalls (whole before).storeCalls first.objects).get? key ≠ none) := by
  obtain ⟨between, hobjects, hreply⟩ := h.reply_eq hafter
  rw [show first.failures.get? (StoreCall.head key).key = none from hfails] at hreply
  rw [← hobjects, hreply]
  cases hget : between.objects.get? key with
  | none => exact .inl ⟨by simp [MemoryStore.record, MemoryStore.perform, hget], rfl⟩
  | some content =>
    exact .inr ⟨by simp [MemoryStore.record, MemoryStore.perform, hget], Option.some_ne_none _⟩

/-- Where an upload has found no object, there was none at the start and none was stored before. -/
theorem UnderWay.unseen (h : UnderWay uploads first last (before ++ after))
    {rest : SharedConversation GatewayInterface}
    (hafter : after = asks i key (.error .notFound) :: rest)
    (hfails : first.failures.get? key = none) :
    first.objects.get? key = none ∧ ∀ j r info, stores j r info ∈ before → r.key ≠ key := by
  have hremoves : RemovesNothing (whole before).storeCalls := by
    have hwhole := h.removesNothing
    rw [whole_storeCalls_append] at hwhole
    exact hwhole.of_append_left
  rcases h.reply_head hafter hfails with ⟨-, hnone⟩ | ⟨⟨found, hfound⟩, -⟩
  · obtain ⟨hfirst, huntouched⟩ := MemoryStore.untouched_of_get?_applyCalls hremoves hnone
    exact ⟨hfirst, untouched_iff.1 huntouched⟩
  · cases hfound

/-- An upload that stores an object has asked for it and found none. -/
theorem UnderWay.asked (h : UnderWay uploads first last trace) (hmem : stores i r info ∈ trace) :
    asks i r.key (.error .notFound) ∈ trace := by
  obtain ⟨u, -, hkeeps, hbegun⟩ := h.exists_upload hmem
  obtain ⟨-, -, hcalls⟩ := hbegun.stored hkeeps (SharedConversation.mem_own_iff.2 hmem)
  rw [← SharedConversation.mem_own_iff, ← Conversation.mem_storeCalls_iff, hcalls]
  exact List.mem_cons_self

/-- The same conversation, cut at the later one of two exchanges. -/
theorem UnderWay.cut_later (h : UnderWay uploads first last trace)
    {between rest : SharedConversation GatewayInterface} {e e' : Nat × Exchange GatewayInterface}
    (hsplit : trace = before ++ e :: (between ++ e' :: rest)) :
    UnderWay uploads first last ((before ++ e :: between) ++ e' :: rest) := by
  rw [List.append_assoc, List.cons_append, ← hsplit]
  exact h

/-- It has asked before any upload stores an object at its key. -/
theorem UnderWay.asked_before (h : UnderWay uploads first last trace)
    (hsplit : trace = before ++ stores j r' info' :: after) (hmem : stores i r info ∈ trace)
    (hkey : r.key = r'.key) : asks i r.key (.error .notFound) ∈ before := by
  have hasked := h.asked hmem
  rw [hsplit, List.mem_append] at hasked
  rcases hasked with hbefore | hafter
  · exact hbefore
  · -- Otherwise the question would have come when there was an object.
    rcases List.mem_cons.1 hafter with heq | hafter
    · cases heq
    · obtain ⟨between, rest, rfl⟩ := List.append_of_mem hafter
      obtain ⟨-, hnone⟩ := (h.cut_later hsplit).unseen rfl (h.failures_of_stored hmem)
      exact absurd hkey.symm (hnone j r' info' (by simp))

/-- An upload that asks after an object was stored finds one. -/
theorem UnderWay.found (h : UnderWay uploads first last trace)
    (hsplit : trace = before ++ stores j r info :: after)
    {reply : Answer (HeadOutput × ResultInfo)} (hasks : asks i r.key reply ∈ after) :
    ∃ found, reply = .ok found := by
  obtain ⟨between, rest, rfl⟩ := List.append_of_mem hasks
  have hfails : first.failures.get? r.key = none :=
    h.failures_of_stored (show stores j r info ∈ trace by simp [hsplit])
  have hunder := h.cut_later hsplit
  rcases hunder.reply_head rfl hfails with ⟨rfl, -⟩ | ⟨hfound, -⟩
  · -- Nothing takes away the object that was stored in between.
    obtain ⟨-, hnone⟩ := hunder.unseen rfl hfails
    exact absurd rfl (hnone j r info (by simp))
  · exact hfound

/-- The last object that is stored at a key is there at the end. -/
theorem UnderWay.kept (h : UnderWay uploads first last trace)
    (hsplit : trace = before ++ stores i r info :: after)
    (hlast : ∀ j r' info', stores j r' info' ∈ after → r'.key ≠ r.key) :
    last.objects.get? r.key = some r.body := by
  obtain ⟨record, lastPut, lastSigned, rfl⟩ := MemoryStore.serves_state h.serves h.lateFailures
  -- What comes before the object does not matter, and what comes after leaves it alone.
  have hremoves := h.removesNothing
  rw [hsplit, whole_storeCalls_append] at hremoves
  have hafter : RemovesNothing (whole after).storeCalls :=
    fun e he => hremoves e (List.mem_append_right _ (List.mem_cons_of_mem _ he))
  show (applyCalls (whole trace).storeCalls first.objects).get? r.key = some r.body
  rw [hsplit, whole_storeCalls_append, MemoryStore.applyCalls_append]
  show (applyCalls (whole after).storeCalls
    (StoreCall.update (.put r) (applyCalls (whole before).storeCalls first.objects))).get? r.key =
      some r.body
  rw [MemoryStore.get?_applyCalls_of_untouched hafter (untouched_iff.2 hlast)]
  show (TextMap.insert r.key r.body _).get? r.key = some r.body
  rw [TextMap.get?_insert, if_pos rfl]

/-- Where no upload stores an object, all is as it was. -/
theorem UnderWay.untouched (h : UnderWay uploads first last trace)
    (hnone : ∀ i r info, stores i r info ∈ trace → r.key ≠ key) :
    last.objects.get? key = first.objects.get? key := by
  obtain ⟨record, lastPut, lastSigned, rfl⟩ := MemoryStore.serves_state h.serves h.lateFailures
  exact MemoryStore.get?_applyCalls_of_untouched h.removesNothing (untouched_iff.2 hnone)

end Between

/-! ## Whole races -/

section Races

variable {σ : Type} {server : Server GatewayInterface σ} {store : σ → MemoryStore}

/-- Whatever the schedule is, uploads on a store in memory are under way on it. -/
theorem underWay_run (hserver : KeepsStore server store) {uploads : List Upload}
    (hkeeps : ∀ u ∈ uploads, u.gateway.keepsObjects = true) {s : σ}
    (hlate : (store s).lateFailures = []) (schedule : List Nat) :
    UnderWay uploads (store s) (store ((uploadsAt uploads s).run server schedule).state)
      ((uploadsAt uploads s).run server schedule).exchanges where
  keeps := hkeeps
  lateFailures := hlate
  begun i e hmem := by
    obtain ⟨x, rest, ⟨⟩, hx, hruns⟩ := Race.run_own hmem
    rw [List.getElem?_map, Option.map_eq_some_iff] at hx
    obtain ⟨u, hu, rfl⟩ := hx
    exact ⟨u, hu, rest, write_runs_iff.1 hruns⟩
  serves := hserver.serves (Race.run_serves schedule)

/-- An upload that has come to its end has had one of its conversations. -/
theorem writeRun_of_done {uploads : List Upload} {s : σ} {schedule : List Nat} {i : Nat}
    {u : Upload} (hu : uploads[i]? = some u)
    (hdone : ((uploadsAt uploads s).run server schedule).flows[i]? = some (.done ())) :
    WriteRun u.gateway u.context u.input
      (own i ((uploadsAt uploads s).run server schedule).exchanges) := by
  have hflow : (uploads.map fun u => u.gateway.write u.context u.input)[i]? =
      some (u.gateway.write u.context u.input) := by
    rw [List.getElem?_map, hu]
    rfl
  exact write_runs_iff.1 (Race.run_own_of_done hflow hdone)

/-- Uploads that must not replace objects never replace one that was there when they asked, in
whatever order the calls of any number of them come to the store. -/
theorem uploads_override_only_unseen (hserver : KeepsStore server store) {uploads : List Upload}
    (hkeeps : ∀ u ∈ uploads, u.gateway.keepsObjects = true) {s : σ}
    (hlate : (store s).lateFailures = []) (schedule : List Nat) :
    OverridesUnseen uploads (store s)
      (store ((uploadsAt uploads s).run server schedule).state)
      ((uploadsAt uploads s).run server schedule).exchanges
      ((uploadsAt uploads s).run server schedule).flows := by
  have h := underWay_run hserver hkeeps hlate schedule
  constructor
  case stored =>
    intro i r info hmem
    obtain ⟨u, hu, hkeep, hbegun⟩ := h.exists_upload hmem
    obtain ⟨hkey, hbody, hcalls⟩ := hbegun.stored hkeep (SharedConversation.mem_own_iff.2 hmem)
    obtain ⟨before, after, hsplit⟩ := List.append_of_mem (h.asked hmem)
    have hunder := h
    rw [hsplit] at hunder
    exact ⟨⟨u, hu, hkey, hbody⟩, hcalls, (hunder.unseen rfl (h.failures_of_stored hmem)).1⟩
  case asked =>
    intro before after j r' info' hsplit i r info hmem hkey
    exact h.asked_before hsplit hmem hkey
  case refused =>
    intro before after j r info hsplit i reply hasks
    obtain ⟨found, rfl⟩ := h.found hsplit hasks
    have hmem : asks i r.key (.ok found) ∈
        ((uploadsAt uploads s).run server schedule).exchanges := by simp [hsplit, hasks]
    obtain ⟨u, -, hkeep, hbegun⟩ := h.exists_upload hmem
    exact ⟨⟨found, rfl⟩, hbegun.refused hkeep (SharedConversation.mem_own_iff.2 hmem)⟩
  case told =>
    intro i echo hmem
    obtain ⟨u, -, hkeep, hbegun⟩ := h.exists_upload hmem
    obtain ⟨r, info, hput, hkey⟩ := hbegun.told hkeep (SharedConversation.mem_own_iff.2 hmem)
    exact ⟨r, info, SharedConversation.mem_own_iff.1 hput, hkey⟩
  case settled =>
    intro i key hmem hdone hfails
    obtain ⟨u, hu, -, -⟩ := h.exists_upload hmem
    obtain ⟨r, rfl, ⟨f, hput⟩ | ⟨info, echo, hecho, hput, hstored⟩⟩ :=
      (writeRun_of_done hu hdone).stored_or_failed (SharedConversation.mem_own_iff.2 hmem)
    · -- The store does not fail, so that what it replied was no failure.
      obtain ⟨before, after, hsplit⟩ :=
        List.append_of_mem (SharedConversation.mem_own_iff.1 hput)
      have hunder := h
      rw [hsplit] at hunder
      obtain ⟨between, -, hreply⟩ := hunder.reply_eq rfl
      rw [show (store s).failures.get? (StoreCall.put r).key = none from hfails] at hreply
      cases hreply
    · exact ⟨r, info, echo, rfl, hecho, SharedConversation.mem_own_iff.1 hput,
        SharedConversation.mem_own_iff.1 hstored⟩
  case kept =>
    intro before after i r info hsplit hlast
    exact h.kept hsplit hlast
  case untouched =>
    intro key hnone
    exact h.untouched hnone

/-- Two uploads of different contents to one path, where objects must not be replaced. -/
def rivals : List Upload :=
  let g := docs [] ⟨none, some ⟨true, some ⟨[], none, none, false, none, []⟩⟩, none⟩
  [⟨g, default, ⟨"/a", "b", "text/plain", 3, [111, 110, 101]⟩⟩,
    ⟨g, default, ⟨"/a", "b", "text/plain", 3, [116, 119, 111]⟩⟩]

/-- A recording of an empty store. -/
def emptyRecording : Recording := ⟨.ofObjects [], [], []⟩

theorem rivals_override_only_unseen :
    let race := (uploadsAt rivals emptyRecording).run Recording.server [0, 1, 0, 0, 0, 1, 1, 1]
    OverridesUnseen rivals (.ofObjects []) race.state.store race.exchanges race.flows := by
  have hkeeps : ∀ u ∈ rivals, u.gateway.keepsObjects = true :=
    List.forall_mem_cons.2 ⟨rfl, List.forall_mem_cons.2 ⟨rfl, List.forall_mem_nil _⟩⟩
  have hlate : emptyRecording.store.lateFailures = [] := rfl
  exact uploads_override_only_unseen Recording.server_keepsStore hkeeps hlate
    [0, 1, 0, 0, 0, 1, 1, 1]

/-- Two uploads that both ask before one of them stores are both stored and told of so, and the
content of the first one is lost. -/
theorem overlapping_uploads_override :
    let between := (uploadsAt rivals emptyRecording).run Recording.server [0, 1, 0, 0, 0]
    let race := between.run Recording.server [1, 1, 1]
    between.state.store.objects = [("a/b", [111, 110, 101])] ∧
      race.state.store.objects = [("a/b", [116, 119, 111])] ∧
      ∀ i ∈ [0, 1], (own i race.exchanges).changes.map StoreCall.key = ["a/b"] ∧
        (own i race.exchanges).answers =
          [.outcome (.stored ⟨"a/b", "text/plain", 3, [], "", "b"⟩)] := by
  decide +kernel

end Races

end Gateway

end ObjectGateway
