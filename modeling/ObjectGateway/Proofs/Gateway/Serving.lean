import ObjectGateway.Proofs.Gateway.Exchange
import ObjectGateway.Proofs.Store.Memory

/-!
# Gateways on a store in memory

Surroundings that answer the calls of a gateway from a store in memory, whatever else they do.
Their conversations are seen from the store alone, `KeepsStore.serves`, and a recording is seen from
its answers, `Recording.serves_answers`, and from the files that it takes up,
`Recording.serves_files`.
-/

namespace ObjectGateway

/-- A server of gateways has a store in memory, which only the calls of the store change. -/
structure KeepsStore {σ : Type} (server : Server GatewayInterface σ) (store : σ → MemoryStore) :
    Prop where
  call : ∀ c s, ((server (.store c) s).1, store (server (.store c) s).2) =
    MemoryStore.reply c (store s)
  dispatch : ∀ event s, store (server (.dispatch event) s).2 = store s
  sendFile : ∀ file s, store (server (.sendFile file) s).2 = store s
  respond : ∀ outcome s, store (server (.respond outcome) s).2 = store s

/-- The calls of the store in a conversation are answered by the store. -/
theorem KeepsStore.serves {σ : Type} {server : Server GatewayInterface σ} {store : σ → MemoryStore}
    (hserver : KeepsStore server store) {s s' : σ} {t : Conversation GatewayInterface}
    (h : Serves server s t s') : Serves MemoryStore.reply (store s) t.storeCalls (store s') := by
  induction t generalizing s with
  | nil =>
    obtain rfl : s' = s := h
    rfl
  | cons e t ih =>
    obtain ⟨next, hreply, hrest⟩ := h
    have hserved := ih hrest
    obtain ⟨op, reply⟩ := e
    cases op with
    | store c =>
      have hcall := hserver.call c s
      rw [hreply] at hcall
      exact ⟨store next, hcall.symm, hserved⟩
    | dispatch event =>
      have hnext := hserver.dispatch event s
      rw [hreply] at hnext
      rw [← hnext]
      exact hserved
    | sendFile file =>
      have hnext := hserver.sendFile file s
      rw [hreply] at hnext
      rw [← hnext]
      exact hserved
    | respond outcome =>
      have hnext := hserver.respond outcome s
      rw [hreply] at hnext
      rw [← hnext]
      exact hserved

namespace MemoryStore

/-- Answer a gateway from a store, and let files be sent as they may. -/
def serve (send : FileAnswer → Answer Unit) : Server GatewayInterface MemoryStore
  | .store c, s => MemoryStore.reply c s
  | .dispatch _, s => ((), s)
  | .sendFile file, s => (send file, s)
  | .respond _, s => ((), s)

theorem serve_keepsStore (send : FileAnswer → Answer Unit) : KeepsStore (serve send) id where
  call _ _ := rfl
  dispatch _ _ := rfl
  sendFile _ _ := rfl
  respond _ _ := rfl

end MemoryStore

namespace Conversation

/-- Every file is taken up as a recording does. -/
def RecordsFiles (t : Conversation GatewayInterface) : Prop :=
  ∀ file reply, Exchange.sent file reply ∈ t → ∃ r : Recording, (r.sendFile file).1 = reply

variable {t u : Conversation GatewayInterface}

theorem RecordsFiles.of_append_left (h : (t ++ u).RecordsFiles) : t.RecordsFiles :=
  fun file reply hsent => h file reply (List.mem_append_left u hsent)

theorem RecordsFiles.of_cons {e : Exchange GatewayInterface} (h : RecordsFiles (e :: t)) :
    t.RecordsFiles :=
  fun file reply hsent => h file reply (List.mem_cons_of_mem e hsent)

/-- A call of the store in front of a conversation is no file. -/
theorem RecordsFiles.cons_called {c : StoreCall} {reply : c.Reply} (h : t.RecordsFiles) :
    RecordsFiles (Exchange.called c reply :: t) := by
  intro file answer hsent
  exact h file answer (by simpa using hsent)

/-- A file without content is always taken up. -/
theorem RecordsFiles.reply_of_body_none (h : t.RecordsFiles) {metadata : ObjectMetadata}
    {reply : Answer Unit} (hsent : Exchange.sent ⟨none, metadata⟩ reply ∈ t) : reply = .ok () := by
  obtain ⟨r, hr⟩ := h _ _ hsent
  exact hr.symm

/-- A server that sends files as a recording does takes up every file of a conversation so. -/
theorem RecordsFiles.of_serves {σ : Type} {server : Server GatewayInterface σ}
    (hserver : ∀ file s, ∃ r : Recording, (r.sendFile file).1 = (server (.sendFile file) s).1)
    {s s' : σ} (h : Serves server s t s') : t.RecordsFiles := by
  induction t generalizing s with
  | nil =>
    intro file reply hsent
    cases hsent
  | cons e t ih =>
    obtain ⟨next, hreply, hrest⟩ := h
    intro file reply hsent
    rcases List.mem_cons.1 hsent with rfl | hsent
    · obtain ⟨r, hr⟩ := hserver file s
      exact ⟨r, hr.trans (congrArg Prod.fst hreply)⟩
    · exact ih hrest file reply hsent

/-- A file whose content can be read to its end is taken up. -/
theorem RecordsFiles.reply_of_collect (h : t.RecordsFiles) {stream : ObjectStream}
    {metadata : ObjectMetadata} {bs : Bytes} (hbody : stream.collect = .ok bs)
    {reply : Answer Unit} (hsent : Exchange.sent ⟨some stream, metadata⟩ reply ∈ t) :
    reply = .ok () := by
  obtain ⟨r, hr⟩ := h _ _ hsent
  rw [← hr]
  simp [Recording.sendFile, hbody]

/-- Every object that was found is the one that was asked for. -/
def NamesKeys (t : Conversation GatewayInterface) : Prop :=
  ∀ key found info, Exchange.called (.head key) (.ok (found, info)) ∈ t → found.key = key

theorem NamesKeys.of_append_left (h : (t ++ u).NamesKeys) : t.NamesKeys :=
  fun key found info hcalled => h key found info (List.mem_append_left u hcalled)

theorem NamesKeys.of_append_right (h : (t ++ u).NamesKeys) : u.NamesKeys :=
  fun key found info hcalled => h key found info (List.mem_append_right t hcalled)

end Conversation

namespace MemoryStore

theorem perform_head_key {key : String} {s : MemoryStore} {found : HeadOutput} {info : ResultInfo}
    (h : (s.perform (.head key)).1 = .ok (found, info)) : found.key = key := by
  simp only [perform] at h
  split at h
  · cases h
    rfl
  · cases h

/-- A store in memory finds an object only at the key that it is asked for. -/
theorem reply_head_key {key : String} {s : MemoryStore} {found : HeadOutput} {info : ResultInfo}
    (h : (MemoryStore.reply (.head key) s).1 = .ok (found, info)) : found.key = key := by
  simp only [reply] at h
  split at h
  · cases h
  · split at h
    -- A failure after the call takes the place of what was found.
    · split at h
      · cases h
      · exact perform_head_key h
    · exact perform_head_key h

theorem namesKeys_of_serves {send : FileAnswer → Answer Unit} {s s' : MemoryStore}
    {t : Conversation GatewayInterface} (h : Serves (serve send) s t s') : t.NamesKeys := by
  induction t generalizing s with
  | nil =>
    intro key found info hcalled
    cases hcalled
  | cons e t ih =>
    obtain ⟨next, hreply, hrest⟩ := h
    intro key found info hcalled
    rcases List.mem_cons.1 hcalled with rfl | hcalled
    · exact reply_head_key (congrArg Prod.fst hreply)
    · exact ih hrest key found info hcalled

end MemoryStore

namespace Recording

theorem sendFile_store (file : FileAnswer) (r : Recording) :
    (r.sendFile file).2.store = r.store := by
  unfold sendFile
  split
  · rfl
  · split
    · rfl
    · rfl

/-- Whatever a gateway asks for is recorded. -/
abbrev server : Server GatewayInterface Recording := reply

theorem run_eq_converse {α : Type} (flow : GatewayFlow α) (r : Recording) :
    run flow r = ((flow.converse server r).value, (flow.converse server r).state) :=
  Flow.run_eq_converse server flow r

theorem server_keepsStore : KeepsStore server Recording.store where
  call _ _ := rfl
  dispatch _ _ := rfl
  sendFile file r := sendFile_store file r
  respond _ _ := rfl

theorem sendFile_answers (file : FileAnswer) (r : Recording) :
    (r.sendFile file).2.answers =
      r.answers ++ (Exchange.answer? (Exchange.sent file (r.sendFile file).1)).toList := by
  unfold sendFile
  split
  · rename_i hbody
    simp [hbody]
  · rename_i stream hbody
    split
    · rename_i bs hbs
      simp [hbody, hbs, Except.toOption]
    · simp

/-- A recording is continued by the answers of a conversation. -/
theorem serves_answers {r r' : Recording} {t : Conversation GatewayInterface}
    (h : Serves server r t r') : r'.answers = r.answers ++ t.answers := by
  induction t generalizing r with
  | nil =>
    obtain rfl : r' = r := h
    simp [Conversation.answers]
  | cons e t ih =>
    obtain ⟨next, hreply, hrest⟩ := h
    have hanswers : next.answers = r.answers ++ (Exchange.answer? e).toList := by
      obtain ⟨op, x⟩ := e
      cases op with
      | store c =>
        obtain rfl : _ = next := congrArg Prod.snd hreply
        simp [reply]
      | dispatch event =>
        obtain rfl : _ = next := congrArg Prod.snd hreply
        simp [reply]
      | sendFile file =>
        have hx : (r.sendFile file).1 = x := congrArg Prod.fst hreply
        have hnext : (r.sendFile file).2 = next := congrArg Prod.snd hreply
        subst hx hnext
        exact sendFile_answers file r
      | respond outcome =>
        obtain rfl : _ = next := congrArg Prod.snd hreply
        simp [reply]
    rw [ih hrest, hanswers, List.append_assoc]
    cases hanswer : Exchange.answer? e with
    | none =>
      rw [Conversation.answers, Conversation.answers, List.filterMap_cons_none hanswer]
      rfl
    | some a =>
      rw [Conversation.answers, Conversation.answers, List.filterMap_cons_some hanswer]
      rfl

theorem serves_files {r r' : Recording} {t : Conversation GatewayInterface}
    (h : Serves server r t r') : t.RecordsFiles :=
  Conversation.RecordsFiles.of_serves (fun _ s => ⟨s, rfl⟩) h

end Recording

end ObjectGateway
