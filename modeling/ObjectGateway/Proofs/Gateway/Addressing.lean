import ObjectGateway.Proofs.Gateway.Mutation
import ObjectGateway.Proofs.Rewrite

/-!
# Uploads, reads and removals of one object

An upload names a folder and a file, while reads and removals name a whole path, and each of them
finds its key by itself.  Below a target whose rules hold no templates the keys are the same:
`write_read_remove` follows an object from its upload to its removal, in any store in memory without
failures.
-/

namespace ObjectGateway

namespace Gateway

open MemoryStore (Holds)
open Exchange (called told sent answered)

variable {g : Gateway} {path key : String} {body : Bytes} {objects : TextMap Bytes}

/-- A request that is answered from a store in memory, where files are sent as they may be. -/
abbrev onStore (request : GatewayFlow Unit) (send : FileAnswer → Answer Unit) (s : MemoryStore) :
    Talk GatewayInterface Unit MemoryStore :=
  request.converse (MemoryStore.serve send) s

theorem onStore_serves (request : GatewayFlow Unit) (send : FileAnswer → Answer Unit)
    (s : MemoryStore) :
    Serves MemoryStore.reply s (onStore request send s).exchanges.storeCalls
      (onStore request send s).state :=
  (MemoryStore.serve_keepsStore send).serves (Flow.converse_serves _ request s)

/-- A read of a path opens the object of a key, once, and passes its content on. -/
def ReadsObject (g : Gateway) (path key : String) (body : Bytes) (objects : TextMap Bytes) :
    Prop :=
  ∀ ctx conditions send s, s.Holds objects →
    let talk := onStore (g.read ctx .get ⟨path, conditions⟩) send s
    talk.exchanges.storeCalls.map (·.op) = [.get key conditions] ∧
      talk.exchanges.files.map (·.body) = [some [.data body]] ∧ talk.state.Holds objects

/-- A read of a path finds nothing, and says so or leads to the folder of that path. -/
def ReadsNothing (g : Gateway) (path : String) (objects : TextMap Bytes) : Prop :=
  ∀ ctx conditions send s, s.Holds objects →
    let talk := onStore (g.read ctx .get ⟨path, conditions⟩) send s
    talk.exchanges.answers = [.outcome (if g.getConfig.redirectWithTrailingSlash then
      .redirectWithTrailingSlash else .notFound)] ∧ talk.state.Holds objects

/-- A removal of a path removes the object of a key and turns some objects into others. -/
def RemovesObject (g : Gateway) (path key : String) (before after : TextMap Bytes) : Prop :=
  ∀ ctx send s, s.Holds before →
    let talk := onStore (g.remove ctx path) send s
    talk.exchanges.answers = [.outcome (.removed key)] ∧ talk.state.Holds after

/-! ## Keys -/

/-- Without templates, a path leads to the same key in every request. -/
theorem objectKey_eq_of_expansion (hrules : ∀ r ∈ g.target.rules, r.kind = .expansion)
    (ctx ctx' : RequestContext) (path : String) : g.objectKey ctx path = g.objectKey ctx' path :=
  RewriteContext.rewrite_eq_of_expansion hrules _ _

theorem uploadPath_toList_ne_nil (input : PutInput) : (uploadPath input).toList ≠ [] := by
  unfold uploadPath
  intro hempty
  -- Either the folder ends in a slash, and is not empty, or a slash is put behind it.
  by_cases hslash : input.requestPath.toList.getLast? = some '/'
  · have hfolder : input.requestPath.toList = [] := by
      simp only [if_pos hslash, String.toList_append, List.append_eq_nil_iff] at hempty
      exact hempty.1
    rw [hfolder] at hslash
    cases hslash
  · simp only [if_neg hslash, String.toList_append, List.append_eq_nil_iff] at hempty
    exact absurd hempty.1.2 (by decide)

/-- The path of an upload that does not end in a slash names a file. -/
theorem isFolderPath_uploadPath {input : PutInput}
    (hfile : (uploadPath input).toList.getLast? ≠ some '/') :
    isFolderPath (uploadPath input) = false := by
  have hne : (uploadPath input).isEmpty = false := by
    rw [String.isEmpty_eq_false_iff]
    intro hempty
    exact uploadPath_toList_ne_nil input (by rw [hempty]; rfl)
  simp [isFolderPath, hne, hfile]

/-! ## Single requests -/

theorem fileFailure_notFound (g : Gateway) (hslash : path.toList.getLast? ≠ some '/') :
    g.fileFailure path .notFound =
      if g.getConfig.redirectWithTrailingSlash then .redirectWithTrailingSlash else .notFound := by
  unfold fileFailure
  by_cases hredirect : g.getConfig.redirectWithTrailingSlash = true
  · rw [if_pos ⟨rfl, hredirect, hslash⟩, if_pos hredirect]
  · rw [if_neg fun h => hredirect h.2.1, if_neg hredirect]
    rfl

section Requests

variable {ctx : RequestContext} {conditions : GetConditions} {t : Conversation GatewayInterface}
  {s s' : MemoryStore}

/-- A read of the path of an object passes the object on. -/
theorem read_runs_of_get? (hkey : g.objectKey ctx path = .ok key)
    (hfile : isFolderPath path = false) (hsigned : g.getConfig.redirectToSignedUrl = false)
    (hs : s.Holds objects) (hget : objects.get? key = some body)
    (hrun : (g.read ctx .get ⟨path, conditions⟩).Runs t ())
    (hserves : Serves MemoryStore.reply s t.storeCalls s') :
    t.storeCalls.map (·.op) = [.get key conditions] ∧ t.files.map (·.body) = [some [.data body]] ∧
      s'.Holds objects := by
  have hreply := hs.reply_get hget conditions
  rcases read_runs_of_file hrun hkey hfile hsigned with
    ⟨f, rfl⟩ | ⟨output, info, f, rfl⟩ | ⟨output, info, rfl⟩
  · -- The store has the object, so that it cannot fail to open it.
    obtain ⟨next, hnext, -⟩ := hserves
    rw [hnext] at hreply
    cases hreply
  · have hstate := hs.serves hserves
    obtain ⟨next, hnext, -⟩ := hserves
    rw [hnext] at hreply
    cases hreply
    exact ⟨rfl, rfl, hstate⟩
  · have hstate := hs.serves hserves
    obtain ⟨next, hnext, -⟩ := hserves
    rw [hnext] at hreply
    cases hreply
    exact ⟨rfl, rfl, hstate⟩

/-- A read of the path of an object that is not there finds nothing. -/
theorem read_runs_of_get?_none (hkey : g.objectKey ctx path = .ok key)
    (hfile : isFolderPath path = false) (hsigned : g.getConfig.redirectToSignedUrl = false)
    (hs : s.Holds objects) (hget : objects.get? key = none)
    (hrun : (g.read ctx .get ⟨path, conditions⟩).Runs t ())
    (hserves : Serves MemoryStore.reply s t.storeCalls s') :
    t.answers = [.outcome (g.fileFailure path .notFound)] ∧ s'.Holds objects := by
  have hreply := hs.reply_get_none hget conditions
  rcases read_runs_of_file hrun hkey hfile hsigned with
    ⟨f, rfl⟩ | ⟨output, info, f, rfl⟩ | ⟨output, info, rfl⟩
  · have hstate := hs.serves hserves
    obtain ⟨next, hnext, -⟩ := hserves
    rw [hnext] at hreply
    cases hreply
    exact ⟨rfl, hstate⟩
  · -- Nor can the store open an object that it does not have, here and in the next case.
    obtain ⟨next, hnext, -⟩ := hserves
    rw [hnext] at hreply
    cases hreply
  · obtain ⟨next, hnext, -⟩ := hserves
    rw [hnext] at hreply
    cases hreply

/-- A removal of the path of a file removes the object of its key. -/
theorem remove_runs_of_file (hkey : g.objectKey ctx path = .ok key)
    (hfile : isFolderPath path = false) (hs : s.Holds objects)
    (hrun : (g.remove ctx path).Runs t ())
    (hserves : Serves MemoryStore.reply s t.storeCalls s') :
    t.answers = [.outcome (.removed key)] ∧ s'.Holds (objects.erase key) := by
  have hstate := hs.serves hserves
  cases remove_runs_iff.1 hrun with
  | unrewritten hkey' => simp [hkey] at hkey'
  | folder _ hfolder => simp [hfile] at hfolder
  | @unremoved key' f hkey' _ =>
    obtain ⟨next, hnext, -⟩ := hserves
    have hreply := hs.reply_delete key'
    rw [hnext] at hreply
    cases hreply
  | @removed key' info hkey' _ =>
    obtain rfl : key' = key := by simpa [hkey] using hkey'.symm
    exact ⟨rfl, hstate⟩

theorem stored_notMem_of_failure {f : Failure} {echo : PutEcho} :
    Recorded.outcome (.stored echo) ∉ [Recorded.outcome (failureOutcome f)] := by
  intro hmem
  have htells := Recorded.tellsChange_of_not_delivers (failureOutcome_delivers f)
  rw [← List.mem_singleton.1 hmem] at htells
  cases htells

/-- An upload that is stored is told of by its key. -/
theorem WriteRun.objectKey_of_stored {input : PutInput} {echo : PutEcho}
    (h : WriteRun g ctx input t) (hstored : .outcome (.stored echo) ∈ t.answers) :
    g.objectKey ctx (uploadPath input) = .ok echo.key := by
  cases h with
  | unrewritten _ => exact absurd hstored stored_notMem_of_failure
  | unrendered _ _ => exact absurd hstored stored_notMem_of_failure
  | occupied _ _ _ => cases List.mem_singleton.1 hstored
  | unknown _ _ _ _ => exact absurd hstored stored_notMem_of_failure
  | @unstored key r f _ _ =>
    rw [absenceCheck_answers] at hstored
    exact absurd hstored stored_notMem_of_failure
  | @stored key r info hkey hrequest =>
    have hr : r.key = key := (uploadRequest_key_body hrequest).1
    rw [absenceCheck_answers] at hstored
    have hecho : Recorded.outcome (.stored echo) = .outcome (.stored (putEcho input r)) :=
      List.mem_singleton.1 hstored
    obtain rfl : echo = putEcho input r := by simpa using hecho
    rw [hkey, ← hr]
    rfl

/-- An upload that is stored puts its content at the key that is told of it. -/
theorem write_runs_of_stored {input : PutInput} {echo : PutEcho}
    (hs : s.Holds objects) (hrun : (g.write ctx input).Runs t ())
    (hserves : Serves MemoryStore.reply s t.storeCalls s')
    (hstored : .outcome (.stored echo) ∈ t.answers) :
    g.objectKey ctx (uploadPath input) = .ok echo.key ∧
      s'.Holds (objects.insert echo.key input.body) := by
  have hwrite : WriteRun g ctx input t := write_runs_iff.1 hrun
  refine ⟨hwrite.objectKey_of_stored hstored, ?_⟩
  -- The one answer of the upload is that it is stored, so that it is this answer that takes effect.
  obtain ⟨a, ha, hupdate⟩ := hwrite.answersForChange
  obtain rfl : Recorded.outcome (.stored echo) = a := by simpa [ha] using hstored
  have hstate := hs.serves hserves
  rwa [hupdate] at hstate

end Requests

/-- Below a target without templates an upload, a read and a removal of one path are about the same
object.  Once the upload is stored, the object at the key that is told of it is the only one that
differs from before; reads pass on what was uploaded; a removal takes that object away and no other
one, and then reads find nothing. -/
theorem write_read_remove {ctx : RequestContext} {input : PutInput} {echo : PutEcho}
    {send : FileAnswer → Answer Unit} {s : MemoryStore}
    (hrules : ∀ r ∈ g.target.rules, r.kind = .expansion)
    (hsigned : g.getConfig.redirectToSignedUrl = false)
    (hfile : (uploadPath input).toList.getLast? ≠ some '/') (hs : s.Holds objects)
    (hstored : .outcome (.stored echo) ∈ (onStore (g.write ctx input) send s).exchanges.answers) :
    ∃ stored removed,
      (onStore (g.write ctx input) send s).state.Holds stored ∧
      (∀ k, stored.get? k = if k = echo.key then some input.body else objects.get? k) ∧
      ReadsObject g (uploadPath input) echo.key input.body stored ∧
      RemovesObject g (uploadPath input) echo.key stored removed ∧
      (∀ k, removed.get? k = if k = echo.key then none else stored.get? k) ∧
      ReadsNothing g (uploadPath input) removed := by
  have hpath := isFolderPath_uploadPath hfile
  obtain ⟨hkey, hstate⟩ := write_runs_of_stored hs (Flow.converse_runs _ _ _)
    (onStore_serves (g.write ctx input) send s) hstored
  -- Without templates the context of a request does not matter to its key.
  have hkeys : ∀ ctx', g.objectKey ctx' (uploadPath input) = .ok echo.key := by
    intro ctx'
    rw [objectKey_eq_of_expansion hrules ctx' ctx, hkey]
  refine ⟨objects.insert echo.key input.body,
    (objects.insert echo.key input.body).erase echo.key, hstate, ?_, ?_, ?_, ?_, ?_⟩
  · intro k
    rw [TextMap.get?_insert]
  · intro ctx' conditions send' s' hs'
    refine read_runs_of_get? (hkeys ctx') hpath hsigned hs' ?_ (Flow.converse_runs _ _ _)
      (onStore_serves _ send' s')
    rw [TextMap.get?_insert, if_pos rfl]
  · intro ctx' send' s' hs'
    exact remove_runs_of_file (hkeys ctx') hpath hs' (Flow.converse_runs _ _ _)
      (onStore_serves _ send' s')
  · intro k
    rw [TextMap.get?_erase]
  · intro ctx' conditions send' s' hs'
    have hread := read_runs_of_get?_none (hkeys ctx') hpath hsigned hs'
      (by rw [TextMap.get?_erase, if_pos rfl]) (Flow.converse_runs _ _ _)
      (onStore_serves (g.read ctx' .get ⟨uploadPath input, conditions⟩) send' s')
    rwa [fileFailure_notFound g hfile] at hread

/-- An upload below a target whose rule keeps all objects with an `a` in their paths at one key. -/
theorem write_read_remove_docs :
    let g := docs [⟨"(a)", "data/$1", .expansion⟩] ⟨none, none, none⟩
    let input : PutInput := ⟨"/a", "b", "text/plain", 2, [104, 105]⟩
    let s := MemoryStore.ofObjects [("c", [])]
    ∃ stored removed,
      (onStore (g.write default input) (fun _ => .ok ()) s).state.Holds stored ∧
      (∀ k, stored.get? k = if k = "data/a" then some [104, 105] else TextMap.get? k [("c", [])]) ∧
      ReadsObject g (uploadPath input) "data/a" [104, 105] stored ∧
      RemovesObject g (uploadPath input) "data/a" stored removed ∧
      (∀ k, removed.get? k = if k = "data/a" then none else stored.get? k) ∧
      ReadsNothing g (uploadPath input) removed := by
  intro g input s
  have hrules : ∀ r ∈ g.target.rules, r.kind = .expansion := by decide +kernel
  have hstored : Recorded.outcome (.stored ⟨"data/a", "text/plain", 2, [], "", "b"⟩) ∈
      (onStore (g.write default input) (fun _ => .ok ()) s).exchanges.answers := by decide +kernel
  exact write_read_remove hrules rfl (by decide +kernel) ⟨rfl, rfl, rfl, rfl⟩ hstored

end Gateway

end ObjectGateway
