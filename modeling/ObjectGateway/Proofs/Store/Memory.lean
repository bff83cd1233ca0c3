import ObjectGateway.Proofs.Conversation
import ObjectGateway.Proofs.TextMap
import ObjectGateway.Store.Memory

/-!
# What calls do to a store in memory

A call changes the objects of a store only if it succeeds, and then by `StoreCall.update`, as long
as no call fails after it has been done.  `reply_state` says so for one call and `serves_state` for
any number of them.  A store that no failure was injected into is described by the objects it holds.
-/

namespace ObjectGateway

/-- What a call makes of the objects of a bucket when it succeeds. -/
def StoreCall.update : StoreCall → TextMap Bytes → TextMap Bytes
  | .put r, objects => objects.insert r.key r.body
  | .delete key, objects => objects.erase key
  | _, objects => objects

@[simp] theorem StoreCall.succeeded_fail (c : StoreCall) (f : Failure) :
    c.succeeded (c.fail f) = false := by
  cases c <;> rfl

namespace MemoryStore

/-- What a call that is carried out leaves behind: nothing but the objects, the last upload and the
last signed address can differ. -/
theorem perform_state (s : MemoryStore) (c : StoreCall) :
    ∃ lastPut lastSigned, (s.perform c).2 =
      { s with objects := c.update s.objects, lastPut := lastPut, lastSigned := lastSigned } := by
  cases c with
  | list p => exact ⟨_, _, rfl⟩
  | put r => exact ⟨_, _, rfl⟩
  | delete key => exact ⟨_, _, rfl⟩
  | signedUrl key conditions span => exact ⟨_, _, rfl⟩
  | head key =>
    have hstate : (s.perform (.head key)).2 = s := by
      simp only [perform]
      split
      · rfl
      · rfl
    exact ⟨_, _, hstate⟩
  | get key conditions =>
    have hstate : (s.perform (.get key conditions)).2 = s := by
      simp only [perform]
      split
      · rfl
      · rfl
    exact ⟨_, _, hstate⟩

/-- Calls that do not change objects make nothing of them. -/
theorem perform_objects_of_failed {s : MemoryStore} {c : StoreCall}
    (h : c.succeeded (s.perform c).1 = false) : c.update s.objects = s.objects := by
  cases c with
  | put r => simp [perform, StoreCall.succeeded, Except.toBool] at h
  | delete key => simp [perform, StoreCall.succeeded, Except.toBool] at h
  | _ => rfl

/-- The store that a call finds when it is carried out: the call has been recorded. -/
def record (c : StoreCall) (s : MemoryStore) : MemoryStore :=
  { s with calls := s.calls ++ [c.label] }

/-- Where no call fails after it has been done, a call fails at once or is carried out. -/
theorem reply_eq {s : MemoryStore} (hlate : s.lateFailures = []) (c : StoreCall) :
    reply c s = match s.failures.get? c.key with
      | some f => (c.fail f, record c s)
      | none => (record c s).perform c := by
  obtain ⟨lastPut, lastSigned, hstate⟩ := perform_state (record c s) c
  have hnone : TextMap.get? c.label ((record c s).perform c).2.lateFailures = none := by
    rw [hstate]
    show TextMap.get? c.label s.lateFailures = none
    rw [hlate]
    rfl
  unfold reply
  show (match TextMap.get? c.key s.failures with
    | some f => (c.fail f, record c s)
    | none => match TextMap.get? c.label ((record c s).perform c).2.lateFailures with
      | some f => (if c.succeeded ((record c s).perform c).1 then c.fail f
          else ((record c s).perform c).1, ((record c s).perform c).2)
      | none => ((record c s).perform c)) = _
  rw [hnone]

/-- A store where no call fails after it has been done changes its objects by the calls that
succeed, and neither its failures nor its replacements. -/
theorem reply_state {s : MemoryStore} (hlate : s.lateFailures = []) (c : StoreCall) :
    ∃ calls lastPut lastSigned, (reply c s).2 =
      { s with
        objects := if c.succeeded (reply c s).1 then c.update s.objects else s.objects
        calls := calls, lastPut := lastPut, lastSigned := lastSigned } := by
  rw [reply_eq hlate]
  cases TextMap.get? c.key s.failures with
  | some f =>
    refine ⟨s.calls ++ [c.label], s.lastPut, s.lastSigned, ?_⟩
    simp [record]
  | none =>
    obtain ⟨lastPut, lastSigned, hstate⟩ := perform_state (record c s) c
    refine ⟨s.calls ++ [c.label], lastPut, lastSigned, ?_⟩
    show ((record c s).perform c).2 = _
    rw [hstate]
    cases hok : c.succeeded ((record c s).perform c).1 with
    | true => simp [record]
    | false =>
      have hsame : c.update (record c s).objects = (record c s).objects :=
        perform_objects_of_failed hok
      have hsame : c.update s.objects = s.objects := hsame
      simp [record, hsame]

/-- What calls make of the objects of a bucket: those that succeed take effect. -/
def applyCalls (calls : Conversation StoreInterface) (objects : TextMap Bytes) : TextMap Bytes :=
  calls.foldl (fun o e => if e.op.succeeded e.reply then e.op.update o else o) objects

@[simp] theorem applyCalls_nil (objects : TextMap Bytes) : applyCalls [] objects = objects := rfl

@[simp] theorem applyCalls_cons (e : Exchange StoreInterface) (calls : Conversation StoreInterface)
    (objects : TextMap Bytes) :
    applyCalls (e :: calls) objects =
      applyCalls calls (if e.op.succeeded e.reply then e.op.update objects else objects) := rfl

theorem applyCalls_append (calls rest : Conversation StoreInterface) (objects : TextMap Bytes) :
    applyCalls (calls ++ rest) objects = applyCalls rest (applyCalls calls objects) :=
  List.foldl_append

/-- Where no call fails after it has been done, the objects of a store are those that the calls
which succeed make of them. -/
theorem serves_state {s s' : MemoryStore} {calls : Conversation StoreInterface}
    (h : Serves reply s calls s') (hlate : s.lateFailures = []) :
    ∃ record lastPut lastSigned, s' =
      { s with
        objects := applyCalls calls s.objects
        calls := record, lastPut := lastPut, lastSigned := lastSigned } := by
  induction calls generalizing s with
  | nil =>
    obtain rfl : s' = s := h
    exact ⟨_, _, _, rfl⟩
  | cons e rest ih =>
    obtain ⟨next, hreply, hrest⟩ := h
    obtain ⟨record, lastPut, lastSigned, hnext⟩ := reply_state hlate e.op
    -- The next store has the same failures as this one, so that the hypothesis applies to the rest.
    simp only [hreply] at hnext
    subst hnext
    obtain ⟨record', lastPut', lastSigned', rfl⟩ := ih hrest hlate
    exact ⟨record', lastPut', lastSigned', rfl⟩

/-! ## Calls that take no object away -/

section Removals

/-- No call takes an object away. -/
def RemovesNothing (calls : Conversation StoreInterface) : Prop :=
  ∀ e ∈ calls, ∀ key, e.op ≠ .delete key

/-- Nothing is stored at a key. -/
def Untouched (key : String) (calls : Conversation StoreInterface) : Prop :=
  ∀ r info, (⟨.put r, .ok info⟩ : Exchange StoreInterface) ∈ calls → r.key ≠ key

variable {key : String} {calls rest : Conversation StoreInterface} {objects : TextMap Bytes}

theorem RemovesNothing.of_cons {e : Exchange StoreInterface} (h : RemovesNothing (e :: calls)) :
    RemovesNothing calls := fun e' he' => h e' (List.mem_cons_of_mem e he')

theorem RemovesNothing.of_append_left (h : RemovesNothing (calls ++ rest)) :
    RemovesNothing calls := fun e he => h e (List.mem_append_left rest he)

theorem Untouched.of_cons {e : Exchange StoreInterface} (h : Untouched key (e :: calls)) :
    Untouched key calls := fun r info hput => h r info (List.mem_cons_of_mem e hput)

/-- A call that removes nothing leaves an object where it is, unless it stores another one there. -/
theorem get?_of_call {e : Exchange StoreInterface} (hremoves : ∀ key, e.op ≠ .delete key) :
    (if e.op.succeeded e.reply then e.op.update objects else objects).get? key =
        objects.get? key ∨
      ∃ r info, e = ⟨.put r, .ok info⟩ ∧ r.key = key ∧
        (if e.op.succeeded e.reply then e.op.update objects else objects).get? key =
          some r.body := by
  obtain ⟨op, reply⟩ := e
  cases op with
  | delete k => exact absurd rfl (hremoves k)
  | put r =>
    rcases reply with f | info
    · exact .inl rfl
    · have hupdate : (StoreCall.update (.put r) objects).get? key =
          if key = r.key then some r.body else objects.get? key := TextMap.get?_insert _ _ _ _
      by_cases hkey : key = r.key
      · rw [if_pos hkey] at hupdate
        exact .inr ⟨r, info, rfl, hkey.symm, hupdate⟩
      · rw [if_neg hkey] at hupdate
        exact .inl hupdate
  | _ => exact .inl (by simp [StoreCall.update])

/-- Where nothing is stored, an object stays as it is. -/
theorem get?_applyCalls_of_untouched (hremoves : RemovesNothing calls)
    (huntouched : Untouched key calls) :
    (applyCalls calls objects).get? key = objects.get? key := by
  induction calls generalizing objects with
  | nil => rfl
  | cons e calls ih =>
    rw [applyCalls_cons, ih hremoves.of_cons huntouched.of_cons]
    rcases get?_of_call (hremoves e List.mem_cons_self) with hsame | ⟨r, info, rfl, hkey, -⟩
    · exact hsame
    · exact absurd hkey (huntouched r info List.mem_cons_self)

/-- Where there is no object after some calls, there was none before, and none was stored. -/
theorem untouched_of_get?_applyCalls (hremoves : RemovesNothing calls)
    (hnone : (applyCalls calls objects).get? key = none) :
    objects.get? key = none ∧ Untouched key calls := by
  induction calls generalizing objects with
  | nil =>
    refine ⟨hnone, fun r info hput => ?_⟩
    cases hput
  | cons e calls ih =>
    obtain ⟨hnext, hrest⟩ := ih hremoves.of_cons hnone
    rcases get?_of_call (hremoves e List.mem_cons_self) with hsame | ⟨r, info, rfl, -, hstored⟩
    · refine ⟨hsame.symm.trans hnext, fun r info hput hkey => ?_⟩
      rcases List.mem_cons.1 hput with rfl | hput
      · -- Had the call stored an object, there would be one behind it.
        subst hkey
        have hstored : (StoreCall.update (.put r) objects).get? r.key = some r.body := by
          simp [StoreCall.update, TextMap.get?_insert]
        exact absurd (hstored.symm.trans hnext) (Option.some_ne_none _)
      · exact hrest r info hput hkey
    · exact absurd (hstored.symm.trans hnext) (Option.some_ne_none _)

end Removals

/-! ## Stores without failures -/

/-- A store that no failure was injected into, with the objects that it holds. -/
structure Holds (s : MemoryStore) (objects : TextMap Bytes) : Prop where
  failures : s.failures = []
  lateFailures : s.lateFailures = []
  overrides : s.overrides = []
  objects : s.objects = objects

section Holds

variable {s s' : MemoryStore} {objects : TextMap Bytes}

theorem Holds.serves {calls : Conversation StoreInterface} (h : s.Holds objects)
    (hserves : Serves reply s calls s') : s'.Holds (applyCalls calls objects) := by
  obtain ⟨record, lastPut, lastSigned, rfl⟩ := serves_state hserves h.lateFailures
  refine ⟨h.failures, h.lateFailures, h.overrides, ?_⟩
  show applyCalls calls s.objects = _
  rw [h.objects]

theorem Holds.reply_eq (h : s.Holds objects) (c : StoreCall) :
    reply c s = (record c s).perform c := by
  rw [MemoryStore.reply_eq h.lateFailures, h.failures]
  rfl

/-- An object is opened with its whole content. -/
theorem Holds.reply_get {key : String} {body : Bytes} (h : s.Holds objects)
    (hget : objects.get? key = some body) (c : GetConditions) :
    (reply (.get key c) s).1 = .ok (⟨[.data body], metadata body⟩, info key) := by
  rw [h.reply_eq]
  simp [perform, record, h.objects, hget, shownBody, shownMetadata, h.overrides]

/-- An object that is not there cannot be opened. -/
theorem Holds.reply_get_none {key : String} (h : s.Holds objects)
    (hget : objects.get? key = none) (c : GetConditions) :
    (reply (.get key c) s).1 = .error .notFound := by
  rw [h.reply_eq]
  simp [perform, record, h.objects, hget]

/-- A removal cannot fail. -/
theorem Holds.reply_delete (h : s.Holds objects) (key : String) :
    (reply (.delete key) s).1 = .ok (info key) := by
  rw [h.reply_eq]
  rfl

end Holds

end MemoryStore

end ObjectGateway
