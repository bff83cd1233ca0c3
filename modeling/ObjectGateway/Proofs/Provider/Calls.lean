import ObjectGateway.Proofs.Store.Fetches
import ObjectGateway.Provider.Store

/-!
# Calls of a provider

What a store makes of the replies of its provider.  A failure is told by its code, and by the status
of the reply only where it has no code: `IsMissing`, `IsUnmodified` and `IsUnmet` are the failures
that are told apart, and `Means` says which call tells them.  `BucketStore.perform_performed` says
this of every run of every call, together with what is counted in it: one operation for each call
that has ended.  So the counters beside a provider grow by the calls that have been made
(`callsMade_of_performAll`).
-/

namespace ObjectGateway

open ObjectGateway.Flow

/-! ## Failures -/

namespace ProviderFailure

variable {f : ProviderFailure}

/-- There is no such object. -/
def IsMissing (f : ProviderFailure) : Prop :=
  f.code = some "NoSuchKey" ∨ f.code = some "NotFound" ∨ f.code = none ∧ f.status = some 404

/-- The object has not changed since it was read before. -/
def IsUnmodified (f : ProviderFailure) : Prop :=
  f.code = some "NotModified" ∨ f.code = none ∧ f.status = some 304

/-- The object does not meet the conditions of the read. -/
def IsUnmet (f : ProviderFailure) : Prop :=
  f.code = some "PreconditionFailed" ∨ f.code = none ∧ f.status = some 412

/-- A failure that tells nothing about an object. -/
def IsOther (f : ProviderFailure) : Prop := ¬f.IsMissing ∧ ¬f.IsUnmodified ∧ ¬f.IsUnmet

/-- What a failure of the provider means to a call of the store.  A read tells all of them apart, a
question for an object only whether there is none, and every other call fails without a reason that
a client could be told. -/
def Means (f : ProviderFailure) : StoreCall → Failure → Prop
  | .get _ _, a => (a = .notFound ↔ f.IsMissing) ∧ (a = .notModified ↔ f.IsUnmodified) ∧
      (a = .preconditionFailed ↔ f.IsUnmet) ∧ ((∃ reason, a = .internal reason) ↔ f.IsOther)
  | .head _, a => (a = .notFound ↔ f.IsMissing) ∧ ((∃ reason, a = .internal reason) ↔ ¬f.IsMissing)
  | .put _, a | .delete _, a | .list _, a => ∃ reason, a = .internal reason
  | .signedUrl _ _ _, _ => False

theorem tells_iff {codes : List String} {status : Nat} :
    f.tells codes status = true ↔
      (∃ code ∈ codes, f.code = some code) ∨ f.code = none ∧ f.status = some status := by
  unfold tells
  cases f.code with
  | none => simp
  | some code => simp [eq_comm]

theorem tells_missing_iff : f.tells ["NoSuchKey", "NotFound"] 404 = true ↔ f.IsMissing := by
  simp [tells_iff, IsMissing, or_assoc]

theorem tells_unmodified_iff : f.tells ["NotModified"] 304 = true ↔ f.IsUnmodified := by
  simp [tells_iff, IsUnmodified]

theorem tells_unmet_iff : f.tells ["PreconditionFailed"] 412 = true ↔ f.IsUnmet := by
  simp [tells_iff, IsUnmet]

/-- A failure has one code or none, and one status or none, so that it tells one thing only. -/
theorem IsMissing.not_isUnmodified (h : f.IsMissing) : ¬f.IsUnmodified := by
  rintro (hcode | ⟨hcode, hstatus⟩)
  · rcases h with h | h | ⟨h, -⟩ <;> simp [hcode] at h
  · rcases h with h | h | ⟨-, h⟩
    · simp [hcode] at h
    · simp [hcode] at h
    · simp [hstatus] at h

theorem IsMissing.not_isUnmet (h : f.IsMissing) : ¬f.IsUnmet := by
  rintro (hcode | ⟨hcode, hstatus⟩)
  · rcases h with h | h | ⟨h, -⟩ <;> simp [hcode] at h
  · rcases h with h | h | ⟨-, h⟩
    · simp [hcode] at h
    · simp [hcode] at h
    · simp [hstatus] at h

theorem IsUnmodified.not_isUnmet (h : f.IsUnmodified) : ¬f.IsUnmet := by
  rintro (hcode | ⟨hcode, hstatus⟩)
  · rcases h with h | ⟨h, -⟩ <;> simp [hcode] at h
  · rcases h with h | ⟨-, h⟩
    · simp [hcode] at h
    · simp [hstatus] at h

/-- Every failure is of one of four kinds. -/
theorem expected?_cases (f : ProviderFailure) :
    (f.IsMissing ∧ ¬f.IsUnmodified ∧ ¬f.IsUnmet) ∧ f.expected? = some .notFound ∨
      (¬f.IsMissing ∧ f.IsUnmodified ∧ ¬f.IsUnmet) ∧ f.expected? = some .notModified ∨
      (¬f.IsMissing ∧ ¬f.IsUnmodified ∧ f.IsUnmet) ∧ f.expected? = some .preconditionFailed ∨
      f.IsOther ∧ f.expected? = none := by
  unfold expected?
  split
  · next h =>
    have h := tells_missing_iff.1 h
    exact .inl ⟨⟨h, h.not_isUnmodified, h.not_isUnmet⟩, rfl⟩
  · next hmissing =>
    rw [tells_missing_iff] at hmissing
    split
    · next h =>
      have h := tells_unmodified_iff.1 h
      exact .inr (.inl ⟨⟨hmissing, h, h.not_isUnmet⟩, rfl⟩)
    · next hunmodified =>
      rw [tells_unmodified_iff] at hunmodified
      split
      · next h => exact .inr (.inr (.inl ⟨⟨hmissing, hunmodified, tells_unmet_iff.1 h⟩, rfl⟩))
      · next hunmet =>
        rw [tells_unmet_iff] at hunmet
        exact .inr (.inr (.inr ⟨⟨hmissing, hunmodified, hunmet⟩, rfl⟩))

/-- A read fails as expected, or for a reason that is not told. -/
theorem means_get (f : ProviderFailure) (key : String) (c : GetConditions) (reason : String) :
    f.Means (.get key c) (f.expected?.getD (.internal reason)) := by
  unfold Means
  rcases f.expected?_cases with ⟨h, heq⟩ | ⟨h, heq⟩ | ⟨h, heq⟩ | ⟨h, heq⟩
  · simp [heq, h, IsOther]
  · simp [heq, h, IsOther]
  · simp [heq, h, IsOther]
  · simp [heq, h, h.1, h.2.1, h.2.2]

/-- A question for an object fails because there is none, or for a reason that is not told. -/
theorem means_head (f : ProviderFailure) (key reason : String) :
    f.Means (.head key)
      (if f.expected? = some .notFound then .notFound else .internal reason) := by
  unfold Means
  rcases f.expected?_cases with ⟨h, heq⟩ | ⟨h, heq⟩ | ⟨h, heq⟩ | ⟨h, heq⟩
  · simp [heq, h]
  · simp [heq, h]
  · simp [heq, h]
  · simp [heq, h.1]

end ProviderFailure

/-! ## Runs -/

/-- What is counted in a conversation with a provider, first to last. -/
def counts (t : Conversation ProviderInterface) : Metrics :=
  t.filterMap fun
    | ⟨.count c, _⟩ => some c
    | _ => none

@[simp] theorem counts_append (t u : Conversation ProviderInterface) :
    counts (t ++ u) = counts t ++ counts u := List.filterMap_append

/-- The name under which a call is counted; signing an address is not counted. -/
def StoreCall.counter? : StoreCall → Option String
  | .list _ => some "list-objects"
  | .head _ => some "head-object"
  | .get _ _ => some "get-object"
  | .put _ => some "put-object"
  | .delete _ => some "delete-object"
  | .signedUrl _ _ _ => none

namespace BucketStore

variable {s : BucketStore} {most : Nat} {key : String} {t : Conversation ProviderInterface}

/-- How a call of the store is counted. -/
def count? (s : BucketStore) (c : StoreCall) : Option Count :=
  c.counter?.map (.storeCall s.target s.bucket.name)

/-- What becomes of a call of the store in a conversation with the provider. -/
structure Performed (s : BucketStore) (c : StoreCall) (t : Conversation ProviderInterface)
    (reply : Option c.Reply) : Prop where
  /-- Only a listing can be left before it has ended. -/
  ends : reply = none → ∃ keyPrefix, c = .list keyPrefix
  /-- A call that has ended is counted once, and nothing else is counted. -/
  counted : counts t = if reply.isSome then (s.count? c).toList else []
  /-- Where the provider fails, the call fails with what this means to it. -/
  fails : ∀ (asked : ProviderCall) (headers : TextMap String) (f : ProviderFailure),
    ⟨.call asked headers, asked.fail f⟩ ∈ t → ∃ e, f.Means c e ∧ reply = some (c.fail e)

/-- A reply of the provider that is a failure makes a call fail with what the failure means to it.
-/
def FailsWith (c : StoreCall) (asked : ProviderCall) (said : asked.Reply) (reply : c.Reply) : Prop :=
  ∀ f : ProviderFailure, said = asked.fail f → ∃ e, f.Means c e ∧ reply = c.fail e

/-- A call that asks the provider once, and is counted before it looks at the reply. -/
theorem Performed.of_runs {c : StoreCall} {operation : String} {asked : ProviderCall}
    {headers : TextMap String} {next : asked.Reply → ProviderFlow c.Reply} {reply : c.Reply}
    (hcounter : c.counter? = some operation)
    (hnext : ∀ said t reply, (next said).Runs t reply → t = [] ∧ FailsWith c asked said reply)
    (h : (do
      let said ← call asked headers
      s.count operation
      next said : ProviderFlow c.Reply).Runs t reply) : s.Performed c t (some reply) := by
  obtain ⟨said, t₁, t₂, hcall, hrest, rfl⟩ := runs_monad_bind_iff.1 h
  obtain rfl := runs_ask_iff.1 hcall
  obtain ⟨⟨⟩, t₃, t₄, hcount, hlast, rfl⟩ := runs_monad_bind_iff.1 hrest
  obtain rfl := runs_ask_iff.1 hcount
  obtain ⟨rfl, hfails⟩ := hnext said t₄ reply hlast
  refine ⟨nofun, by simp [counts, count?, hcounter], fun other headers' f hf => ?_⟩
  rcases List.mem_cons.1 hf with hf | hf
  · cases hf
    obtain ⟨e, hmeans, rfl⟩ := hfails f rfl
    exact ⟨e, hmeans, rfl⟩
  · cases List.mem_singleton.1 hf

theorem head_performed {reply : (StoreCall.head key).Reply} (h : (s.head key).Runs t reply) :
    s.Performed (.head key) t (some reply) := by
  refine .of_runs rfl (fun said t reply hrun => ?_) h
  rcases said with f | o
  · have hmeans := f.means_head key ("head-object failed for " ++ key)
    by_cases hmissing : f.expected? = some .notFound
    · obtain ⟨rfl, rfl⟩ : t = [] ∧ reply = .error .notFound := by simpa [hmissing] using hrun
      rw [if_pos hmissing] at hmeans
      exact ⟨rfl, fun _ hf => by cases hf; exact ⟨_, hmeans, rfl⟩⟩
    · obtain ⟨rfl, rfl⟩ : t = [] ∧ reply = .error (operationFailure "head-object" key) := by
        simpa [hmissing] using hrun
      rw [if_neg hmissing] at hmeans
      exact ⟨rfl, fun _ hf => by cases hf; exact ⟨_, hmeans, rfl⟩⟩
  · obtain ⟨rfl, rfl⟩ := runs_pure_iff.1 hrun
    exact ⟨rfl, nofun⟩

theorem get_performed {conditions : GetConditions} {reply : (StoreCall.get key conditions).Reply}
    (h : (s.get key conditions).Runs t reply) :
    s.Performed (.get key conditions) t (some reply) := by
  refine .of_runs rfl (fun said t reply hrun => ?_) h
  rcases said with f | ⟨body, o⟩
  · obtain ⟨rfl, rfl⟩ := runs_pure_iff.1 hrun
    exact ⟨rfl, fun _ hf => by cases hf; exact ⟨_, f.means_get key conditions _, rfl⟩⟩
  · obtain ⟨rfl, rfl⟩ := runs_pure_iff.1 hrun
    exact ⟨rfl, nofun⟩

theorem put_performed {request : PutRequest} {reply : (StoreCall.put request).Reply}
    (h : (s.put request).Runs t reply) : s.Performed (.put request) t (some reply) := by
  refine .of_runs rfl (fun said t reply hrun => ?_) h
  rcases said with f | ⟨⟨⟩⟩
  · obtain ⟨rfl, rfl⟩ := runs_pure_iff.1 hrun
    exact ⟨rfl, fun _ _ => ⟨_, ⟨_, rfl⟩, rfl⟩⟩
  · obtain ⟨rfl, rfl⟩ := runs_pure_iff.1 hrun
    exact ⟨rfl, nofun⟩

theorem delete_performed {reply : (StoreCall.delete key).Reply}
    (h : (s.delete key).Runs t reply) : s.Performed (.delete key) t (some reply) := by
  refine .of_runs rfl (fun said t reply hrun => ?_) h
  rcases said with f | ⟨⟨⟩⟩
  · obtain ⟨rfl, rfl⟩ := runs_pure_iff.1 hrun
    exact ⟨rfl, fun _ _ => ⟨_, ⟨_, rfl⟩, rfl⟩⟩
  · obtain ⟨rfl, rfl⟩ := runs_pure_iff.1 hrun
    exact ⟨rfl, nofun⟩

/-- Signing an address asks the provider for nothing, and is not counted. -/
theorem signedUrl_performed {conditions : GetConditions} {expiration : Timespan}
    {reply : (StoreCall.signedUrl key conditions expiration).Reply}
    (h : (s.signedUrl key conditions expiration).Runs t reply) :
    s.Performed (.signedUrl key conditions expiration) t (some reply) := by
  have hsigned : t = [] ∨ ∃ a signature, t = [⟨.sign a, signature⟩] := by
    unfold signedUrl at h
    split at h
    · exact .inl (runs_pure_iff.1 h).1
    · split at h
      · exact .inl (runs_pure_iff.1 h).1
      · next a _ =>
        obtain ⟨signature, t₁, t₂, hsign, hpure, rfl⟩ := runs_monad_bind_iff.1 h
        obtain rfl := runs_ask_iff.1 hsign
        obtain ⟨rfl, -⟩ := runs_pure_iff.1 hpure
        exact .inr ⟨a, signature, rfl⟩
  clear h
  rcases hsigned with rfl | ⟨a, signature, rfl⟩
  · exact ⟨nofun, rfl, fun asked headers f hf => nomatch hf⟩
  · exact ⟨nofun, rfl, fun asked headers f hf => by cases List.mem_singleton.1 hf⟩

/-! ### Listings -/

/-- A page is asked for once, and a failure of the provider is the failure of its listing. -/
theorem supply_fetch_runs {request : PageRequest} {reply : Answer ListPage}
    (h : (s.supply (.fetch request)).Runs t reply) :
    ∃ said : (ProviderCall.listPage request).Reply,
      t = [⟨.call (.listPage request) (sendableHeaders s.bucket.headers.list), said⟩] ∧
        ∀ f, said = .error f →
          reply = .error (operationFailure "list-objects" request.keyPrefix) := by
  obtain ⟨said, t₁, t₂, hcall, hrest, rfl⟩ := runs_monad_bind_iff.1 h
  obtain rfl := runs_ask_iff.1 hcall
  refine ⟨said, ?_, ?_⟩
  · cases said <;> rw [(runs_pure_iff.1 hrest).1, List.append_nil]
  · rintro f rfl
    exact (runs_pure_iff.1 hrest).2

/-- Nothing is counted while pages are fetched, and a page that the provider refuses is a fetch that
fails. -/
theorem fetches_supplied {fetches : List Fetch}
    (h : Translates s.supply (fetches.map Fetch.exchange) t) :
    counts t = [] ∧ ∀ (asked : ProviderCall) (headers : TextMap String) (f : ProviderFailure),
      ⟨.call asked headers, asked.fail f⟩ ∈ t →
        ∃ fetch ∈ fetches, ∃ reason, fetch.reply = .error (.internal reason) := by
  induction fetches generalizing t with
  | nil =>
    cases h
    exact ⟨rfl, fun asked headers f hf => nomatch hf⟩
  | cons fetch fetches ih =>
    cases h with
    | cons hfetch hrest =>
      obtain ⟨hcounts, hfails⟩ := ih hrest
      obtain ⟨said, rfl, hsaid⟩ := supply_fetch_runs hfetch
      refine ⟨hcounts, fun asked headers' f hf => ?_⟩
      rcases List.mem_append.1 hf with hf | hf
      · cases List.mem_singleton.1 hf
        exact ⟨fetch, List.mem_cons_self, _, hsaid f rfl⟩
      · obtain ⟨other, hother, hreply⟩ := hfails asked headers' f hf
        exact ⟨other, List.mem_cons_of_mem fetch hother, hreply⟩

/-- A listing is counted behind its pages, if it has ended. -/
theorem countedListing_runs {target bucket keyPrefix : String} {most : Nat} {cap : Int}
    {u : Conversation ListingInterface} {result : Option (Answer (List Descriptor))}
    (h : (countedListing target bucket most keyPrefix cap).Runs u result) :
    ∃ fetches, (Walk.start keyPrefix cap).Follows most fetches result ∧
      u = fetches.map Fetch.exchange ++
        if result.isSome then [⟨.count (.storeCall target bucket "list-objects"), ()⟩] else [] := by
  obtain ⟨followed, u₁, u₂, hfollow, hcount, rfl⟩ := runs_monad_bind_iff.1 h
  obtain ⟨fetches, rfl, hfollows⟩ := Walk.follows_of_runs hfollow
  cases followed with
  | none =>
    obtain ⟨rfl, rfl⟩ := runs_pure_iff.1 hcount
    exact ⟨fetches, hfollows, rfl⟩
  | some ended =>
    obtain ⟨⟨⟩, u₁, u₂, hask, hpure, rfl⟩ := runs_monad_bind_iff.1 hcount
    obtain rfl := runs_ask_iff.1 hask
    obtain ⟨rfl, rfl⟩ := runs_pure_iff.1 hpure
    exact ⟨fetches, hfollows, rfl⟩

theorem count_supplied {c : Count}
    (h : Translates s.supply ([⟨.count c, ()⟩] : Conversation ListingInterface) t) :
    t = [⟨.count c, ()⟩] := by
  cases h with
  | cons hcount hrest =>
    cases hrest
    rw [runs_ask_iff.1 hcount, List.append_nil]

theorem list_performed {most : Nat} {keyPrefix : String}
    {reply : Option (StoreCall.list keyPrefix).Reply} (h : (s.list most keyPrefix).Runs t reply) :
    s.Performed (.list keyPrefix) t reply := by
  obtain ⟨result, t₁, t₂, hlisting, hpure, rfl⟩ := runs_monad_bind_iff.1 h
  obtain ⟨rfl, rfl⟩ := runs_pure_iff.1 hpure
  obtain ⟨u, hu, htranslates⟩ := hlisting.translates
  obtain ⟨fetches, hfollows, rfl⟩ := countedListing_runs hu
  obtain ⟨t₁, t₂, hfetches, hcounted, rfl⟩ := translates_append_iff.1 htranslates
  obtain ⟨hnone, hfails⟩ := fetches_supplied hfetches
  have hlast : t₂ = if result.isSome
      then [⟨.count (.storeCall s.target s.bucket.name "list-objects"), ()⟩] else [] := by
    cases result with
    | none =>
      cases hcounted
      rfl
    | some ended => exact count_supplied hcounted
  refine ⟨?_, ?_, fun asked headers f hf => ?_⟩
  · exact fun _ => ⟨keyPrefix, rfl⟩
  · rw [List.append_nil, counts_append, hnone, hlast]
    cases result <;> rfl
  · have hfetch : ⟨.call asked headers, asked.fail f⟩ ∈ t₁ := by
      rw [List.append_nil, hlast] at hf
      rcases List.mem_append.1 hf with hf | hf
      · exact hf
      · split at hf
        · cases List.mem_singleton.1 hf
        · cases hf
    obtain ⟨fetch, hmem, reason, hreply⟩ := hfails asked headers f hfetch
    obtain ⟨k, hk⟩ := List.getElem?_of_mem hmem
    obtain ⟨-, rfl⟩ := hfollows.fails hk hreply
    exact ⟨_, ⟨reason, rfl⟩, rfl⟩

/-- What becomes of each call of a store. -/
theorem perform_performed {most : Nat} {c : StoreCall} {reply : Option c.Reply}
    (h : (s.perform most c).Runs t reply) : s.Performed c t reply := by
  cases c with
  | list keyPrefix => exact list_performed h
  | head key =>
    obtain ⟨ended, hrun, rfl⟩ := runs_map_iff.1 h
    exact head_performed hrun
  | get key conditions =>
    obtain ⟨ended, hrun, rfl⟩ := runs_map_iff.1 h
    exact get_performed hrun
  | put request =>
    obtain ⟨ended, hrun, rfl⟩ := runs_map_iff.1 h
    exact put_performed hrun
  | delete key =>
    obtain ⟨ended, hrun, rfl⟩ := runs_map_iff.1 h
    exact delete_performed hrun
  | signedUrl key conditions expiration =>
    obtain ⟨ended, hrun, rfl⟩ := runs_map_iff.1 h
    exact signedUrl_performed hrun

end BucketStore

/-! ## Counters -/

/-- A call that a store has been asked for, and what came of it. -/
structure Performance where
  store : BucketStore
  call : StoreCall
  reply : Option call.Reply

namespace Performance

/-- What a call adds to the counters. -/
def counted (p : Performance) : Metrics :=
  if p.reply.isSome then (p.store.count? p.call).toList else []

/-- Whether a call has ended that an operation on a bucket is counted for. -/
def isOf (target bucket operation : String) (p : Performance) : Bool :=
  p.reply.isSome && p.store.target == target && p.store.bucket.name == bucket &&
    p.call.counter? == some operation

/-- A call adds one to the counter of its operation, and nothing to any other. -/
theorem count_counted (p : Performance) (target bucket operation : String) :
    p.counted.count (.storeCall target bucket operation) =
      if p.isOf target bucket operation then 1 else 0 := by
  obtain ⟨s, c, reply⟩ := p
  simp only [counted, isOf, BucketStore.count?]
  cases reply with
  | none => rfl
  | some ended =>
    rcases Option.eq_none_or_eq_some c.counter? with hcounter | ⟨counter, hcounter⟩
    · simp [hcounter]
    · simp [hcounter, List.count_singleton, and_assoc]

theorem count_flatMap_counted (done : List Performance) (target bucket operation : String) :
    (done.flatMap counted).count (.storeCall target bucket operation) =
      done.countP (isOf target bucket operation) := by
  induction done with
  | nil => rfl
  | cons p rest ih =>
    rw [List.flatMap_cons, List.count_append, ih, count_counted, List.countP_cons, Nat.add_comm]

end Performance

/-- Calls one after the other, of any stores. -/
def performAll (most : Nat) : List (BucketStore × StoreCall) → ProviderFlow (List Performance)
  | [] => return []
  | (s, c) :: rest => do
    let reply ← s.perform most c
    let others ← performAll most rest
    return ⟨s, c, reply⟩ :: others

/-- The calls of a sequence are made in order, each of them as if it were the only one, and they are
counted in order. -/
theorem performAll_runs {most : Nat} {calls : List (BucketStore × StoreCall)}
    {t : Conversation ProviderInterface} {done : List Performance}
    (h : (performAll most calls).Runs t done) :
    done.map (fun p => (p.store, p.call)) = calls ∧ counts t = done.flatMap Performance.counted ∧
      ∀ p ∈ done, ∃ u, u <:+: t ∧ p.store.Performed p.call u p.reply := by
  induction calls generalizing t done with
  | nil =>
    obtain ⟨rfl, rfl⟩ := runs_pure_iff.1 h
    exact ⟨rfl, rfl, fun p hp => nomatch hp⟩
  | cons call rest ih =>
    obtain ⟨s, c⟩ := call
    obtain ⟨reply, t₁, t₂, hcall, hrest, rfl⟩ := runs_monad_bind_iff.1 h
    obtain ⟨others, t₂, t₃, hothers, hpure, rfl⟩ := runs_monad_bind_iff.1 hrest
    obtain ⟨rfl, rfl⟩ := runs_pure_iff.1 hpure
    rw [List.append_nil]
    obtain ⟨rfl, hcounts, hperformed⟩ := ih hothers
    have hfirst := BucketStore.perform_performed hcall
    refine ⟨rfl, ?_, fun p hp => ?_⟩
    · rw [counts_append, hcounts, hfirst.counted]
      rfl
    · rcases List.mem_cons.1 hp with rfl | hp
      · exact ⟨t₁, List.prefix_append t₁ t₂ |>.isInfix, hfirst⟩
      · obtain ⟨u, hinfix, hu⟩ := hperformed p hp
        exact ⟨u, hinfix.trans (List.suffix_append t₁ t₂).isInfix, hu⟩

/-- A provider with counters beside it. -/
def metered {σ : Type} (provider : Server ProviderInterface σ) :
    Server ProviderInterface (σ × Metrics)
  | .count c, s => ((), s.1, s.2 ++ [c])
  | .call c headers, s =>
    let answer := provider (.call c headers) s.1
    (answer.1, answer.2, s.2)
  | .sign a, s =>
    let answer := provider (.sign a) s.1
    (answer.1, answer.2, s.2)

/-- The counters beside a provider grow by what is counted in a conversation with it. -/
theorem serves_metered {σ : Type} {provider : Server ProviderInterface σ} {s s' : σ × Metrics}
    {t : Conversation ProviderInterface} (h : Serves (metered provider) s t s') :
    s'.2 = s.2 ++ counts t := by
  induction t generalizing s with
  | nil =>
    obtain rfl : s' = s := h
    exact (List.append_nil _).symm
  | cons e t ih =>
    obtain ⟨next, hreply, hrest⟩ := h
    obtain ⟨op, reply⟩ := e
    rw [ih hrest]
    cases op with
    | count c =>
      obtain ⟨-, rfl⟩ := Prod.mk.inj hreply
      exact List.append_assoc s.2 [c] (counts t)
    | call c headers =>
      obtain ⟨-, rfl⟩ := Prod.mk.inj hreply
      rfl
    | sign a =>
      obtain ⟨-, rfl⟩ := Prod.mk.inj hreply
      rfl

/-- What becomes of calls that are made one after the other, and of the counters beside the
provider. -/
structure CallsMade (calls : List (BucketStore × StoreCall)) (m : Metrics)
    (t : Conversation ProviderInterface) (done : List Performance) (m' : Metrics) : Prop where
  inOrder : done.map (fun p => (p.store, p.call)) = calls
  performed : ∀ p ∈ done, ∃ u, u <:+: t ∧ p.store.Performed p.call u p.reply
  /-- The counter of an operation on a bucket grows by the number of calls that have ended. -/
  grown : ∀ target bucket operation, m'.count (.storeCall target bucket operation) =
    m.count (.storeCall target bucket operation) +
      done.countP (Performance.isOf target bucket operation)

/-- Calls are made and counted, whatever the provider replies. -/
theorem callsMade_of_performAll {σ : Type} (provider : Server ProviderInterface σ) (most : Nat)
    (calls : List (BucketStore × StoreCall)) (s : σ) (m : Metrics)
    {talk : Talk ProviderInterface (List Performance) (σ × Metrics)}
    (h : (performAll most calls).converse (metered provider) (s, m) = talk) :
    CallsMade calls m talk.exchanges talk.value talk.state.2 := by
  subst h
  obtain ⟨horder, hcounts, hperformed⟩ :=
    performAll_runs (converse_runs (metered provider) (performAll most calls) (s, m))
  refine ⟨horder, hperformed, fun target bucket operation => ?_⟩
  rw [serves_metered (converse_serves (metered provider) (performAll most calls) (s, m)), hcounts,
    List.count_append, Performance.count_flatMap_counted]

end ObjectGateway
