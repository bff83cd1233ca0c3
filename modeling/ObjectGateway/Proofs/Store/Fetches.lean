import Mathlib.Algebra.Order.BigOperators.Group.List
import Mathlib.Algebra.Ring.Int.Defs
import ObjectGateway.Proofs.Conversation
import ObjectGateway.Proofs.Store.Listing
import ObjectGateway.Proofs.Text.Split

/-!
# The pages of a listing

Which pages a listing asks a source for, and what it makes of the replies, for every source: it may
reply with any pages and tokens, and fail at any page.  `Walk.Follows` is the course of a listing as
a relation, one constructor for each way in which a page leaves it, and what is said of the single
requests, of the last page and of the entries goes by induction on it.

`countedListing_page_by_page` puts this together for listings that are counted.  An object without a
name is not listed: it is the listed start itself, or its key is empty.
-/

namespace ObjectGateway

/-- A request for a page, and the reply to it. -/
structure Fetch where
  request : PageRequest
  reply : Answer ListPage

/-- The number of keys that were counted on a page; none where there is no page. -/
def Fetch.keyCount (f : Fetch) : Int :=
  match f.reply with
  | .ok p => p.keyCount
  | .error _ => 0

/-- What a listing asks for when it gets a page. -/
def Fetch.exchange (f : Fetch) : Exchange ListingInterface := ⟨.fetch f.request, f.reply⟩

/-- The budget of a listing after its first `k` pages. -/
def budgetAfter (cap : Int) (fetches : List Fetch) (k : Nat) : Int :=
  cap - ((fetches.take k).map Fetch.keyCount).sum

/-- A reply after which a listing goes on that has so much of its budget left: a page with a token,
with an entry or a counted key on it. -/
def GoesOn (left : Int) : Answer ListPage → Prop
  | .ok p => p.next.isSome ∧ 0 < left ∧ (p.entries ≠ 0 ∨ p.keyCount ≠ 0)
  | .error _ => False

/-- The entry of an object, whatever its name. -/
def Descriptor.ofObject (keyPrefix : String) (o : ListedObject) : Descriptor :=
  ⟨.file, o.key, entryName keyPrefix o.key, o.etag, o.size, o.lastModified⟩

/-- What is listed of some pages: all common starts of keys, then all objects but those without a
name. -/
def listed (keyPrefix : String) (pages : List ListPage) : List Descriptor :=
  (pages.flatMap (·.folders)).map (Descriptor.ofFolder keyPrefix) ++
    ((pages.flatMap (·.objects)).filter fun o => o.key ≠ keyPrefix ∧ o.key ≠ "").map
      (Descriptor.ofObject keyPrefix)

/-! ## Names -/

theorem entryName_isEmpty_iff {keyPrefix key : String} :
    (entryName keyPrefix key).isEmpty = true ↔ key = keyPrefix ∨ key = "" := by
  rw [String.isEmpty_iff, entryName]
  cases hstart : Text.stripStart? keyPrefix.toList key.toList with
  | some rest =>
    have hkey : key.toList = keyPrefix.toList ++ rest := Text.stripStart?_eq_some_iff.1 hstart
    show String.ofList rest = "" ↔ _
    rw [← String.toList_inj, ← String.toList_inj, ← String.toList_inj, String.toList_ofList, hkey]
    simp +contextual
  | none =>
    show key = "" ↔ _
    refine ⟨Or.inr, fun h => h.elim (fun hkey => ?_) id⟩
    subst hkey
    cases hstart.symm.trans (Text.stripStart?_eq_some_iff.2 (List.append_nil key.toList).symm)

/-- The objects that are listed are those with a name. -/
theorem filterMap_ofObject? (keyPrefix : String) (os : List ListedObject) :
    os.filterMap (Descriptor.ofObject? keyPrefix) =
      (os.filter fun o => o.key ≠ keyPrefix ∧ o.key ≠ "").map (Descriptor.ofObject keyPrefix) := by
  induction os with
  | nil => rfl
  | cons o os ih =>
    by_cases hname : (entryName keyPrefix o.key).isEmpty = true
    · have hnone : Descriptor.ofObject? keyPrefix o = none := if_pos hname
      have hkey := entryName_isEmpty_iff.1 hname
      rw [List.filterMap_cons_none hnone, ih, List.filter_cons_of_neg]
      rw [decide_eq_true_eq]
      tauto
    · have hsome : Descriptor.ofObject? keyPrefix o = some (.ofObject keyPrefix o) := if_neg hname
      have hkey := mt entryName_isEmpty_iff.2 hname
      rw [List.filterMap_cons_some hsome, ih, List.filter_cons_of_pos, List.map_cons]
      rw [decide_eq_true_eq]
      tauto

/-! ## The course of a listing -/

namespace Walk

variable {w next : Walk} {most : Nat} {fetches : List Fetch}
  {result : Option (Answer (List Descriptor))}

/-- The course of a walk that is followed through at most so many pages: what it fetches, and what
it yields if it ends. -/
inductive Follows : Walk → Nat → List Fetch → Option (Answer (List Descriptor)) → Prop
  | cut (w : Walk) : Follows w 0 [] none
  | ends {w : Walk} {page : Answer ListPage} {r : Answer (List Descriptor)} (n : Nat)
      (hpage : w.receive page = .finished r) : Follows w (n + 1) [⟨w.request, page⟩] (some r)
  | goes {w next : Walk} {page : Answer ListPage} {n : Nat} {fetches : List Fetch}
      {result : Option (Answer (List Descriptor))} (hpage : w.receive page = .waiting next)
      (hrest : Follows next n fetches result) :
      Follows w (n + 1) (⟨w.request, page⟩ :: fetches) result

/-- Every run of a walk is such a course. -/
theorem follows_of_runs {t : Conversation ListingInterface} (h : (follow most w).Runs t result) :
    ∃ fetches, t = fetches.map Fetch.exchange ∧ Follows w most fetches result := by
  induction most generalizing w t with
  | zero =>
    obtain ⟨rfl, rfl⟩ := Flow.runs_done_iff.1 h
    exact ⟨[], rfl, .cut w⟩
  | succ n ih =>
    obtain ⟨page, rest, hnext, rfl⟩ := Flow.runs_call_iff.1 h
    change ((w.receive page).proceed (follow n)).Runs rest result at hnext
    cases hpage : w.receive page with
    | waiting next =>
      rw [hpage] at hnext
      obtain ⟨fetches, rfl, hfollows⟩ := ih hnext
      exact ⟨⟨w.request, page⟩ :: fetches, rfl, .goes hpage hfollows⟩
    | finished r =>
      rw [hpage] at hnext
      obtain ⟨rfl, rfl⟩ := Flow.runs_pure_iff.1 hnext
      exact ⟨[⟨w.request, page⟩], rfl, .ends n hpage⟩

/-! ## Steps -/

theorem goesOn_of_waiting {page : Answer ListPage} (h : w.receive page = .waiting next) :
    GoesOn next.remaining page := by
  obtain ⟨p, token, rfl, htoken, hleft, hbrought, rfl⟩ := receive_eq_waiting_iff.1 h
  refine ⟨by rw [htoken]; rfl, ?_, ?_⟩
  · show 0 < w.remaining - p.keyCount
    omega
  · omega

/-- A reply that ends a walk is none after which a listing goes on, where no count is negative. -/
theorem not_goesOn_of_finished {page : Answer ListPage} {r : Answer (List Descriptor)}
    (h : w.receive page = .finished r) (hcount : ∀ p, page = .ok p → 0 ≤ p.keyCount) :
    ¬GoesOn (w.remaining - Fetch.keyCount ⟨w.request, page⟩) page := by
  intro hgoes
  cases page with
  | error f => exact hgoes
  | ok p =>
    obtain ⟨htoken, hleft, hbrought⟩ := hgoes
    obtain ⟨token, htoken⟩ := Option.isSome_iff_exists.1 htoken
    have hcounted := hcount p rfl
    have hwaiting : w.receive (.ok p) = .waiting { w.take p with token := some token } := by
      refine receive_eq_waiting_iff.2 ⟨p, token, rfl, htoken, ?_, by omega, rfl⟩
      simp only [Fetch.keyCount] at hleft
      omega
    cases hwaiting.symm.trans h

theorem remaining_of_waiting {page : Answer ListPage} (h : w.receive page = .waiting next) :
    next.remaining = w.remaining - Fetch.keyCount ⟨w.request, page⟩ := by
  obtain ⟨p, token, rfl, -, -, -, rfl⟩ := receive_eq_waiting_iff.1 h
  rfl

/-! ## Budgets -/

theorem budgetAfter_zero (cap : Int) (fetches : List Fetch) : budgetAfter cap fetches 0 = cap :=
  Int.sub_zero cap

theorem budgetAfter_cons (cap : Int) (f : Fetch) (fetches : List Fetch) (k : Nat) :
    budgetAfter cap (f :: fetches) (k + 1) = budgetAfter (cap - f.keyCount) fetches k := by
  simp only [budgetAfter, List.take_succ_cons, List.map_cons, List.sum_cons]
  omega

theorem budgetAfter_le {cap : Int} {fetches : List Fetch}
    (hcounts : ∀ f ∈ fetches, ∀ p, f.reply = .ok p → 0 ≤ p.keyCount) (k : Nat) :
    budgetAfter cap fetches k ≤ cap := by
  have hsum : 0 ≤ ((fetches.take k).map Fetch.keyCount).sum := by
    refine List.sum_nonneg fun n hn => ?_
    obtain ⟨f, hf, rfl⟩ := List.mem_map.1 hn
    cases hreply : f.reply with
    | error e => simp [Fetch.keyCount, hreply]
    | ok p => simpa [Fetch.keyCount, hreply] using hcounts f (List.mem_of_mem_take hf) p hreply
  rw [budgetAfter]
  omega

namespace Follows

variable {k : Nat} {f g : Fetch}

/-! ## Requests -/

theorem begins (h : Follows w most fetches result) (hmost : 0 < most) : fetches ≠ [] := by
  cases h with
  | cut => omega
  | ends | goes => simp

theorem length_le (h : Follows w most fetches result) : fetches.length ≤ most := by
  induction h with
  | cut => exact Nat.le_refl 0
  | ends n => exact Nat.succ_le_succ (Nat.zero_le n)
  | goes hpage hrest ih => exact Nat.succ_le_succ ih

theorem firstToken (h : Follows w most fetches result) (hf : fetches[0]? = some f) :
    f.request.token = w.token := by
  cases h with
  | cut => cases hf
  | ends | goes =>
    cases hf
    rfl

/-- Each request after the first one has the token of the page before it. -/
theorem nextToken (h : Follows w most fetches result) (hf : fetches[k]? = some f)
    (hg : fetches[k + 1]? = some g) :
    ∃ p token, f.reply = .ok p ∧ p.next = some token ∧ g.request.token = some token := by
  induction h generalizing k with
  | cut => cases hf
  | ends => cases hg
  | goes hpage hrest ih =>
    cases k with
    | zero =>
      obtain ⟨p, token, hok, htoken, -, -, rfl⟩ := receive_eq_waiting_iff.1 hpage
      cases hf
      exact ⟨p, token, hok, htoken, hrest.firstToken hg⟩
    | succ k => exact ih hf hg

/-- Each request is for what is left of the budget, up to a full page. -/
theorem asks (h : Follows w most fetches result) (hf : fetches[k]? = some f) :
    f.request.keyPrefix = w.keyPrefix ∧
      f.request.maxKeys = min w.pageSize (budgetAfter w.remaining fetches k) := by
  induction h generalizing k with
  | cut => cases hf
  | ends =>
    obtain ⟨hk, rfl⟩ := List.getElem?_eq_some_iff.1 hf
    obtain rfl : k = 0 := Nat.lt_one_iff.1 hk
    exact ⟨rfl, by rw [budgetAfter_zero]; rfl⟩
  | goes hpage hrest ih =>
    cases k with
    | zero =>
      cases hf
      exact ⟨rfl, by rw [budgetAfter_zero]; rfl⟩
    | succ k =>
      obtain ⟨hasked, hmax⟩ := ih hf
      rw [budgetAfter_cons, ← remaining_of_waiting hpage, hmax, hasked]
      obtain ⟨p, token, -, -, -, -, rfl⟩ := receive_eq_waiting_iff.1 hpage
      exact ⟨rfl, rfl⟩

/-- Nothing is asked for once the budget is spent. -/
theorem budget_pos (h : Follows w most fetches result) (hleft : 1 ≤ w.remaining)
    (hf : fetches[k]? = some f) : 1 ≤ budgetAfter w.remaining fetches k := by
  induction h generalizing k with
  | cut => cases hf
  | ends =>
    obtain ⟨hk, rfl⟩ := List.getElem?_eq_some_iff.1 hf
    obtain rfl : k = 0 := Nat.lt_one_iff.1 hk
    rwa [budgetAfter_zero]
  | @goes w next page n fetches result hpage hrest ih =>
    cases k with
    | zero => rwa [budgetAfter_zero]
    | succ k =>
      have hnext : 1 ≤ next.remaining := by
        obtain ⟨p, token, -, -, hleft, -, rfl⟩ := receive_eq_waiting_iff.1 hpage
        show 1 ≤ w.remaining - p.keyCount
        omega
      rw [budgetAfter_cons, ← remaining_of_waiting hpage]
      exact ih hnext hf

/-! ## The last page -/

/-- No page is fetched after one exactly if a listing does not go on after it. -/
theorem goesOn_iff (h : Follows w most fetches result)
    (hcounts : ∀ f ∈ fetches, ∀ p, f.reply = .ok p → 0 ≤ p.keyCount)
    (hf : fetches[k]? = some f) (hk : k + 1 < most) :
    k + 1 < fetches.length ↔ GoesOn (budgetAfter w.remaining fetches (k + 1)) f.reply := by
  induction h generalizing k with
  | cut => cases hf
  | ends n hpage =>
    obtain ⟨hk, rfl⟩ := List.getElem?_eq_some_iff.1 hf
    obtain rfl : k = 0 := Nat.lt_one_iff.1 hk
    rw [budgetAfter_cons, budgetAfter_zero]
    have hstops := not_goesOn_of_finished hpage fun p hp => hcounts _ List.mem_cons_self p hp
    exact iff_of_false (Nat.lt_irrefl 1) hstops
  | goes hpage hrest ih =>
    rw [budgetAfter_cons, ← remaining_of_waiting hpage, List.length_cons, Nat.add_lt_add_iff_right]
    cases k with
    | zero =>
      cases hf
      rw [budgetAfter_zero]
      refine iff_of_true (List.length_pos_iff.2 (hrest.begins ?_)) (goesOn_of_waiting hpage)
      omega
    | succ k =>
      exact ih (fun f hf => hcounts f (List.mem_cons_of_mem _ hf)) hf (Nat.lt_of_succ_lt_succ hk)

/-- A listing that was followed no further has got as many pages as it was followed through, and
would go on after the last one. -/
theorem eq_none_iff (h : Follows w most fetches result)
    (hcounts : ∀ f ∈ fetches, ∀ p, f.reply = .ok p → 0 ≤ p.keyCount) :
    result = none ↔ fetches.length = most ∧
      ∀ f ∈ fetches.getLast?, GoesOn (budgetAfter w.remaining fetches most) f.reply := by
  induction h with
  | cut => exact iff_of_true rfl ⟨rfl, fun f hf => nomatch hf⟩
  | @ends w page r n hpage =>
    refine iff_of_false (Option.some_ne_none r) ?_
    rintro ⟨hlength, hgoes⟩
    cases hlength
    have hstops := not_goesOn_of_finished hpage fun p hp => hcounts _ List.mem_cons_self p hp
    refine hstops ?_
    rw [← budgetAfter_zero (w.remaining - _) [], ← budgetAfter_cons]
    exact hgoes _ rfl
  | @goes w next page n fetches result hpage hrest ih =>
    rw [ih fun f hf => hcounts f (List.mem_cons_of_mem _ hf), List.length_cons,
      Nat.add_right_cancel_iff, budgetAfter_cons, ← remaining_of_waiting hpage]
    cases fetches with
    | nil =>
      refine and_congr_right fun hn => iff_of_true (fun f hf => nomatch hf) ?_
      rintro f ⟨⟩
      obtain rfl : n = 0 := hn.symm
      rw [budgetAfter_zero]
      exact goesOn_of_waiting hpage
    | cons f fetches => rw [List.getLast?_cons_cons]

/-- A page that could not be had is the last one, and its failure is all that the listing yields. -/
theorem fails (h : Follows w most fetches result) {e : Failure} (hf : fetches[k]? = some f)
    (he : f.reply = .error e) : k + 1 = fetches.length ∧ result = some (.error e) := by
  induction h generalizing k with
  | cut => cases hf
  | ends n hpage =>
    obtain ⟨hk, rfl⟩ := List.getElem?_eq_some_iff.1 hf
    obtain rfl : k = 0 := Nat.lt_one_iff.1 hk
    obtain rfl : _ = Except.error e := he
    cases hpage
    exact ⟨rfl, rfl⟩
  | goes hpage hrest ih =>
    cases k with
    | zero =>
      cases hf
      obtain ⟨p, -, hok, -⟩ := receive_eq_waiting_iff.1 hpage
      cases hok.symm.trans he
    | succ k =>
      obtain ⟨hlength, hresult⟩ := ih hf
      exact ⟨by rw [List.length_cons, hlength], hresult⟩

/-! ## Entries -/

/-- Where every page could be had, a listing that ends yields the folders of all pages and then the
files of all pages, each behind those that it had before. -/
theorem entries (h : Follows w most fetches result) {pages : List ListPage}
    (hpages : fetches.map Fetch.reply = pages.map .ok) {r : Answer (List Descriptor)}
    (hr : result = some r) :
    r = .ok ((w.folders ++ (pages.flatMap (·.folders)).map (Descriptor.ofFolder w.keyPrefix)) ++
      (w.files ++ (pages.flatMap (·.objects)).filterMap (Descriptor.ofObject? w.keyPrefix))) := by
  induction h generalizing pages with
  | cut => cases hr
  | ends n hpage =>
    cases hr
    obtain _ | ⟨p, _ | ⟨q, pages⟩⟩ := pages
    · cases hpages
    · obtain rfl : _ = Except.ok p := List.head_eq_of_cons_eq hpages
      cases r with
      | error e =>
        simp only [receive] at hpage
        split at hpage
        · cases hpage
        · split at hpage <;> cases hpage
      | ok ds =>
        obtain ⟨_, ⟨⟩, rfl⟩ := receive_eq_finished_ok hpage
        simp [Walk.entries, Walk.take]
    · cases List.tail_eq_of_cons_eq hpages
  | goes hpage hrest ih =>
    obtain _ | ⟨p, pages⟩ := pages
    · cases hpages
    · obtain rfl : _ = Except.ok p := List.head_eq_of_cons_eq hpages
      obtain ⟨_, token, ⟨⟩, -, -, -, rfl⟩ := receive_eq_waiting_iff.1 hpage
      rw [ih (List.tail_eq_of_cons_eq hpages) hr]
      simp [Walk.take]

end Follows

end Walk

/-! ## Listings that are counted -/

/-- A source of pages, with the counters beside it. -/
def counting {σ : Type} (source : PageSource σ) : Server ListingInterface (σ × Metrics)
  | .fetch request, s => ((source request s.1).1, (source request s.1).2, s.2)
  | .count c, s => ((), s.1, s.2 ++ [c])

/-- What a conversation fetches. -/
def fetchesOf (t : Conversation ListingInterface) : List Fetch :=
  t.filterMap fun
    | ⟨.fetch request, reply⟩ => some ⟨request, reply⟩
    | ⟨.count _, _⟩ => none

/-- A listing of at most `cap` entries that is followed through at most so many pages: what it
fetches, and what it yields if it ends. -/
structure PageByPage (keyPrefix : String) (cap : Int) (most : Nat) (fetches : List Fetch)
    (result : Option (Answer (List Descriptor))) : Prop where
  begins : 0 < most → fetches ≠ []
  firstToken : ∀ f, fetches[0]? = some f → f.request.token = none
  nextToken : ∀ k f g, fetches[k]? = some f → fetches[k + 1]? = some g →
    ∃ p token, f.reply = .ok p ∧ p.next = some token ∧ g.request.token = some token
  asks : ∀ k f, fetches[k]? = some f → f.request.keyPrefix = keyPrefix ∧
    f.request.maxKeys = min 1000 (budgetAfter cap fetches k) ∧
      1 ≤ f.request.maxKeys ∧ f.request.maxKeys ≤ 1000
  goesOn : ∀ k f, fetches[k]? = some f → k + 1 < most →
    (k + 1 < fetches.length ↔ GoesOn (budgetAfter cap fetches (k + 1)) f.reply)
  fails : ∀ k f e, fetches[k]? = some f → f.reply = .error e →
    k + 1 = fetches.length ∧ result = some (.error e)
  lists : ∀ pages r, fetches.map Fetch.reply = pages.map .ok → result = some r →
    r = .ok (listed keyPrefix pages)
  /-- Only a listing that would go on after all the pages that it was followed through yields
  nothing. -/
  unfinished : result = none ↔ fetches.length = most ∧
    ∀ f ∈ fetches.getLast?, GoesOn (budgetAfter cap fetches most) f.reply

section Counting

variable {σ : Type} {source : PageSource σ} {s s' : σ × Metrics}

@[simp] theorem fetchesOf_map_exchange (fetches : List Fetch) :
    fetchesOf (fetches.map Fetch.exchange) = fetches := by
  rw [fetchesOf, List.filterMap_map]
  exact List.filterMap_some

/-- Pages come from the source, and leave the counters as they are. -/
theorem serves_fetches {fetches : List Fetch}
    (h : Serves (counting source) s (fetches.map Fetch.exchange) s') :
    (∀ f ∈ fetches, ∃ state, f.reply = (source f.request state).1) ∧ s'.2 = s.2 := by
  induction fetches generalizing s with
  | nil =>
    obtain rfl : s' = s := h
    exact ⟨List.forall_mem_nil _, rfl⟩
  | cons f fetches ih =>
    obtain ⟨next, hreply, hrest⟩ := h
    obtain ⟨hreplies, hcounters⟩ := ih hrest
    obtain ⟨hfirst, rfl⟩ := Prod.mk.inj hreply
    exact ⟨List.forall_mem_cons.2 ⟨⟨s.1, hfirst.symm⟩, hreplies⟩, hcounters⟩

theorem fetchesOf_append (t u : Conversation ListingInterface) :
    fetchesOf (t ++ u) = fetchesOf t ++ fetchesOf u :=
  List.filterMap_append

theorem fetchesOf_count (c : Count) (counted : Bool) :
    fetchesOf (if counted then [⟨.count c, ()⟩] else []) = [] := by
  cases counted <;> rfl

/-- A counted listing is the listing, and then its count if it has ended. -/
theorem converse_countedListing (source : PageSource σ) (target bucket : String) (most : Nat)
    (keyPrefix : String) (cap : Int) (s : σ × Metrics) :
    let walk := (Walk.follow most (.start keyPrefix cap)).converse (counting source) s
    let count : Count := .storeCall target bucket "list-objects"
    (countedListing target bucket most keyPrefix cap).converse (counting source) s =
      ⟨walk.exchanges ++ if walk.value.isSome then [⟨.count count, ()⟩] else [], walk.value,
        walk.state.1, walk.state.2 ++ if walk.value.isSome then [count] else []⟩ := by
  intro walk count
  have hbind : (countedListing target bucket most keyPrefix cap).converse (counting source) s = _ :=
    Flow.converse_bind (counting source) _ _ s
  rw [hbind]
  change (let rest := Flow.converse (counting source) _ walk.state
    { rest with exchanges := walk.exchanges ++ rest.exchanges }) = _
  cases hvalue : walk.value with
  | none => simp [Flow.converse, pure]
  | some r => rfl

end Counting

theorem Walk.Follows.pageByPage {keyPrefix : String} {cap : Int} (hcap : 1 ≤ cap) {most : Nat}
    {fetches : List Fetch} {result : Option (Answer (List Descriptor))}
    (h : (Walk.start keyPrefix cap).Follows most fetches result)
    (hcounts : ∀ f ∈ fetches, ∀ p, f.reply = .ok p → 0 ≤ p.keyCount) :
    PageByPage keyPrefix cap most fetches result where
  begins := h.begins
  firstToken f hf := h.firstToken hf
  nextToken k f g hf hg := h.nextToken hf hg
  asks k f hf := by
    obtain ⟨hasked, hmax⟩ := h.asks hf
    have hleft : 1 ≤ budgetAfter cap fetches k := h.budget_pos hcap hf
    have hmost : budgetAfter cap fetches k ≤ cap := budgetAfter_le hcounts k
    have hsize : (Walk.start keyPrefix cap).pageSize = min cap 1000 := by
      simp only [Walk.start, Walk.greatestPage]
      omega
    have hmax : f.request.maxKeys = min (min cap 1000) (budgetAfter cap fetches k) := by
      rw [hmax, hsize]
      rfl
    exact ⟨hasked, by omega, by omega, by omega⟩
  goesOn k f hf hk := h.goesOn_iff hcounts hf hk
  fails k f e hf he := h.fails hf he
  lists pages r hpages hr := by
    rw [h.entries hpages hr, listed, ← filterMap_ofObject?]
    rfl
  unfinished := h.eq_none_iff hcounts

/-- A listing, whatever its source replies: which pages it asks for and when it stops, and that it
yields the entries of all of its pages or the first failure.  Counting it changes nothing of this,
and adds one to the counter of listings once it has ended. -/
theorem countedListing_page_by_page {σ : Type} (source : PageSource σ)
    (hcounts : ∀ r s p, (source r s).1 = .ok p → 0 ≤ p.keyCount)
    (target bucket keyPrefix : String) (cap : Int) (hcap : 1 ≤ cap) (most : Nat) (s : σ)
    (m : Metrics) :
    let walk := (Walk.follow most (.start keyPrefix cap)).converse (counting source) (s, m)
    let talk := (countedListing target bucket most keyPrefix cap).converse (counting source) (s, m)
    PageByPage keyPrefix cap most (fetchesOf walk.exchanges) walk.value ∧ walk.state.2 = m ∧
      talk.value = walk.value ∧ fetchesOf talk.exchanges = fetchesOf walk.exchanges ∧
      talk.state.1 = walk.state.1 ∧
      talk.state.2 = m ++
        if walk.value.isSome then [.storeCall target bucket "list-objects"] else [] := by
  intro walk talk
  obtain ⟨fetches, hfetches, hfollows⟩ := Walk.follows_of_runs
    (Flow.converse_runs (counting source) (Walk.follow most (.start keyPrefix cap)) (s, m))
  have hserves := Flow.converse_serves (counting source)
    (Walk.follow most (.start keyPrefix cap)) (s, m)
  rw [hfetches] at hserves
  obtain ⟨hreplies, hcounters⟩ := serves_fetches hserves
  have hpages : fetchesOf walk.exchanges = fetches := by
    rw [show walk.exchanges = fetches.map Fetch.exchange from hfetches, fetchesOf_map_exchange]
  have hpage : PageByPage keyPrefix cap most fetches walk.value :=
    hfollows.pageByPage hcap fun f hf p hp => by
      obtain ⟨state, hreply⟩ := hreplies f hf
      exact hcounts f.request state p (hreply.symm.trans hp)
  have htalk : talk = _ := converse_countedListing source target bucket most keyPrefix cap (s, m)
  have hcounted : walk.state.2 = m := hcounters
  have hfetched : fetchesOf talk.exchanges = fetchesOf walk.exchanges := by
    rw [htalk, fetchesOf_append, fetchesOf_count, List.append_nil]
  have hstate : talk.state.2 = walk.state.2 ++ _ := congrArg (·.state.2) htalk
  rw [hcounted] at hstate
  exact ⟨hpages.symm ▸ hpage, hcounted, congrArg (·.value) htalk, hfetched,
    congrArg (·.state.1) htalk, hstate⟩

/-- A listing of which the second page cannot be had: it yields the failure and is counted. -/
theorem countedListing_page_by_page_docs :
    let first : ListPage := ⟨["docs/a/"], [⟨"docs/", "e", 0, none⟩], 2, some "more"⟩
    let source : PageSource Nat := fun _ n =>
      (if n = 0 then .ok first else .error (.internal "connection reset"), n + 1)
    let talk := (countedListing "t" "b" 3 "docs/" 1000).converse (counting source) (0, [])
    (∀ r s p, (source r s).1 = .ok p → 0 ≤ p.keyCount) ∧ (1 : Int) ≤ 1000 ∧
      talk.value = some (.error (.internal "connection reset")) ∧
      talk.state.2 = [.storeCall "t" "b" "list-objects"] := by
  intro first source talk
  have hcounts : ∀ r s p, (source r s).1 = .ok p → 0 ≤ p.keyCount := by
    intro r s p hp
    by_cases hs : s = 0
    · obtain rfl : first = p := by simpa [source, hs] using hp
      decide
    · simp [source, hs] at hp
  obtain ⟨hpages, -, hvalue, -, -, hcounters⟩ :=
    countedListing_page_by_page source hcounts "t" "b" "docs/" 1000 (by decide) 3 0 []
  exact ⟨hcounts, by decide, hvalue.trans (hpages.fails 1 _ _ rfl rfl).2, hcounters⟩

/-- A source that counts nothing and always has a token is asked for page after page. -/
theorem Walk.follow_endless {w : Walk} (hleft : 1 ≤ w.remaining) (n : Nat) (m : Metrics) :
    let walk := (follow n w).converse (counting (endless 0)) ((), m)
    walk.value = none ∧ walk.state.2 = m := by
  induction n generalizing w with
  | zero => exact ⟨rfl, rfl⟩
  | succ n ih =>
    have hgo : w.receive (.ok (countedPage 0)) =
        .waiting { w.take (countedPage 0) with token := some "more" } :=
      receive_eq_waiting_iff.2 ⟨_, "more", rfl, rfl, hleft, by decide, rfl⟩
    have hnext : 1 ≤ (w.take (countedPage 0)).remaining := by
      rwa [show (w.take (countedPage 0)).remaining = w.remaining from Int.sub_zero _]
    change (let rest := ((w.receive (.ok (countedPage 0))).proceed (follow n)).converse _ ((), m)
      rest.value = none ∧ rest.state.2 = m)
    rw [hgo]
    exact ih (w := { w.take (countedPage 0) with token := some "more" }) hnext

/-- An object that is not the listed start itself can be left out all the same: one with an empty
key has no name.  And a listing need not be counted, since it need not end: every page has a token
and brings an entry, but nothing is counted on it. -/
theorem nameless_object_unlisted :
    let page : ListPage := ⟨[], [⟨"", "e", 3, none⟩], 1, none⟩
    let source : PageSource Unit := fun _ _ => (.ok page, ())
    let talk := (countedListing "t" "b" 1 "dir/" 10).converse (counting source) ((), [])
    (∀ r s p, (source r s).1 = .ok p → 0 ≤ p.keyCount) ∧
      fetchesOf talk.exchanges = [⟨⟨"dir/", none, 10⟩, .ok page⟩] ∧
      (page.objects.filter (·.key ≠ "dir/")).map (Descriptor.ofObject "dir/") =
        [⟨.file, "", "", "e", 3, none⟩] ∧
      talk.value = some (.ok []) ∧
      (∀ r s p, (Walk.endless 0 r s).1 = .ok p → 0 ≤ p.keyCount) ∧
      ∀ most, ((countedListing "t" "b" most "" 1).converse
        (counting (Walk.endless 0)) ((), [])).state.2 = [] := by
  intro page source talk
  refine ⟨?_, rfl, by decide, rfl, ?_, fun most => ?_⟩
  · rintro r s _ ⟨⟩
    decide
  · rintro r s _ ⟨⟩
    decide
  · obtain ⟨hvalue, hcounters⟩ := Walk.follow_endless (w := .start "" 1) (by decide) most []
    rw [converse_countedListing, hvalue]
    simpa using hcounters

end ObjectGateway
