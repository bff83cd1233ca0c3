import ObjectGateway.Store.Listing

/-!
# Walks over a source of pages

A walk asks a source for one page after the other.  The source replies from a state of its own, so
it may split its pages as it likes, fail at any page, and never stop handing out tokens; a number of
pages bounds how far the walk is followed.

The budget of a walk is charged with the keys that the provider counted, not with the entries that
came.  `Walk.collect_within_cap` says that the cap of a listing holds for every source that counts
at least the entries it sends.  `Walk.collect_uncounted` shows that it does not hold for others: a
source that counts nothing is asked for pages without end.
-/

namespace ObjectGateway

/-- A source of pages: the reply to a request in a state, and the state after it. -/
abbrev PageSource (σ : Type) := PageRequest → σ → Answer ListPage × σ

/-- The integers of 32 bits. -/
def IsInt32 (n : Int) : Prop := -0x80000000 ≤ n ∧ n < 0x80000000

namespace Walk

variable {σ : Type} {w next : Walk} {page : Answer ListPage}

/-! ## One page -/

/-- A walk goes on exactly when a page with a token leaves a budget and has brought something. -/
theorem receive_eq_waiting_iff :
    w.receive page = .waiting next ↔
      ∃ p token, page = .ok p ∧ p.next = some token ∧ p.keyCount < w.remaining ∧
        ¬(p.keyCount ≤ 0 ∧ p.entries = 0) ∧ next = { w.take p with token := some token } := by
  cases page with
  | error f => simp [receive]
  | ok p =>
    cases htoken : p.next with
    | none => simp [receive, htoken]
    | some token =>
      have hbudget : 0 < (w.take p).remaining ↔ p.keyCount < w.remaining := by
        simp only [take]
        omega
      by_cases hgo : 0 < (w.take p).remaining ∧ ¬(p.keyCount ≤ 0 ∧ p.entries = 0)
      · simp only [receive, htoken]
        rw [if_pos hgo]
        rw [hbudget] at hgo
        constructor
        · rintro ⟨⟩
          exact ⟨p, token, rfl, htoken, hgo.1, hgo.2, rfl⟩
        · rintro ⟨_, _, ⟨⟩, htoken', -, -, rfl⟩
          rw [htoken] at htoken'
          cases htoken'
          rfl
      · simp only [receive, htoken]
        rw [if_neg hgo]
        rw [hbudget] at hgo
        simp only [reduceCtorEq, false_iff]
        rintro ⟨_, _, ⟨⟩, -, hleft, hbrought, -⟩
        exact hgo ⟨hleft, hbrought⟩

/-- A walk that ends well ends with the entries of all of its pages. -/
theorem receive_eq_finished_ok {ds : List Descriptor} (h : w.receive page = .finished (.ok ds)) :
    ∃ p, page = .ok p ∧ ds = (w.take p).entries := by
  cases page with
  | error f => simp [receive] at h
  | ok p =>
    refine ⟨p, rfl, ?_⟩
    simp only [receive] at h
    split at h
    · cases h
      rfl
    · split at h
      · cases h
      · cases h
        rfl

/-- A page adds no more entries than it has. -/
theorem entries_take_length_le (w : Walk) (p : ListPage) :
    (w.take p).entries.length ≤ w.entries.length + p.entries := by
  have hfiles := List.length_filterMap_le (Descriptor.ofObject? w.keyPrefix) p.objects
  simp only [take, entries, ListPage.entries, List.length_append, List.length_map]
  omega

/-! ## All pages -/

/-- The pages that a source replies with until the walk ends, at most so many. -/
def pagesFrom (source : PageSource σ) : Nat → Walk → σ → List (Answer ListPage)
  | 0, _, _ => []
  | n + 1, w, s =>
    (source w.request s).1 ::
      match w.receive (source w.request s).1 with
      | .waiting next => next.pagesFrom source n (source w.request s).2
      | .finished _ => []

/-- What a walk asks of a source and where it is after at most so many pages. -/
def collect (source : PageSource σ) (n : Nat) (w : Walk) (s : σ) : List PageRequest × WalkState :=
  w.run (w.pagesFrom source n s)

/-- The budget of a walk after each of some pages. -/
def budgets (w : Walk) : List (Answer ListPage) → List Int
  | [] => []
  | .error _ :: _ => []
  | .ok p :: rest =>
    (w.take p).remaining ::
      match w.receive (.ok p) with
      | .waiting next => next.budgets rest
      | .finished _ => []

section Collect

variable (source : PageSource σ) (n : Nat) {s : σ}

@[simp] theorem collect_zero (w : Walk) (s : σ) : collect source 0 w s = ([], .waiting w) := rfl

theorem collect_of_waiting (h : w.receive (source w.request s).1 = .waiting next) :
    collect source (n + 1) w s =
      (w.request :: (collect source n next (source w.request s).2).1,
        (collect source n next (source w.request s).2).2) := by
  simp only [collect, pagesFrom, run, h]

theorem collect_of_finished {result : Answer (List Descriptor)}
    (h : w.receive (source w.request s).1 = .finished result) :
    collect source (n + 1) w s = ([w.request], .finished result) := by
  simp only [collect, pagesFrom, run, h]

end Collect

/-! ## The cap -/

/-- A listing of at most `cap` entries is under way: what it has and what it may still get stay
within the cap, and what it may still get is what it asks for at most. -/
structure WithinCap (w : Walk) (cap : Int) : Prop where
  pageSize : 1 ≤ w.pageSize
  remaining : 1 ≤ w.remaining
  entries : w.entries.length + w.remaining ≤ cap

theorem withinCap_start (keyPrefix : String) {cap : Int} (hcap : 1 ≤ cap) :
    (start keyPrefix cap).WithinCap cap where
  pageSize := by
    simp only [start]
    omega
  remaining := hcap
  entries := by simp [start, Walk.entries]

namespace WithinCap

variable {cap : Int} {p : ListPage}

theorem maxKeys (h : w.WithinCap cap) :
    1 ≤ w.request.maxKeys ∧ w.request.maxKeys ≤ w.remaining := by
  have := h.pageSize
  have := h.remaining
  simp only [request]
  omega

/-- A page that counts its entries and on which the walk goes on has counted something, so the
budget shrinks. -/
theorem waiting (h : w.WithinCap cap) (hpage : w.receive (.ok p) = .waiting next)
    (hcount : p.entries ≤ p.keyCount) :
    next.WithinCap cap ∧ next.remaining < w.remaining := by
  obtain ⟨_, token, ⟨⟩, -, hleft, hbrought, rfl⟩ := receive_eq_waiting_iff.1 hpage
  have hlength := entries_take_length_le w p
  have hpositive : 1 ≤ p.keyCount := by omega
  have hremaining : (w.take p).remaining = w.remaining - p.keyCount := rfl
  have hentries := h.entries
  refine ⟨⟨h.pageSize, ?_, ?_⟩, ?_⟩
  · show 1 ≤ (w.take p).remaining
    omega
  · show ((w.take p).entries.length : Int) + (w.take p).remaining ≤ cap
    omega
  · show (w.take p).remaining < w.remaining
    omega

/-- The last page brings no more than was asked for. -/
theorem finished {ds : List Descriptor} (h : w.WithinCap cap)
    (hpage : w.receive (.ok p) = .finished (.ok ds)) (hfits : p.entries ≤ w.request.maxKeys) :
    ds.length ≤ cap := by
  obtain ⟨_, ⟨⟩, rfl⟩ := receive_eq_finished_ok hpage
  have hlength := entries_take_length_le w p
  have hasked := h.maxKeys.2
  have hentries := h.entries
  omega

/-- No count of 32 bits that covers the entries of a page takes the budget out of 32 bits. -/
theorem isInt32 (h : w.WithinCap cap) (hcap : IsInt32 cap) (hcount : p.entries ≤ p.keyCount)
    (hkeys : IsInt32 p.keyCount) : IsInt32 (w.take p).remaining := by
  have hremaining : (w.take p).remaining = w.remaining - p.keyCount := rfl
  have hentries := h.entries
  have hleft := h.remaining
  obtain ⟨-, hupper⟩ := hcap
  obtain ⟨-, hmost⟩ := hkeys
  unfold IsInt32
  omega

end WithinCap

/-- What the cap promises of a walk that has so much of its budget left. -/
structure KeepsCap (source : PageSource σ) (cap : Int) (n : Nat) (w : Walk) (s : σ) : Prop where
  fetches : (collect source n w s).1.length ≤ w.remaining
  finishes : w.remaining ≤ n → ∃ result, (collect source n w s).2 = .finished result
  entries : ∀ ds, (collect source n w s).2 = .finished (.ok ds) → ds.length ≤ cap
  budgets : ∀ b ∈ w.budgets (w.pagesFrom source n s), IsInt32 b

/-- The cap holds along a walk, by induction on the number of pages. -/
theorem WithinCap.keepsCap {source : PageSource σ} {cap : Int} (h : w.WithinCap cap)
    (hcap : IsInt32 cap)
    (hfits : ∀ r s p, 1 ≤ r.maxKeys → (source r s).1 = .ok p → p.entries ≤ r.maxKeys)
    (hcount : ∀ r s p, (source r s).1 = .ok p → p.entries ≤ p.keyCount ∧ IsInt32 p.keyCount)
    (n : Nat) (s : σ) : KeepsCap source cap n w s := by
  induction n generalizing w s with
  | zero =>
    have hleft := h.remaining
    refine ⟨?_, fun hn => ?_, fun ds hds => ?_, fun b hb => ?_⟩
    · rw [collect_zero, List.length_nil]
      omega
    · omega
    · cases hds
    · cases hb
  | succ n ih =>
    have hleft := h.remaining
    cases hpage : (source w.request s).1 with
    | error f =>
      have hend : w.receive (source w.request s).1 = .finished (.error f) := by rw [hpage]; rfl
      refine ⟨?_, fun _ => ?_, fun ds hds => ?_, fun b hb => ?_⟩
      · rw [collect_of_finished source n hend]
        exact hleft
      · rw [collect_of_finished source n hend]
        exact ⟨_, rfl⟩
      · rw [collect_of_finished source n hend] at hds
        cases hds
      · simp [pagesFrom, hpage, Walk.budgets] at hb
    | ok p =>
      obtain ⟨hcounted, hkeys⟩ := hcount _ _ _ hpage
      have hbudget := h.isInt32 hcap hcounted hkeys
      cases hreceive : w.receive (.ok p) with
      | waiting next =>
        have hgo : w.receive (source w.request s).1 = .waiting next := by rw [hpage, hreceive]
        obtain ⟨hnext, hless⟩ := h.waiting hreceive hcounted
        obtain ⟨hfetches, hfinishes, hentries, hbudgets⟩ := ih hnext (source w.request s).2
        refine ⟨?_, fun hn => ?_, ?_, fun b hb => ?_⟩
        · rw [collect_of_waiting source n hgo, List.length_cons]
          push_cast
          omega
        · rw [collect_of_waiting source n hgo]
          exact hfinishes (by push_cast at hn; omega)
        · rw [collect_of_waiting source n hgo]
          exact hentries
        · simp only [pagesFrom, hpage, hreceive, Walk.budgets, List.mem_cons] at hb
          rcases hb with rfl | hb
          · exact hbudget
          · exact hbudgets b hb
      | finished result =>
        have hend : w.receive (source w.request s).1 = .finished result := by rw [hpage, hreceive]
        refine ⟨?_, fun _ => ?_, fun ds hds => ?_, fun b hb => ?_⟩
        · rw [collect_of_finished source n hend]
          exact hleft
        · rw [collect_of_finished source n hend]
          exact ⟨_, rfl⟩
        · rw [collect_of_finished source n hend] at hds
          cases hds
          exact h.finished hreceive (hfits _ _ _ h.maxKeys.1 hpage)
        · simp only [pagesFrom, hpage, hreceive, Walk.budgets, List.mem_singleton] at hb
          rw [hb]
          exact hbudget

/-- A page with one folder and a token that counts so many keys. -/
def countedPage (keyCount : Int) : ListPage := ⟨["a/"], [], keyCount, some "more"⟩

/-- A source that replies with the same page and the same token to every request. -/
def endless (keyCount : Int) : PageSource Unit := fun _ _ => (.ok (countedPage keyCount), ())

/-- The cap of a listing bounds its pages and its entries, and keeps its budget within 32 bits, for
every source that sends no more entries than it is asked for and counts at least those it sends. -/
theorem collect_within_cap (source : PageSource σ)
    (hfits : ∀ r s p, 1 ≤ r.maxKeys → (source r s).1 = .ok p → p.entries ≤ r.maxKeys)
    (hcount : ∀ r s p, (source r s).1 = .ok p → p.entries ≤ p.keyCount ∧ IsInt32 p.keyCount)
    (keyPrefix : String) (cap : Int) (hcap : 1 ≤ cap) (hrange : IsInt32 cap) (s : σ) (n : Nat) :
    (collect source n (start keyPrefix cap) s).1.length ≤ cap ∧
      (cap ≤ n → ∃ result, (collect source n (start keyPrefix cap) s).2 = .finished result) ∧
      (∀ ds, (collect source n (start keyPrefix cap) s).2 = .finished (.ok ds) →
        ds.length ≤ cap) ∧
      ∀ b ∈ (start keyPrefix cap).budgets ((start keyPrefix cap).pagesFrom source n s),
        IsInt32 b := by
  obtain ⟨hfetches, hfinishes, hentries, hbudgets⟩ :=
    (withinCap_start keyPrefix hcap).keepsCap hrange hfits hcount n s
  exact ⟨hfetches, hfinishes, hentries, hbudgets⟩

/-- The cap holds for a source that always has a token and counts the folder that it sends. -/
theorem collect_within_cap_endless :
    (∀ r s p, 1 ≤ r.maxKeys → (endless 1 r s).1 = .ok p → (p.entries : Int) ≤ r.maxKeys) ∧
      (∀ r s p, (endless 1 r s).1 = .ok p → p.entries ≤ p.keyCount ∧ IsInt32 p.keyCount) ∧
      ((collect (endless 1) 9 (start "" 3) ()).1.length : Int) ≤ 3 := by
  have hfits : ∀ r s p, 1 ≤ r.maxKeys → (endless 1 r s).1 = .ok p →
      (p.entries : Int) ≤ r.maxKeys := by
    rintro r s _ hmax ⟨⟩
    exact hmax
  have hcount : ∀ r s p, (endless 1 r s).1 = .ok p →
      p.entries ≤ p.keyCount ∧ IsInt32 p.keyCount := by
    rintro r s _ ⟨⟩
    exact ⟨by decide, by decide, by decide⟩
  exact ⟨hfits, hcount,
    (collect_within_cap (endless 1) hfits hcount "" 3 (by decide) ⟨by decide, by decide⟩ () 9).1⟩

/-- Pages that count nothing leave the budget as it is, so a walk takes over all of them. -/
theorem collect_uncounted (hleft : 1 ≤ w.remaining) (n : Nat) :
    (collect (endless 0) n w ()).1.length = n ∧
      ∃ last, (collect (endless 0) n w ()).2 = .waiting last ∧
        last.entries.length = w.entries.length + n := by
  induction n generalizing w with
  | zero => exact ⟨rfl, w, rfl, rfl⟩
  | succ n ih =>
    have hgo : w.receive (.ok (countedPage 0)) =
        .waiting { w.take (countedPage 0) with token := some "more" } :=
      receive_eq_waiting_iff.2 ⟨_, "more", rfl, rfl, hleft, by decide, rfl⟩
    have hnext : (w.take (countedPage 0)).remaining = w.remaining := Int.sub_zero _
    obtain ⟨hlength, last, hlast, hentries⟩ :=
      ih (w := { w.take (countedPage 0) with token := some "more" }) (hnext ▸ hleft)
    rw [collect_of_waiting (endless 0) n hgo]
    refine ⟨congrArg (· + 1) hlength, last, hlast, ?_⟩
    rw [hentries]
    simp only [Walk.entries, take, countedPage, List.length_append, List.length_map,
      List.length_cons, List.length_nil, List.filterMap_nil]
    omega

/-- A cap of one entry does not hold for a source that counts nothing: it is asked for pages without
end, it can bring two entries by three pages, and a negative count takes the budget out of 32 bits,
although no page has more entries than were asked for. -/
theorem uncounted_exceeds_cap :
    (∀ k r s p, 1 ≤ r.maxKeys → (endless k r s).1 = .ok p → (p.entries : Int) ≤ r.maxKeys) ∧
      (∀ n, (collect (endless 0) n (start "" 1) ()).1.length = n) ∧
      (∃ requests ds, (start "" 1).run [.ok (countedPage 0), .ok (countedPage 0), .ok .empty] =
        (requests, .finished (.ok ds)) ∧ requests.length = 3 ∧ ds.length = 2) ∧
      IsInt32 (-0x80000000) ∧
      ∃ b ∈ (start "" 1).budgets ((start "" 1).pagesFrom (endless (-0x80000000)) 1 ()),
        ¬IsInt32 b := by
  refine ⟨?_, fun n => ?_, ⟨_, _, rfl, rfl, rfl⟩, ⟨by decide, by decide⟩,
    ⟨_, List.mem_cons_self, ?_⟩⟩
  · rintro k r s _ hmax ⟨⟩
    exact hmax
  · exact (collect_uncounted (w := start "" 1) (by decide) n).1
  · exact fun h => absurd h.2 (by decide)

end Walk

end ObjectGateway
