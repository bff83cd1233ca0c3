import ObjectGateway.TextMap

/-!
# Operations on maps

What a map holds after an operation on it, text by text, and that the operations keep the texts of a
map in order.  What a map holds does not depend on the order; that no text occurs twice does.
-/

namespace ObjectGateway.TextMap

variable {α : Type}

@[simp] theorem get?_nil (k : String) : get? k ([] : TextMap α) = none := rfl

theorem get?_cons (k : String) (p : String × α) (rest : TextMap α) :
    get? k (p :: rest) = if k = p.1 then some p.2 else get? k rest := by
  unfold get?
  rw [List.lookup_cons]
  by_cases h : k = p.1
  · simp [h]
  · have hbeq : (k == p.1) = false := by simpa using h
    simp [h, hbeq]

/-- A map holds what was put at a text, and holds the same as before at others. -/
theorem get?_insert (j k : String) (v : α) (m : TextMap α) :
    get? j (insert k v m) = if j = k then some v else get? j m := by
  fun_induction insert k v m with
  | case1 => rw [get?_cons]
  | case2 w rest =>
    rw [get?_cons, get?_cons]
    split
    · rfl
    · rfl
  | case3 l w rest _ _ => rw [get?_cons]
  | case4 l w rest hkl _ ih =>
    rw [get?_cons, get?_cons, ih]
    -- The text of the first pair is not `k`, so that at most one of the tests holds.
    by_cases hj : j = k
    · have hjl : j ≠ l := by rwa [hj]
      rw [if_neg hjl, if_pos hj, if_pos hj]
    · rw [if_neg hj, if_neg hj]

theorem get?_filter (p : String → Bool) (k : String) (m : TextMap α) :
    get? k (m.filter fun e => p e.1) = if p k then get? k m else none := by
  induction m with
  | nil => simp
  | cons e rest ih =>
    rw [List.filter_cons, get?_cons]
    by_cases he : p e.1
    · rw [if_pos he, get?_cons, ih]
      by_cases hk : k = e.1
      · simp [hk, he]
      · simp [hk]
    · rw [if_neg he, ih]
      by_cases hk : k = e.1
      · simp [hk, he]
      · simp [hk]

/-- A map holds nothing at a text that was removed, and holds the same as before at others. -/
theorem get?_erase (j k : String) (m : TextMap α) :
    get? j (erase k m) = if j = k then none else get? j m := by
  rw [show erase k m = m.filter fun e => decide (e.1 ≠ k) from rfl,
    get?_filter fun l => decide (l ≠ k)]
  by_cases hj : j = k
  · simp [hj]
  · simp [hj]

theorem get?_retain (k : String) (ks : List String) (m : TextMap α) :
    get? k (retain ks m) = if k ∈ ks then get? k m else none := by
  rw [show retain ks m = m.filter fun e => ks.contains e.1 from rfl,
    get?_filter fun l => ks.contains l]
  by_cases hk : k ∈ ks
  · simp [hk]
  · simp [hk]

/-- Putting pairs of other texts leaves a text as it is. -/
theorem get?_insertAll_of_notMem {k : String} {ps : List (String × α)}
    (h : k ∉ ps.map Prod.fst) (m : TextMap α) : get? k (insertAll ps m) = get? k m := by
  induction ps generalizing m with
  | nil => rfl
  | cons p rest ih =>
    rw [List.map_cons, List.mem_cons, not_or] at h
    show get? k (insertAll rest (insert p.1 p.2 m)) = _
    rw [ih h.2, get?_insert, if_neg h.1]

/-- Of pairs with different texts, every one is put. -/
theorem get?_insertAll_of_mem {p : String × α} {ps : List (String × α)} (hp : p ∈ ps)
    (hnodup : (ps.map Prod.fst).Nodup) (m : TextMap α) :
    get? p.1 (insertAll ps m) = some p.2 := by
  induction ps generalizing m with
  | nil => cases hp
  | cons q rest ih =>
    rw [List.map_cons, List.nodup_cons] at hnodup
    show get? p.1 (insertAll rest (insert q.1 q.2 m)) = _
    rcases List.mem_cons.1 hp with rfl | hrest
    · rw [get?_insertAll_of_notMem hnodup.1, get?_insert, if_pos rfl]
    · exact ih hrest hnodup.2 _

/-! ## Texts -/

/-- The texts of a map are those at which it holds something. -/
theorem mem_keys_iff {k : String} {m : TextMap α} : k ∈ keys m ↔ ∃ v, get? k m = some v := by
  induction m with
  | nil => simp [keys]
  | cons p rest ih =>
    rw [get?_cons, show keys (p :: rest) = p.1 :: keys rest from rfl, List.mem_cons, ih]
    by_cases hk : k = p.1
    · simp [hk]
    · simp [hk]

/-- The texts of a map are in order, so that none of them occurs twice. -/
def Ordered (m : TextMap α) : Prop := (keys m).Pairwise (· < ·)

theorem ordered_nil : Ordered ([] : TextMap α) := List.Pairwise.nil

theorem ordered_cons_iff {p : String × α} {rest : TextMap α} :
    Ordered (p :: rest) ↔ (∀ l ∈ keys rest, p.1 < l) ∧ Ordered rest := List.pairwise_cons

theorem Ordered.nodup {m : TextMap α} (h : Ordered m) : (keys m).Nodup := by
  refine List.Pairwise.imp (fun {a b} hlt => ?_) h
  rintro rfl
  exact String.lt_irrefl a hlt

theorem mem_keys_insert {j k : String} {v : α} {m : TextMap α} (h : j ∈ keys (insert k v m)) :
    j = k ∨ j ∈ keys m := by
  obtain ⟨w, hw⟩ := mem_keys_iff.1 h
  rw [get?_insert] at hw
  by_cases hj : j = k
  · exact .inl hj
  · rw [if_neg hj] at hw
    exact .inr (mem_keys_iff.2 ⟨w, hw⟩)

theorem mem_keys_insert_iff {j k : String} {v : α} {m : TextMap α} :
    j ∈ keys (insert k v m) ↔ j = k ∨ j ∈ keys m := by
  refine ⟨mem_keys_insert, ?_⟩
  rintro (rfl | hj)
  · exact mem_keys_iff.2 ⟨v, by rw [get?_insert, if_pos rfl]⟩
  · by_cases hjk : j = k
    · exact mem_keys_iff.2 ⟨v, by rw [get?_insert, if_pos hjk]⟩
    · obtain ⟨w, hw⟩ := mem_keys_iff.1 hj
      exact mem_keys_iff.2 ⟨w, by rw [get?_insert, if_neg hjk, hw]⟩

/-- After pairs have been put, the texts are those of the pairs beside those from before. -/
theorem mem_keys_insertAll_iff {k : String} {ps : List (String × α)} {m : TextMap α} :
    k ∈ keys (insertAll ps m) ↔ k ∈ ps.map Prod.fst ∨ k ∈ keys m := by
  induction ps generalizing m with
  | nil => simp [insertAll]
  | cons p rest ih =>
    show k ∈ keys (insertAll rest (insert p.1 p.2 m)) ↔ _
    rw [ih, mem_keys_insert_iff, List.map_cons, List.mem_cons]
    constructor
    · rintro (hrest | hp | hm)
      · exact .inl (.inr hrest)
      · exact .inl (.inl hp)
      · exact .inr hm
    · rintro ((hp | hrest) | hm)
      · exact .inr (.inl hp)
      · exact .inl hrest
      · exact .inr (.inr hm)

theorem Ordered.insert {m : TextMap α} (h : Ordered m) (k : String) (v : α) :
    Ordered (insert k v m) := by
  fun_induction TextMap.insert k v m with
  | case1 => exact ordered_cons_iff.2 ⟨by simp [keys], ordered_nil⟩
  | case2 w rest => exact h
  | case3 l w rest _ hlt =>
    have hl := (ordered_cons_iff.1 h).1
    refine ordered_cons_iff.2 ⟨fun j hj => ?_, h⟩
    rcases List.mem_cons.1 hj with rfl | hj
    · exact hlt
    · exact String.lt_trans hlt (hl j hj)
  | case4 l w rest hkl hlt ih =>
    -- The text goes somewhere behind `l`, which it does not come before.
    obtain ⟨hl, hrest⟩ := ordered_cons_iff.1 h
    refine ordered_cons_iff.2 ⟨fun j hj => ?_, ih hrest⟩
    rcases mem_keys_insert hj with rfl | hj
    · exact Std.lt_of_le_of_ne hlt (Ne.symm hkl)
    · exact hl j hj

theorem Ordered.retain {m : TextMap α} (h : Ordered m) (ks : List String) :
    Ordered (retain ks m) := by
  have hsublist : (keys (TextMap.retain ks m)).Sublist (keys m) := List.filter_sublist.map _
  exact List.Pairwise.sublist hsublist h

theorem Ordered.insertAll {m : TextMap α} (h : Ordered m) (ps : List (String × α)) :
    Ordered (insertAll ps m) := by
  induction ps generalizing m with
  | nil => exact h
  | cons p rest ih => exact ih (h.insert p.1 p.2)

end ObjectGateway.TextMap
