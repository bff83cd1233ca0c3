import ObjectGateway.Proofs.Failure
import ObjectGateway.Proofs.Timespan.Components

/-!
# Where a fraction is cut

A fraction is cut after nine octets, and reading aborts where this splits a character:
`parse_eq_aborted_iff` names the component that makes it abort.  A cut splits a character exactly
where no number of characters has nine octets, `cut?_eq_none_iff`, so that no cut among ASCII digits
does: `parse_ne_aborted`.
-/

namespace ObjectGateway.Timespan

variable {c : Component} {cs : List Char} {raw : String}

/-! ## Cuts inside a character -/

/-- The octets of some characters. -/
def octets (cs : List Char) : Nat := (cs.map Char.utf8Size).sum

@[simp] theorem octets_nil : octets [] = 0 := rfl

@[simp] theorem octets_cons (x : Char) (cs : List Char) :
    octets (x :: cs) = x.utf8Size + octets cs := List.sum_cons

/-- The octet behind the ninth one belongs to the same character. -/
def SplitsCharacter (cs : List Char) : Prop := 9 < octets cs ∧ ∀ k, octets (cs.take k) ≠ 9

/-- A cut after `n` octets fails where a text goes on and none of its beginnings has `n` octets. -/
theorem cut?_eq_none_iff {n : Nat} :
    cut? n cs = none ↔ n < octets cs ∧ ∀ k, octets (cs.take k) ≠ n := by
  induction cs generalizing n with
  | nil =>
    cases n <;> simp [cut?]
  | cons x cs ih =>
    cases n with
    | zero =>
      have hstart : cut? 0 (x :: cs) = some [] := rfl
      rw [hstart]
      exact iff_of_false (by simp) fun h => h.2 0 rfl
    | succ n =>
      have hcut : cut? (n + 1) (x :: cs) =
          if x.utf8Size ≤ n + 1 then (cut? (n + 1 - x.utf8Size) cs).map (x :: ·) else none := rfl
      -- The empty beginning has no octets; every other one has those of the first character.
      have hprefixes : (∀ k, octets ((x :: cs).take k) ≠ n + 1) ↔
          ∀ k, x.utf8Size + octets (cs.take k) ≠ n + 1 := by
        refine ⟨fun h k => by simpa using h (k + 1), fun h k => ?_⟩
        cases k with
        | zero => simp
        | succ k => simpa using h k
      rw [hcut, hprefixes, octets_cons]
      split
      · next hsize =>
        rw [Option.map_eq_none_iff, ih]
        refine and_congr (by omega) (forall_congr' fun k => ?_)
        omega
      · next hsize =>
        refine iff_of_true rfl ⟨by omega, fun k => by omega⟩

theorem octets_take (hcs : AllDigits cs) (k : Nat) :
    octets (cs.take k) = min k cs.length := by
  induction cs generalizing k with
  | nil => simp
  | cons x cs ih =>
    cases k with
    | zero => simp
    | succ k =>
      have hrest := ih (fun y hy => hcs y (List.mem_cons_of_mem x hy)) k
      rw [List.take_succ_cons, octets_cons, utf8Size_of_isDigit (hcs x List.mem_cons_self), hrest,
        List.length_cons]
      omega

/-- No cut among ASCII digits splits a character. -/
theorem not_splitsCharacter (hcs : AllDigits cs) : ¬SplitsCharacter cs := by
  rintro ⟨hlong, hnone⟩
  have hall : octets cs = cs.length := by
    have htake := octets_take hcs cs.length
    rwa [List.take_length, Nat.min_self] at htake
  have hnine := hnone 9
  rw [octets_take hcs] at hnine
  omega

/-! ## The component that makes reading abort -/

/-- The unit and the number in front of the point can be read, and a character of the fraction is
split. -/
structure Component.Aborts (c : Component) : Prop where
  unit : ∃ t, readList ('1' :: c.unit) = .ok t
  whole : ∃ n, wholeNumber c.whole = .ok n
  fraction : SplitsCharacter c.fraction

theorem wholeNumber_ne_splitCharacter (ds : List Char) :
    wholeNumber ds ≠ .error .splitCharacter := by
  rw [wholeNumber]
  split
  · rintro ⟨⟩
  · cases number? ds <;> rintro ⟨⟩

theorem Component.nanos_eq_splitCharacter_iff : c.nanos = .error .splitCharacter ↔ c.Aborts := by
  rw [Component.nanos_eq]
  cases hunit : readList ('1' :: c.unit) with
  | error e =>
    refine iff_of_false (by rintro ⟨⟩) fun h => ?_
    obtain ⟨t, ht⟩ := h.unit
    cases hunit.symm.trans ht
  | ok unit =>
    show (wholeNumber c.whole >>= _) = _ ↔ _
    cases hwhole : wholeNumber c.whole with
    | error e =>
      refine iff_of_false ?_ fun h => ?_
      · rintro ⟨⟩
        exact wholeNumber_ne_splitCharacter _ hwhole
      · obtain ⟨n, hn⟩ := h.whole
        cases hwhole.symm.trans hn
    | ok whole =>
      show (keptDigits c.fraction >>= _) = _ ↔ _
      cases hcut : cut? 9 c.fraction with
      | none =>
        have hsplits : SplitsCharacter c.fraction := cut?_eq_none_iff.1 hcut
        rw [keptDigits, hcut]
        exact iff_of_true rfl ⟨⟨unit, hunit⟩, ⟨whole, hwhole⟩, hsplits⟩
      | some digits =>
        refine iff_of_false ?_ fun h => ?_
        · rw [keptDigits, hcut]
          show (fractionNumber digits >>= _) ≠ _
          rw [fractionNumber]
          cases number? digits with
          | none => rintro ⟨⟩
          | some n =>
            show scaled _ _ _ _ ≠ _
            unfold scaled
            dsimp only
            split <;> rintro ⟨⟩
        · cases hcut.symm.trans (cut?_eq_none_iff.2 h.fraction)

theorem failure_eq_aborted_iff {e : FractionError} :
    e.failure raw = .aborted ↔ e = .splitCharacter := by
  cases e <;> simp [FractionError.failure, invalid]

theorem failure_eq {e : FractionError} :
    e.failure raw = .aborted ∨ ∃ reason, e.failure raw = invalid raw reason := by
  cases e with
  | splitCharacter => exact .inl rfl
  | unit e => exact .inr ⟨_, rfl⟩
  | tooLarge => exact .inr ⟨_, rfl⟩
  | invalidFraction => exact .inr ⟨_, rfl⟩

/-- Reading aborts where replacing does. -/
theorem parse_eq_aborted_iff_expand :
    parse raw = .error .aborted ↔
      expand (Text.trimList Text.isBlank raw.toList) = .error .splitCharacter := by
  rw [parse_eq]
  dsimp only
  split
  · next hzero =>
    -- The text `0` has no point, so there is nothing to replace in it.
    have hnone : '.' ∉ ['0'] := by decide
    rw [hzero, expand_eq_self hnone]
    exact iff_of_false (by rintro ⟨⟩) (by rintro ⟨⟩)
  · cases expand (Text.trimList Text.isBlank raw.toList) with
    | error e =>
      show Except.error (e.failure raw) = .error .aborted ↔ _
      rw [Except.error.injEq, Except.error.injEq, failure_eq_aborted_iff]
    | ok out =>
      refine iff_of_false ?_ (by rintro ⟨⟩)
      show (readList out).mapError (fun e => invalid raw e.message) ≠ _
      cases readList out <;> rintro ⟨⟩

/-- Reading aborts at the first component that cannot be replaced, if a character of it is split. -/
theorem parse_eq_aborted_iff :
    parse raw = .error .aborted ↔
      ∃ before c after,
        components (Text.trimList Text.isBlank raw.toList) = before ++ c :: after ∧
          (∀ b ∈ before, ∃ n, b.nanos = .ok n) ∧ c.Aborts := by
  have hpassed (b : Component) : b.refusal = none ↔ ∃ n, b.nanos = .ok n := by
    rw [Component.refusal]
    cases b.nanos <;> simp
  have hrefused (b : Component) : b.refusal = some .splitCharacter ↔ b.Aborts := by
    rw [← Component.nanos_eq_splitCharacter_iff, Component.refusal]
    cases b.nanos <;> simp
  rw [parse_eq_aborted_iff_expand, expand_eq_error_iff, List.findSome?_eq_some_iff]
  simp only [hpassed, hrefused]
  constructor
  · rintro ⟨before, c, after, hsplit, haborts, hbefore⟩
    exact ⟨before, c, after, hsplit, hbefore, haborts⟩
  · rintro ⟨before, c, after, hsplit, hbefore, haborts⟩
    exact ⟨before, c, after, hsplit, haborts, hbefore⟩

/-- Every other failure names the text. -/
theorem parse_failsOnly (raw : String) :
    FailsOnly (fun f => f = .aborted ∨ ∃ reason, f = invalid raw reason) (parse raw) := by
  rw [parse_eq]
  dsimp only
  split
  · exact failsOnly_ok _
  · refine FailsOnly.bind ?_ fun out => ?_
    · cases expand (Text.trimList Text.isBlank raw.toList) with
      | error e => exact failsOnly_error failure_eq
      | ok out => exact failsOnly_ok out
    · cases readList out with
      | error e => exact failsOnly_error (.inr ⟨_, rfl⟩)
      | ok t => exact failsOnly_ok t

/-! ## Texts with ASCII digits -/

/-- A component of a text matches the pattern, and the digits of its fraction stand in the text. -/
theorem matches_of_mem_components (h : c ∈ components cs) :
    c.Matches ∧ ∀ x ∈ c.fraction, x ∈ cs := by
  induction cs using components.induct with
  | case1 cs c' rest htake ih =>
    rw [components_of_take? htake] at h
    obtain ⟨hmatches, rfl, -⟩ := take?_eq_some_iff.1 htake
    obtain rfl | hrest := List.mem_cons.1 h
    · refine ⟨hmatches, fun x hx => ?_⟩
      simp [Component.text, hx]
    · obtain ⟨hmatches', hmem⟩ := ih hrest
      exact ⟨hmatches', fun x hx => List.mem_append_right _ (hmem x hx)⟩
  | case2 htake =>
    rw [components_nil] at h
    cases h
  | case3 x cs htake ih =>
    rw [components_cons htake] at h
    obtain ⟨hmatches, hmem⟩ := ih h
    exact ⟨hmatches, fun y hy => List.mem_cons_of_mem x (hmem y hy)⟩

/-- Reading does not abort where all decimal digits of a text are ASCII. -/
theorem parse_ne_aborted (h : ∀ x ∈ raw.toList, Text.isDecimalDigit x = true → x.isDigit = true) :
    parse raw ≠ .error .aborted := by
  intro haborted
  obtain ⟨before, c, after, hsplit, -, haborts⟩ := parse_eq_aborted_iff.1 haborted
  obtain ⟨hmatches, hmem⟩ :=
    matches_of_mem_components (hsplit ▸ List.mem_append_right before List.mem_cons_self)
  refine not_splitsCharacter (fun x hx => ?_) haborts.fraction
  exact h x (Text.mem_of_mem_trimList (hmem x hx)) (hmatches.fraction x hx)

end ObjectGateway.Timespan
