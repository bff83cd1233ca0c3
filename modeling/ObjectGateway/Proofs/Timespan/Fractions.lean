import ObjectGateway.Proofs.Timespan.Components
import ObjectGateway.Proofs.Timespan.Reading

/-!
# Numbers with a fraction

Nine digits of a fraction are looked at: `Part.cut` is the part that they write, and a part with a
fraction is replaced by the nanoseconds of its cut, exactly: `Part.component_nanos`.

A cut changes nothing for at most nine digits, and nothing for a unit up to the second, since the
tenth digit is worth less than a nanosecond there.  For longer units it loses less than the unit
has seconds: `Part.nanos_lt_cut`.
-/

namespace ObjectGateway.Timespan

variable {ds : List Char}

/-- A second has a whole number of each unit up to it. -/
theorem TimeUnit.dvd_second {u : TimeUnit} (h : u.nanos ≤ nanosPerSecond) :
    u.nanos ∣ nanosPerSecond := by
  revert h
  cases u <;> decide

/-- A longer unit has a whole number of seconds. -/
theorem TimeUnit.second_dvd {u : TimeUnit} (h : nanosPerSecond < u.nanos) :
    nanosPerSecond ∣ u.nanos := by
  revert h
  cases u <;> decide

namespace Part

/-! ## Nine digits of a fraction -/

/-- The part with at most nine digits behind the point. -/
def cut (p : Part) : Part where
  whole := p.whole
  places := p.places.map (·.take 9)
  name := p.name
  unit := p.unit
  allDigits_whole := p.allDigits_whole
  whole_ne_nil h := p.whole_ne_nil (Option.map_eq_none_iff.1 h)
  allDigits_places ds hds := by
    obtain ⟨all, hall, rfl⟩ := Option.map_eq_some_iff.1 hds
    exact fun c hc => p.allDigits_places all hall c (List.mem_of_mem_take hc)
  places_ne_nil ds hds := by
    obtain ⟨all, hall, rfl⟩ := Option.map_eq_some_iff.1 hds
    simpa [List.take_eq_nil_iff] using p.places_ne_nil all hall
  ofText?_name := p.ofText?_name

theorem digits_cut (p : Part) : p.cut.digits = p.digits.take 9 := by
  cases h : p.places with
  | none => simp [digits, cut, h]
  | some ds => simp [digits, cut, h]

theorem cut_eq_self {p : Part} (h : p.digits.length ≤ 9) : p.cut = p := by
  cases p with
  | mk whole places =>
    cases places with
    | none => rfl
    | some ds =>
      have htake : ds.take 9 = ds := List.take_of_length_le h
      simp [cut, htake]

theorem allDigits_digits (p : Part) : AllDigits p.digits := by
  cases h : p.places with
  | none =>
    simp [digits, h, AllDigits]
  | some ds =>
    rw [digits, h]
    exact p.allDigits_places ds h

/-- The digits behind the ninth one add less than one unit, before the division by the power of ten
that belongs to nine digits. -/
theorem exists_nanos_eq (p : Part) :
    ∃ lost < p.unit.nanos, p.nanos =
      (p.unit.nanos * numeral (p.whole ++ p.cut.digits) + lost) / 10 ^ p.cut.digits.length := by
  have hlost : numeral (p.digits.drop 9) < 10 ^ (p.digits.drop 9).length :=
    numeral_lt fun c hc => p.allDigits_digits c (List.mem_of_mem_drop hc)
  have hpower : 0 < 10 ^ (p.digits.drop 9).length := by positivity
  have hnumeral : numeral (p.whole ++ p.digits) =
      numeral (p.whole ++ p.cut.digits) * 10 ^ (p.digits.drop 9).length +
        numeral (p.digits.drop 9) := by
    rw [digits_cut, ← numeral_append, List.append_assoc, List.take_append_drop]
  have hlength : p.digits.length = (p.digits.drop 9).length + p.cut.digits.length := by
    rw [digits_cut, Nat.add_comm, ← List.length_append, List.take_append_drop]
  -- They write a number below the power of ten that belongs to them.
  refine ⟨p.unit.nanos * numeral (p.digits.drop 9) / 10 ^ (p.digits.drop 9).length, ?_, ?_⟩
  · rw [Nat.div_lt_iff_lt_mul hpower]
    exact Nat.mul_lt_mul_of_pos_left hlost (TimeUnit.nanos_pos p.unit)
  · rw [nanos_eq, hnumeral, Nat.mul_add, ← Nat.mul_assoc, hlength, Nat.pow_add,
      ← Nat.div_div_eq_div_mul, Nat.add_comm (_ * _) (_ * numeral (p.digits.drop 9)),
      Nat.add_mul_div_right _ _ hpower, Nat.add_comm]

theorem nanos_cut (p : Part) :
    p.cut.nanos = p.unit.nanos * numeral (p.whole ++ p.cut.digits) / 10 ^ p.cut.digits.length :=
  nanos_eq p.cut

theorem cut_nanos_le (p : Part) : p.cut.nanos ≤ p.nanos := by
  obtain ⟨lost, -, hnanos⟩ := p.exists_nanos_eq
  rw [nanos_cut, hnanos]
  exact Nat.div_le_div_right (Nat.le_add_right _ _)

theorem length_cut {p : Part} (h : 9 ≤ p.digits.length) : p.cut.digits.length = 9 := by
  rw [digits_cut, List.length_take, Nat.min_eq_left h]

/-- Nine digits are enough for units up to the second. -/
theorem nanos_cut_of_le_second {p : Part} (h : p.unit.nanos ≤ nanosPerSecond) :
    p.cut.nanos = p.nanos := by
  by_cases hlength : p.digits.length ≤ 9
  · rw [cut_eq_self hlength]
  · obtain ⟨lost, hlost, hnanos⟩ := p.exists_nanos_eq
    obtain ⟨k, hk⟩ := TimeUnit.dvd_second h
    have hpower : 10 ^ 9 = p.unit.nanos * k := hk
    have hpos := TimeUnit.nanos_pos p.unit
    rw [nanos_cut, hnanos, length_cut (by omega), hpower, ← Nat.div_div_eq_div_mul,
      ← Nat.div_div_eq_div_mul, Nat.mul_div_cancel_left _ hpos, Nat.add_comm,
      Nat.add_mul_div_left _ _ hpos, Nat.div_eq_of_lt hlost, Nat.zero_add]

/-- For longer units, a cut loses less than the unit has seconds. -/
theorem nanos_lt_cut {p : Part} (h : nanosPerSecond < p.unit.nanos) :
    p.nanos < p.cut.nanos + p.unit.nanos / nanosPerSecond := by
  have hsecond : 0 < nanosPerSecond := by decide
  by_cases hlength : p.digits.length ≤ 9
  · rw [cut_eq_self hlength]
    exact Nat.lt_add_of_pos_right (Nat.div_pos (Nat.le_of_lt h) hsecond)
  · obtain ⟨lost, hlost, hnanos⟩ := p.exists_nanos_eq
    obtain ⟨k, hk⟩ := TimeUnit.second_dvd h
    have hpower : 10 ^ 9 = nanosPerSecond := rfl
    have hless : lost / nanosPerSecond < k := by
      rwa [Nat.div_lt_iff_lt_mul hsecond, Nat.mul_comm, ← hk]
    rw [nanos_cut, hnanos, length_cut (by omega), hpower, hk, Nat.mul_assoc,
      Nat.mul_div_cancel_left _ hsecond, Nat.mul_div_cancel_left _ hsecond, Nat.add_comm,
      Nat.add_mul_div_left _ _ hsecond]
    omega

end Part

/-! ## Numbers without a fraction -/

section Number

variable {name : String} {u : TimeUnit}

/-- A number of units. -/
def Part.ofNumber (n : Nat) (h : TimeUnit.ofText? name = some u) : Part where
  whole := Nat.toDigits 10 n
  places := none
  name := name
  unit := u
  allDigits_whole := allDigits_toDigits n
  whole_ne_nil _ := Nat.toDigits_ne_nil
  allDigits_places := by simp
  places_ne_nil := by simp
  ofText?_name := h

namespace Part

theorem isWhole_ofNumber (n : Nat) (h : TimeUnit.ofText? name = some u) : (ofNumber n h).IsWhole :=
  rfl

theorem nanos_ofNumber (n : Nat) (h : TimeUnit.ofText? name = some u) :
    (ofNumber n h).nanos = u.nanos * n := by
  rw [nanos_of_isWhole (isWhole_ofNumber n h)]
  exact congrArg (u.nanos * ·) (numeral_toDigits n)

theorem text_ofNumber (n : Nat) (h : TimeUnit.ofText? name = some u) :
    (ofNumber n h).text = Nat.toDigits 10 n ++ name.toList :=
  congrArg (· ++ name.toList) (List.append_nil (Nat.toDigits 10 n))

end Part

/-- The name of a unit behind a one is read as the unit. -/
theorem readList_unit (h : TimeUnit.ofText? name = some u) :
    readList ('1' :: name.toList) = .ok ⟨u.nanos⟩ := by
  have htotal : total [Part.ofNumber 1 h] = u.nanos := by
    rw [total_cons, total_nil, Part.nanos_ofNumber, Nat.mul_one, Nat.add_zero]
  have hbound : u.nanos < wordBound := by cases u <;> decide
  have hread : readList (written [Part.ofNumber 1 h]) = .ok ⟨total [Part.ofNumber 1 h]⟩ :=
    readList_written (List.cons_ne_nil _ _) (by simp [Part.isWhole_ofNumber]) (by rwa [htotal])
  rwa [htotal, written_cons, written_nil, List.append_nil, Part.text_ofNumber] at hread

end Number

/-! ## One component -/

namespace Part

/-- What the pattern finds of a part with a fraction. -/
def component (p : Part) : Component := ⟨p.whole, p.digits, p.name.toList⟩

theorem text_of_places {p : Part} (h : p.places = some ds) : p.text = p.component.text := by
  simp [text, component, Component.text, digits, h]

theorem component_matches {p : Part} (h : p.places = some ds) : p.component.Matches where
  whole := fun d hd => isDecimalDigit_of_isDigit (p.allDigits_whole d hd)
  fraction := fun d hd => isDecimalDigit_of_isDigit (p.allDigits_digits d hd)
  fraction_ne_nil := by
    rw [component, digits, h]
    exact p.places_ne_nil ds h
  unit := (TimeUnit.letters_of_ofText? p.ofText?_name).2
  unit_ne_nil := (TimeUnit.letters_of_ofText? p.ofText?_name).1

end Part

/-- A cut after some octets of ASCII digits is a cut after as many digits. -/
theorem cut?_eq (hds : AllDigits ds) (n : Nat) : cut? n ds = some (ds.take n) := by
  induction ds generalizing n with
  | nil => cases n <;> rfl
  | cons d ds ih =>
    have hsize := utf8Size_of_isDigit (hds d List.mem_cons_self)
    have hrest := ih (fun d' hd' => hds d' (List.mem_cons_of_mem d hd'))
    cases n with
    | zero => rfl
    | succ n =>
      rw [cut?, hsize, if_pos (Nat.succ_le_succ (Nat.zero_le n)), Nat.add_sub_cancel, hrest]
      · rfl
      · exact Nat.succ_ne_zero n

/-- A number in front of a point is refused at the bound of two words. -/
theorem wholeNumber_eq (hds : AllDigits ds) :
    wholeNumber ds =
      if numeral ds < doubleWordBound then .ok (numeral ds) else .error .tooLarge := by
  cases ds with
  | nil => rfl
  | cons d ds =>
    rw [wholeNumber, number?_eq (List.cons_ne_nil d ds) hds]
    by_cases h : numeral (d :: ds) < doubleWordBound
    · rw [if_pos h, if_pos h]
      rfl
    · rw [if_neg h, if_neg h]
      rfl

namespace Part

theorem nanos_eq_add (p : Part) :
    p.nanos = p.unit.nanos * numeral p.whole +
      p.unit.nanos * numeral p.digits / 10 ^ p.digits.length := by
  have hpower : 0 < 10 ^ p.digits.length := by positivity
  rw [nanos_eq, numeral_append, Nat.mul_add, ← Nat.mul_assoc, Nat.add_comm,
    Nat.add_mul_div_right _ _ hpower, Nat.add_comm]

/-- The product of a unit and nine digits has two words. -/
theorem product_lt (p : Part) : p.unit.nanos * numeral p.cut.digits < doubleWordBound := by
  have hunit : p.unit.nanos ≤ 31557600 * 1000000000 := by cases p.unit <;> decide
  have hlength : p.cut.digits.length ≤ 9 := by
    rw [digits_cut]
    exact List.length_take_le 9 p.digits
  have hnumeral : numeral p.cut.digits < 10 ^ 9 :=
    Nat.lt_of_lt_of_le (numeral_lt p.cut.allDigits_digits)
      (Nat.pow_le_pow_right (by decide) hlength)
  calc p.unit.nanos * numeral p.cut.digits
      ≤ 31557600 * 1000000000 * 10 ^ 9 := Nat.mul_le_mul hunit (Nat.le_of_lt hnumeral)
    _ < doubleWordBound := by decide

/-- A component is replaced by the nanoseconds of its cut, unless they reach the bound of two
words. -/
theorem component_nanos {p : Part} (h : p.places = some ds) :
    p.component.nanos =
      if p.cut.nanos < doubleWordBound then .ok p.cut.nanos else .error .tooLarge := by
  have hne : p.cut.digits ≠ [] := p.cut.places_ne_nil _ (by simp [cut, digits, h])
  have hkept : keptDigits p.digits = .ok p.cut.digits := by
    rw [keptDigits, cut?_eq p.allDigits_digits, digits_cut]
    rfl
  have hnumber : fractionNumber p.cut.digits = .ok (numeral p.cut.digits) := by
    have hless := Nat.lt_of_le_of_lt
      (Nat.le_mul_of_pos_left (numeral p.cut.digits) (TimeUnit.nanos_pos p.unit)) p.product_lt
    rw [fractionNumber, number?_eq hne p.cut.allDigits_digits, if_pos hless]
    rfl
  have hsum : p.unit.nanos * numeral p.whole +
      p.unit.nanos * numeral p.cut.digits / Nat.pow 10 p.cut.digits.length = p.cut.nanos :=
    p.cut.nanos_eq_add.symm
  -- Each number that is checked on the way is part of the sum, so the sum alone decides.
  have hwhole : p.unit.nanos * numeral p.whole ≤ p.cut.nanos := hsum ▸ Nat.le_add_right _ _
  have hless : numeral p.whole ≤ p.unit.nanos * numeral p.whole :=
    Nat.le_mul_of_pos_left _ (TimeUnit.nanos_pos p.unit)
  rw [Component.nanos_eq, component, readList_unit p.ofText?_name, wholeNumber_eq p.allDigits_whole,
    hkept]
  by_cases hbound : numeral p.whole < doubleWordBound
  · rw [if_pos hbound]
    show (do scaled p.unit.nanos (numeral p.whole) (← fractionNumber p.cut.digits) _) = _
    rw [hnumber]
    show scaled p.unit.nanos (numeral p.whole) (numeral p.cut.digits) _ = _
    simp only [scaled, hsum]
    have hiff : p.unit.nanos * numeral p.whole < doubleWordBound ∧ p.cut.nanos < doubleWordBound ↔
        p.cut.nanos < doubleWordBound := by omega
    rw [if_congr hiff rfl rfl]
  · have hcut : ¬p.cut.nanos < doubleWordBound := by omega
    rw [if_neg hbound, if_neg hcut]
    rfl

end Part

end ObjectGateway.Timespan
