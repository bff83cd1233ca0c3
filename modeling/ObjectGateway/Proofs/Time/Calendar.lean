import Mathlib.Algebra.Ring.Nat
import ObjectGateway.Time.Civil

/-!
# The days of the calendar

The formula for the number of days to a date against the calendar itself: every year and every month
before it is counted with its days (`toDays_eq_count`).
-/

namespace ObjectGateway.Time

/-- The number of days in a year. -/
def yearLength (y : Int) : Nat := if isLeapYear y then 366 else 365

/-- The number of days from the first day of the year 0 to a date: the days of the years before,
those of the months before, and the days of the month before. -/
def Date.count (y m d : Nat) : Nat :=
  ((List.range y).map fun k : Nat => yearLength k).sum +
    ((List.range (m - 1)).map fun k => monthLength y (k + 1)).sum + (d - 1)

section Years

variable {y : Int}

theorem isLeapYear_iff : isLeapYear y = true ↔ y % 4 = 0 ∧ (y % 100 ≠ 0 ∨ y % 400 = 0) := by
  simp [isLeapYear]

theorem toDays_first_day : (⟨y, 1, 1⟩ : Date).toDays =
    (y - 1) / 400 * 146097 + (365 * ((y - 1) % 400) + (y - 1) % 400 / 4 - (y - 1) % 400 / 100) +
      306 - 719468 := by
  simp [Date.toDays, yearStart, eraDays, epochShift, monthStart]

theorem toDays_february : (⟨y, 2, 1⟩ : Date).toDays =
    (y - 1) / 400 * 146097 + (365 * ((y - 1) % 400) + (y - 1) % 400 / 4 - (y - 1) % 400 / 100) +
      337 - 719468 := by
  simp [Date.toDays, yearStart, eraDays, epochShift, monthStart]

/-- From March on, a year has its leap day behind it. -/
theorem toDays_march {m d : Nat} (hm : 3 ≤ m) : (⟨y, m, d⟩ : Date).toDays =
    y / 400 * 146097 + (365 * (y % 400) + y % 400 / 4 - y % 400 / 100) +
      (153 * ((m : Int) - 3) + 2) / 5 + ((d : Int) - 1) - 719468 := by
  have hnot : ¬ m ≤ 2 := Nat.not_le_of_lt hm
  simp only [Date.toDays, yearStart, eraDays, epochShift, monthStart, hnot, if_false, Int.sub_zero]

/-- A year is as long as the formula says. -/
theorem toDays_next_year :
    (⟨y + 1, 1, 1⟩ : Date).toDays = (⟨y, 1, 1⟩ : Date).toDays + yearLength y := by
  rw [toDays_first_day, toDays_first_day, Int.add_sub_cancel, yearLength]
  split
  · next hleap =>
    rw [isLeapYear_iff] at hleap
    omega
  · next hleap =>
    rw [isLeapYear_iff] at hleap
    omega

/-- A month is as long as the formula says. -/
theorem toDays_next_month {m : Nat} (hm : 1 ≤ m) (hm' : m < 12) :
    (⟨y, m + 1, 1⟩ : Date).toDays = (⟨y, m, 1⟩ : Date).toDays + monthLength y m := by
  obtain rfl | rfl | hlate : m = 1 ∨ m = 2 ∨ 3 ≤ m := by omega
  · simp [Date.toDays, monthStart, monthLength]
    omega
  · rw [toDays_march (Nat.le_refl 3), toDays_february, monthLength, if_pos rfl]
    split
    · next hleap =>
      rw [isLeapYear_iff] at hleap
      omega
    · next hleap =>
      rw [isLeapYear_iff] at hleap
      omega
  · rw [toDays_march hlate, toDays_march (Nat.le_succ_of_le hlate), monthLength,
      if_neg (Nat.ne_of_gt hlate)]
    obtain rfl | rfl | rfl | rfl | rfl | rfl | rfl | rfl | rfl :
      m = 3 ∨ m = 4 ∨ m = 5 ∨ m = 6 ∨ m = 7 ∨ m = 8 ∨ m = 9 ∨ m = 10 ∨ m = 11 := by omega
    all_goals
      simp
      omega

theorem toDays_day {m d : Nat} :
    (⟨y, m, d⟩ : Date).toDays = (⟨y, m, 1⟩ : Date).toDays + (d - 1) := by
  simp only [Date.toDays]
  omega

end Years

/-- The formula counts the days of the calendar. -/
theorem toDays_eq_count {y m d : Nat} (hm : 1 ≤ m) (hm' : m ≤ 12) (hd : 1 ≤ d) :
    (⟨y, m, d⟩ : Date).toDays = Date.count y m d - Date.count 1970 1 1 := by
  have hyear : (⟨y, 1, 1⟩ : Date).toDays =
      ((List.range y).map fun k : Nat => yearLength k).sum - Date.count 1970 1 1 := by
    induction y with
    | zero => decide +kernel
    | succ y ih =>
      rw [List.range_succ, List.map_append, List.sum_append, Int.natCast_succ, toDays_next_year, ih]
      simp only [List.map_cons, List.map_nil, List.sum_cons, List.sum_nil]
      omega
  have hmonth : (⟨y, m, 1⟩ : Date).toDays = (⟨y, 1, 1⟩ : Date).toDays +
      ((List.range (m - 1)).map fun k => monthLength y (k + 1)).sum := by
    induction m with
    | zero => cases hm
    | succ m ih =>
      cases m with
      | zero => simp
      | succ m =>
        have hrange : List.range (m + 1 + 1 - 1) = List.range (m + 1 - 1) ++ [m] := List.range_succ
        rw [toDays_next_month (by omega) (by omega), ih (by omega) (by omega), hrange,
          List.map_append, List.sum_append]
        simp only [List.map_cons, List.map_nil, List.sum_cons, List.sum_nil]
        omega
  have hcount : Date.count y m d = ((List.range y).map fun k : Nat => yearLength k).sum +
      ((List.range (m - 1)).map fun k => monthLength y (k + 1)).sum + (d - 1) := rfl
  rw [toDays_day, hmonth, hyear, hcount]
  omega

end ObjectGateway.Time
