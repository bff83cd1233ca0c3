import ObjectGateway.Proofs.Time.Calendar

/-!
# The date of a day

The formula for the date of a day against the calendar.  The day lies in a year that begins in March
and in a month of this year (`exists_ofDays`).  So its date is one of the calendar (`month_ofDays`,
`day_ofDays`), and the day is as many days away as this date is (`toDays_ofDays`).
-/

namespace ObjectGateway.Time

/-! ## Years and months from March on -/

/-- The centuries of an era have the same length, but for a day more at the end of the last. -/
theorem yearOfEra_century {d : Int} (h : 0 ≤ d ∧ d < eraDays) :
    yearOfEra d / 100 = min (d / 36524) 3 ∧ d / 146096 = d / 36524 / 4 := by
  unfold eraDays at h
  unfold yearOfEra
  omega

/-- The year of a day begins no later than the day, and it is not over then.  Its leap day is that
of the next year of the calendar. -/
theorem yearOfEra_bounds {d : Int} (h : 0 ≤ d ∧ d < eraDays) :
    (0 ≤ yearOfEra d ∧ yearOfEra d < 400) ∧ yearStart (yearOfEra d) ≤ d ∧
      d < yearStart (yearOfEra d) + yearLength (yearOfEra d + 1) := by
  obtain ⟨hcentury, hlast⟩ := yearOfEra_century h
  have hyear : 365 * yearOfEra d ≤ d - d / 1460 + d / 36524 - d / 146096 ∧
      d - d / 1460 + d / 36524 - d / 146096 < 365 * yearOfEra d + 365 := by
    unfold yearOfEra
    omega
  have hlength : (yearLength (yearOfEra d + 1) : Int) = if (yearOfEra d + 1) % 4 = 0 ∧
      ((yearOfEra d + 1) % 100 ≠ 0 ∨ (yearOfEra d + 1) % 400 = 0) then 366 else 365 := by
    simp only [yearLength, isLeapYear_iff]
    split <;> rfl
  rw [hlength]
  unfold eraDays at h
  unfold yearStart
  generalize yearOfEra d = y at *
  -- Leap years are told by the century and by the place of the year among four.
  have hd : d / 36524 = 0 ∨ d / 36524 = 1 ∨ d / 36524 = 2 ∨ d / 36524 = 3 ∨ d / 36524 = 4 := by
    omega
  have hy : y % 4 = 0 ∨ y % 4 = 1 ∨ y % 4 = 2 ∨ y % 4 = 3 := by omega
  rcases hd with hd | hd | hd | hd | hd <;> rcases hy with hy | hy | hy | hy <;> omega

theorem isLeapYear_add_era {y era : Int} : isLeapYear (y + era * 400) = isLeapYear y := by
  rw [Bool.eq_iff_iff, isLeapYear_iff, isLeapYear_iff]
  omega

theorem yearLength_le {y : Int} : 365 ≤ yearLength y ∧ yearLength y ≤ 366 := by
  unfold yearLength
  split <;> decide

/-- The number of a day tells an era, a year of it that begins in March, a month and a day of the
month, and the date is made of them. -/
theorem exists_ofDays (n : Int) : ∃ (y era : Int) (m day : Nat),
    (0 ≤ y ∧ y < 400) ∧ m ≤ 11 ∧ monthStart m + day < monthStart (m + 1) ∧
      monthStart m + day < yearLength (y + 1) ∧
      n = era * eraDays + yearStart y + monthStart m + day - epochShift ∧
      Date.ofDays n = if m < 10 then ⟨y + era * 400, m + 3, day + 1⟩
        else ⟨y + 1 + era * 400, m - 9, day + 1⟩ := by
  have hera : 0 ≤ (n + epochShift) % eraDays ∧ (n + epochShift) % eraDays < eraDays := by
    unfold eraDays
    omega
  have hn : (n + epochShift) / eraDays * eraDays + (n + epochShift) % eraDays = n + epochShift :=
    Int.ediv_mul_add_emod _ _
  obtain ⟨hy, hstart, hend⟩ := yearOfEra_bounds hera
  unfold Date.ofDays
  dsimp only
  generalize (n + epochShift) % eraDays = d at *
  generalize (n + epochShift) / eraDays = era at *
  generalize yearOfEra d = y at *
  have hlength : yearLength (y + 1) ≤ 366 := yearLength_le.2
  obtain ⟨m, hm⟩ : ∃ m : Nat, (m : Int) = (5 * (d - yearStart y) + 2) / 153 :=
    ⟨((5 * (d - yearStart y) + 2) / 153).toNat, by omega⟩
  have hmonth : monthStart m ≤ d - yearStart y ∧ d - yearStart y < monthStart (m + 1) := by
    unfold monthStart
    omega
  obtain ⟨day, hday⟩ : ∃ day : Nat, (day : Int) = d - yearStart y - monthStart m :=
    ⟨(d - yearStart y - monthStart m).toNat, by omega⟩
  rw [← hm, ← hday]
  refine ⟨y, era, m, day, hy, by omega, by omega, by omega, by omega, ?_⟩
  by_cases hlate : m < 10
  · have hshift : (m : Int) < 10 ∧ ¬(m : Int) + 3 ≤ 2 := by omega
    simp only [hshift, hlate, if_true, if_false, Date.mk.injEq]
    omega
  · have hshift : ¬(m : Int) < 10 ∧ (m : Int) - 9 ≤ 2 := by omega
    simp only [hshift, hlate, if_true, if_false, Date.mk.injEq]
    omega

/-! ## Dates -/

/-- The date of a day has the number of the day. -/
theorem toDays_ofDays (n : Int) : (Date.ofDays n).toDays = n := by
  obtain ⟨y, era, m, day, hy, hm, -, -, rfl, hdate⟩ := exists_ofDays n
  have hera : (y + era * 400) / 400 = era ∧ (y + era * 400) % 400 = y := by omega
  rw [hdate]
  by_cases hlate : m < 10
  · have hmonth : ¬m + 3 ≤ 2 ∧ ((m + 3 : Nat) : Int) - 3 = m := by omega
    simp only [Date.toDays, hlate, hmonth, hera, if_true, if_false, Int.sub_zero]
    omega
  · have hmonth : m - 9 ≤ 2 ∧ ((m - 9 : Nat) : Int) + 9 = m := by omega
    have hyear : y + 1 + era * 400 - 1 = y + era * 400 := by omega
    simp only [Date.toDays, hlate, hmonth, hyear, hera, if_true, if_false]
    omega

theorem month_ofDays (n : Int) : 1 ≤ (Date.ofDays n).month ∧ (Date.ofDays n).month ≤ 12 := by
  obtain ⟨y, era, m, day, -, hm, -, -, -, hdate⟩ := exists_ofDays n
  rw [hdate]
  split
  · dsimp only
    omega
  · dsimp only
    omega

/-- The days of a month are counted up to its length. -/
theorem day_ofDays (n : Int) : 1 ≤ (Date.ofDays n).day ∧
    (Date.ofDays n).day ≤ monthLength (Date.ofDays n).year (Date.ofDays n).month := by
  obtain ⟨y, era, m, day, -, hm, hmonth, hyear, -, hdate⟩ := exists_ofDays n
  rw [hdate]
  refine ⟨by split <;> exact Nat.le_add_left 1 day, ?_⟩
  unfold monthStart at hmonth hyear
  by_cases hlate : m < 10
  · simp only [hlate, if_true]
    obtain rfl | rfl | rfl | rfl | rfl | rfl | rfl | rfl | rfl | rfl : m = 0 ∨ m = 1 ∨ m = 2 ∨
      m = 3 ∨ m = 4 ∨ m = 5 ∨ m = 6 ∨ m = 7 ∨ m = 8 ∨ m = 9 := by omega
    all_goals
      simp [monthLength]
      omega
  · simp only [hlate, if_false]
    obtain rfl | rfl : m = 10 ∨ m = 11 := by omega
    · simp [monthLength]
      omega
    · -- February is as long as is left of the year that began in March.
      have hleap : isLeapYear (y + 1 + era * 400) = isLeapYear (y + 1) := isLeapYear_add_era
      have hlength : (yearLength (y + 1) : Int) = monthLength (y + 1 + era * 400) 2 + 337 := by
        rw [yearLength, monthLength, if_pos rfl, hleap]
        split <;> rfl
      change day + 1 ≤ monthLength (y + 1 + era * 400) 2
      omega

end ObjectGateway.Time
