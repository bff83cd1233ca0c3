import Mathlib.Data.Nat.Digits.Defs
import ObjectGateway.Proofs.Time.Dates
import ObjectGateway.Proofs.Time.Timestamps

/-!
# The dates of headers

The date of a header is written with all its parts at their full width, the weekday and the zone
among them, and the reader of such dates takes every part back (`readHeaderDate_text`).  So the date
of an instant is read as the instant, but for the fraction of a second, which is not written:
`readHeaderDate_httpDate`.
-/

namespace ObjectGateway.Time

open Timespan (numeral numeral_append numeral_cons numeral_toDigits allDigits_toDigits
  isBlank_eq_false digitValue)
open Instant (padded)

variable {rest ds : List Char} {k n width : Nat}

/-! ## Numbers -/

theorem numeral_replicate_zero (k : Nat) : numeral (List.replicate k '0') = 0 := by
  induction k with
  | zero => rfl
  | succ k ih =>
    have hzero : digitValue '0' = 0 := rfl
    rw [List.replicate_succ, numeral_cons, hzero, ih, Nat.zero_mul]

/-- A number that is padded with zeros has as many digits as it is to have. -/
theorem digits_padded (hwidth : 0 < width) (h : n < 10 ^ width) :
    Digits width n (padded width n).toList := by
  have hlength : (Nat.toDigits 10 n).length ≤ width := Nat.toDigits_length 10 n width hwidth h
  rw [padded, String.toList_ofList]
  refine ⟨?_, fun c hc => ?_, ?_⟩
  · rw [List.length_append, List.length_replicate]
    omega
  · rcases List.mem_append.1 hc with hc | hc
    · rw [List.eq_of_mem_replicate hc]
      rfl
    · exact allDigits_toDigits n c hc
  · rw [numeral_append, numeral_replicate_zero, numeral_toDigits, Nat.zero_mul, Nat.zero_add]

theorem skipBlanks_digits (h : Digits (k + 1) n ds) (rest : List Char) :
    skipBlanks (ds ++ rest) = ds ++ rest := by
  obtain ⟨c, ds, rfl⟩ := List.exists_cons_of_length_eq_add_one h.width
  have hc : c.isDigit = true := h.digits c List.mem_cons_self
  refine Text.dropWhile_eq_self ?_
  rintro _ ⟨⟩
  exact isBlank_eq_false (.inr hc)

/-- A number that may have one digit or two is read to its end where it has two. -/
theorem readIn_two {low high : Nat} (h : Digits 2 n ds) (hrange : low ≤ n ∧ n ≤ high)
    (rest : List Char) : readIn low high 1 2 (ds ++ rest) = .ok (n, rest) := by
  have hlead : lead 2 (ds ++ rest) = ds :=
    lead_append h.digits (Nat.le_of_eq h.width) (.inl h.width)
  have hnumber : readNumber 1 2 (ds ++ rest) = .ok (n, rest) := by
    rw [readNumber_eq_ok_iff (by decide), hlead, h.width, List.drop_left' h.width]
    exact ⟨by decide, h.value.symm, rfl⟩
  unfold readIn
  rw [hnumber]
  exact if_pos hrange

/-- A year of four digits is no short one. -/
theorem readYear_four (h : Digits 4 n ds) (hrest : ∀ x ∈ rest.head?, x.isDigit = false) :
    readYear (ds ++ rest) = .ok (n, rest) := by
  have hsmall : n < 10 ^ 4 := h.lt
  have hlead : lead (ds ++ rest).length (ds ++ rest) = ds :=
    lead_append h.digits (by simp) (.inr hrest)
  have hbound : numeral (lead (ds ++ rest).length (ds ++ rest)) < numberBound := by
    rw [hlead, h.value]
    exact Nat.lt_trans hsmall (by decide)
  have hnumber : readNumber 2 (ds ++ rest).length (ds ++ rest) = .ok (n, rest) := by
    rw [readNumber_eq_ok_iff_of_lt hbound, hlead, h.width, List.drop_left' h.width]
    exact ⟨by decide, h.value.symm, rfl⟩
  have hcount : (ds ++ rest).length - rest.length = 4 := by
    rw [List.length_append, h.width, Nat.add_sub_cancel]
  unfold readYear
  rw [hnumber]
  simp only [bind, Except.bind, hcount]
  exact if_pos (Nat.lt_trans hsmall (by decide))

/-! ## Names -/

/-- A name has a place in a list and is read as it is written. -/
structure IsName (names : List String) (i : Nat) (name : String) : Prop where
  found : names.findIdx? (Text.eqIgnoringCase · name) = some i
  length : name.toList.length = 3
  head : name.toList.head?.map Text.isBlank = some false

theorem isName_getD {names : List String} (h : names ∈ [weekdayNames, monthNames]) {i : Nat}
    (hi : i < names.length) : IsName names i (names.getD i "") := by
  have hall : ∀ names ∈ [weekdayNames, monthNames], ∀ i < names.length,
      let name := names.getD i ""
      names.findIdx? (Text.eqIgnoringCase · name) = some i ∧ name.toList.length = 3 ∧
        name.toList.head?.map Text.isBlank = some false := by decide +kernel
  obtain ⟨hfound, hlength, hhead⟩ := hall names h i hi
  exact ⟨hfound, hlength, hhead⟩

section Names

variable {names : List String} {name : String} {i : Nat}

theorem IsName.readName (h : IsName names i name) (rest : List Char) :
    readName names (name.toList ++ rest) = .ok (i, rest) := by
  have hoctets : ¬octets (name.toList ++ rest) < 3 := by
    have hle := length_le_octets (name.toList ++ rest)
    rw [List.length_append, h.length] at hle
    omega
  rw [Time.readName, if_neg hoctets, List.take_left' h.length, String.ofList_toList, h.found,
    List.drop_left' h.length]

theorem IsName.skipBlanks (h : IsName names i name) (rest : List Char) :
    skipBlanks (name.toList ++ rest) = name.toList ++ rest := by
  have hne : name.toList ≠ [] := List.ne_nil_of_length_eq_add_one h.length
  refine Text.dropWhile_eq_self fun c hc => ?_
  rw [List.head?_append_of_ne_nil _ hne] at hc
  have hhead := h.head
  rw [Option.mem_def.1 hc] at hhead
  exact Option.some.inj hhead

end Names

/-! ## The whole -/

theorem skipBlanks_space (rest : List Char) : skipBlanks (' ' :: rest) = skipBlanks rest := by
  rw [skipBlanks, List.dropWhile_cons_of_pos (by decide), skipBlanks]

theorem readBlanks_space (rest : List Char) : readBlanks (' ' :: rest) = .ok (skipBlanks rest) :=
  rfl

section Text

variable {w m year day hour minute second : Nat} {ys hs ps ss : List Char}

theorem readHeaderClock_text (hhour : Digits 2 hour hs) (hminute : Digits 2 minute ps)
    (hsecond : Digits 2 second ss) (hclock : hour ≤ 23 ∧ minute ≤ 59 ∧ second ≤ 60) :
    readHeaderClock (hs ++ ':' :: (ps ++ ':' :: (ss ++ rest))) =
      .ok ((hour, minute, second), rest) := by
  obtain ⟨hhours, hminutes, hseconds⟩ := hclock
  have hreadHour : readIn 0 23 2 2 (hs ++ ':' :: (ps ++ ':' :: (ss ++ rest))) =
      .ok (hour, ':' :: (ps ++ ':' :: (ss ++ rest))) :=
    (readIn_reads (by decide)).2 ⟨hs, ⟨hhour, Nat.zero_le _, hhours⟩, rfl⟩
  have hreadMinute : readIn 0 59 2 2 (ps ++ ':' :: (ss ++ rest)) =
      .ok (minute, ':' :: (ss ++ rest)) :=
    (readIn_reads (by decide)).2 ⟨ps, ⟨hminute, Nat.zero_le _, hminutes⟩, rfl⟩
  have hreadSecond : readIn 0 60 2 2 (ss ++ rest) = .ok (second, rest) :=
    (readIn_reads (by decide)).2 ⟨ss, ⟨hsecond, Nat.zero_le _, hseconds⟩, rfl⟩
  have hcolon (cs : List Char) : readChar ':' (skipBlanks (':' :: cs)) = .ok cs := by
    rw [skipBlanks, List.dropWhile_cons_of_neg (by decide)]
    rfl
  unfold readHeaderClock
  simp only [hreadHour, hreadMinute, hreadSecond, hcolon, skipBlanks_digits hminute, bind,
    Except.bind]

/-- Every part of a date that is written at its full width is read back. -/
theorem readHeaderDate_text (hw : w < 7) (hm : m < 12) (hday : Digits 2 day ds)
    (hyear : Digits 4 year ys) (hhour : Digits 2 hour hs) (hminute : Digits 2 minute ps)
    (hsecond : Digits 2 second ss) (hdays : 1 ≤ day ∧ day ≤ 31)
    (hclock : hour ≤ 23 ∧ minute ≤ 59 ∧ second ≤ 60) :
    readHeaderDate (String.ofList ((weekdayNames.getD w "").toList ++ ',' :: ' ' :: (ds ++ ' ' ::
      ((monthNames.getD m "").toList ++ ' ' :: (ys ++ ' ' :: (hs ++ ':' :: (ps ++ ':' ::
        (ss ++ ' ' :: "GMT".toList)))))))) =
      Reading.toInstant ⟨some w, ⟨year, m + 1, day⟩, hour, minute, second, 0, 0⟩ := by
  have hweekday : IsName weekdayNames w _ := isName_getD List.mem_cons_self hw
  have hmonth : IsName monthNames m _ :=
    isName_getD (List.mem_cons_of_mem _ List.mem_cons_self) hm
  have hreadYear (rest : List Char) : readYear (ys ++ ' ' :: rest) = .ok (year, ' ' :: rest) :=
    readYear_four hyear (by rintro x ⟨⟩; rfl)
  have hzone : readZone (skipBlanks "GMT".toList) = .ok (0, []) := by decide +kernel
  have hend : skipComments [] = [] := by decide +kernel
  unfold readHeaderDate
  simp only [String.toList_ofList, readWeekday, hweekday.skipBlanks, hweekday.readName,
    skipBlanks_space, skipBlanks_digits hday, readIn_two hday hdays, readBlanks_space,
    hmonth.skipBlanks, hmonth.readName, skipBlanks_digits hyear, hreadYear,
    skipBlanks_digits hhour, readHeaderClock_text hhour hminute hsecond hclock, hzone, hend, bind,
    Except.bind]
  rfl

end Text

end ObjectGateway.Time

namespace ObjectGateway.Instant

open Time

variable {t : Instant}

/-- An instant of the years that are written with four digits, and not of a leap second. -/
structure IsDated (t : Instant) : Prop where
  year : 0 ≤ (Date.ofDays t.day).year ∧ (Date.ofDays t.day).year ≤ 9999
  nanos : t.nanos < nanosPerSecond

instance (t : Instant) : Decidable t.IsDated :=
  decidable_of_iff ((0 ≤ (Date.ofDays t.day).year ∧ (Date.ofDays t.day).year ≤ 9999) ∧
    t.nanos < nanosPerSecond) ⟨fun h => ⟨h.1, h.2⟩, fun h => ⟨h.year, h.nanos⟩⟩

/-- The parts of a date of four digits make up the instant, to the second. -/
theorem IsDated.toInstant (h : t.IsDated) :
    Reading.toInstant ⟨some (weekday t.day), Date.ofDays t.day, t.secondOfDay / 3600,
      t.secondOfDay / 60 % 60, t.secondOfDay % 60, 0, 0⟩ = .ok ⟨t.seconds, 0⟩ := by
  obtain ⟨hlow, hhigh⟩ := h.year
  have hyears : Date.leastYear ≤ (Date.ofDays t.day).year ∧
      (Date.ofDays t.day).year ≤ Date.greatestYear :=
    ⟨Int.le_trans (by decide) hlow, Int.le_trans hhigh (by decide)⟩
  have hvalid : (Date.ofDays t.day).isValid = true := by
    simp only [Date.isValid, hyears, month_ofDays t.day, day_ofDays t.day, decide_true,
      Bool.and_self]
  have hnoLeap : t.secondOfDay % 60 ≠ 60 := by omega
  have hseconds : t.day * secondsPerDay + (t.secondOfDay / 3600 : Nat) * 3600 +
      (t.secondOfDay / 60 % 60 : Nat) * 60 + (t.secondOfDay % 60 : Nat) - 0 = t.seconds := by
    unfold secondOfDay day secondsPerDay
    omega
  have hsome : ofUnix? t.seconds 0 = some ⟨t.seconds, 0⟩ :=
    ofUnix?_eq_some hyears (.inl (by decide))
  have hoffset : checkOffset 0 = .ok () := rfl
  unfold Reading.toInstant
  simp only [hvalid, toDays_ofDays, hoffset, hnoLeap, Bool.not_true, Bool.false_eq_true, if_false,
    Option.elim_some, ne_eq, not_true_eq_false, decide_false, hseconds, Nat.add_zero, hsome, bind,
    Except.bind]

theorem secondOfDay_lt (t : Instant) : t.secondOfDay < 86400 := by
  unfold secondOfDay secondsPerDay
  omega

/-- The date of an instant in a header is read as the instant, to the second. -/
theorem IsDated.readHeaderDate_httpDate (h : t.IsDated) :
    readHeaderDate t.httpDate = .ok ⟨t.seconds, 0⟩ := by
  obtain ⟨hlow, hhigh⟩ := h.year
  obtain ⟨hmonth, hmonth'⟩ := month_ofDays t.day
  obtain ⟨hday, hday'⟩ := day_ofDays t.day
  have hdays : (Date.ofDays t.day).day ≤ 31 := Nat.le_trans hday' monthLength_le
  have hsecondOfDay := t.secondOfDay_lt
  have hyear : ((Date.ofDays t.day).year.toNat : Int) = (Date.ofDays t.day).year :=
    Int.toNat_of_nonneg hlow
  have hmonthIndex : (Date.ofDays t.day).month - 1 + 1 = (Date.ofDays t.day).month := by omega
  have hwhole : t.secondOfMinute = t.secondOfDay % 60 := by
    rw [secondOfMinute, Nat.div_eq_of_lt h.nanos, Nat.add_zero]
  have hdayText := digits_padded (by decide) (Nat.lt_of_le_of_lt hdays (by decide : 31 < 10 ^ 2))
  have hyearText : Digits 4 (Date.ofDays t.day).year.toNat _ :=
    digits_padded (by decide) (by omega)
  have hhourText : Digits 2 (t.secondOfDay / 3600) _ := digits_padded (by decide) (by omega)
  have hminuteText : Digits 2 (t.secondOfDay / 60 % 60) _ := digits_padded (by decide) (by omega)
  have hsecondText : Digits 2 (t.secondOfDay % 60) _ := digits_padded (by decide) (by omega)
  have htext := readHeaderDate_text (w := weekday t.day) (m := (Date.ofDays t.day).month - 1)
    (by unfold weekday; omega) (by omega) hdayText hyearText hhourText hminuteText hsecondText
    ⟨hday, hdays⟩ ⟨by omega, by omega, by omega⟩
  rw [hyear, hmonthIndex, h.toInstant] at htext
  refine (congrArg readHeaderDate (String.toList_inj.1 ?_)).trans htext
  simp [httpDate, yearText, clockText, hlow, hhigh, hwhole]

end ObjectGateway.Instant
