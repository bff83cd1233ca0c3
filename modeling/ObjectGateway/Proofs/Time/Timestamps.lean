import Mathlib.Data.List.TakeWhile
import ObjectGateway.Proofs.Failure
import ObjectGateway.Proofs.Time.Calendar
import ObjectGateway.Proofs.Text.Split
import ObjectGateway.Proofs.Timespan.Numerals
import ObjectGateway.Time.Read

/-!
# What timestamps denote

The text of a timestamp and the instant that it denotes, without the reader.  `ReadsText` says that
a reader takes exactly the texts of a kind from the front; it is shown for every part of a
timestamp, and `readTimestamp_eq_ok_iff` says so of the whole.
-/

namespace ObjectGateway.Time

open Timespan (AllDigits numeral numeral_lt numeral_cons digitValue digitValue_lt foldl_digitValue)

/-! ## Texts of timestamps -/

/-- A number that is written with so many digits. -/
structure Digits (width n : Nat) (ds : List Char) : Prop where
  width : ds.length = width
  digits : AllDigits ds
  value : numeral ds = n

/-- A fraction of a second, in nanoseconds; digits beyond the ninth do not count. -/
inductive FractionText : Nat → List Char → Prop
  | none : FractionText 0 []
  | digits {ds : List Char} (hne : ds ≠ []) (hdigits : AllDigits ds) :
      FractionText (numeral (ds.take 9) * 10 ^ (9 - (ds.take 9).length)) ('.' :: ds)

/-- A plus, a hyphen or a minus sign. -/
def IsSign (c : Char) (sign : Int) : Prop :=
  c = '+' ∧ sign = 1 ∨ (c = '-' ∨ c.toNat = 0x2212) ∧ sign = -1

/-- The seconds that a time is ahead of universal time. -/
inductive OffsetText : Int → List Char → Prop
  | none {c : Char} (hc : c = 'Z' ∨ c = 'z') : OffsetText 0 [c]
  | signed {c : Char} {sign : Int} {hours minutes : Nat} {hs ms : List Char} (hc : IsSign c sign)
      (hhours : Digits 2 hours hs) (hminutes : Digits 2 minutes ms) (h : minutes < 60) :
      OffsetText (sign * (hours * 3600 + minutes * 60)) (c :: (hs ++ ':' :: ms))

/-- What a timestamp says. -/
structure Stamp where
  year : Nat
  month : Nat
  day : Nat
  hour : Nat
  minute : Nat
  second : Nat
  nanos : Nat
  offset : Int

/-- The text of a timestamp. -/
inductive Stamp.WrittenAs : Stamp → List Char → Prop
  | mk {year month day hour minute second nanos : Nat} {offset : Int}
      {ys ms ds hs ps ss fs os : List Char} {c : Char} (hyear : Digits 4 year ys)
      (hmonth : Digits 2 month ms) (hday : Digits 2 day ds) (hc : c = 'T' ∨ c = 't' ∨ c = ' ')
      (hhour : Digits 2 hour hs) (hminute : Digits 2 minute ps) (hsecond : Digits 2 second ss)
      (hfraction : FractionText nanos fs) (hoffset : OffsetText offset os) :
      WrittenAs ⟨year, month, day, hour, minute, second, nanos, offset⟩
        (ys ++ '-' :: (ms ++ '-' :: (ds ++ c :: (hs ++ ':' :: (ps ++ ':' :: (ss ++ (fs ++ os)))))))

/-- A date of the calendar and a time of the clock, less than a day from universal time. -/
structure Stamp.Valid (s : Stamp) : Prop where
  month : 1 ≤ s.month ∧ s.month ≤ 12
  day : 1 ≤ s.day ∧ s.day ≤ monthLength s.year s.month
  hour : s.hour ≤ 23
  minute : s.minute ≤ 59
  second : s.second ≤ 60
  offset : -86400 < s.offset ∧ s.offset < 86400

/-- The instant of a timestamp.  A leap second has the number of the second before it. -/
def Stamp.instant (s : Stamp) : Instant where
  seconds := ((Date.count s.year s.month s.day : Int) - Date.count 1970 1 1) * 86400 +
    s.hour * 3600 + s.minute * 60 + min s.second 59 - s.offset
  nanos := s.nanos + if s.second = 60 then 1000000000 else 0

theorem Stamp.instant_nanos {s : Stamp} :
    s.instant.nanos = s.nanos + if s.second = 60 then 1000000000 else 0 := rfl

/-- A text is a timestamp of an instant. -/
def Denotes (text : String) (t : Instant) : Prop :=
  ∃ s : Stamp, s.WrittenAs text.toList ∧ s.Valid ∧ s.instant = t

/-! ## Readers -/

variable {cs rest ds : List Char} {n k : Nat}

/-- A reader takes exactly the texts of a kind from the front. -/
def ReadsText {α : Type} (f : List Char → Except ReadError (α × List Char))
    (P : α → List Char → Prop) : Prop :=
  ∀ {cs rest : List Char} {a : α}, f cs = .ok (a, rest) ↔ ∃ ds, P a ds ∧ cs = ds ++ rest

theorem length_le_octets (cs : List Char) : cs.length ≤ octets cs := by
  have hfold (n : Nat) : n + cs.length ≤ cs.foldl (fun n c => n + c.utf8Size) n := by
    induction cs generalizing n with
    | nil => exact Nat.le_refl _
    | cons c cs ih =>
      have hpos := c.utf8Size_pos
      have hrest := ih (n + c.utf8Size)
      rw [List.length_cons, List.foldl_cons]
      omega
  rw [octets, ← Nat.zero_add cs.length]
  exact hfold 0

theorem Digits.lt (h : Digits k n ds) : n < 10 ^ k := by
  rw [← h.value, ← h.width]
  exact numeral_lt h.digits

/-- The digits at the front of a text, of which there may be so many. -/
def lead (most : Nat) (cs : List Char) : List Char := (cs.take most).takeWhile Char.isDigit

theorem takeWhile_take {p : Char → Bool} :
    (cs.take k).takeWhile p = (cs.takeWhile p).take k := by
  induction cs generalizing k with
  | nil => simp
  | cons c cs ih =>
    cases k with
    | zero => simp
    | succ k => cases hc : p c <;> simp [hc, ih]

theorem lead_prefix {most : Nat} : lead most cs <+: cs :=
  (List.takeWhile_prefix _).trans (List.take_prefix most cs)

theorem allDigits_lead {most : Nat} : AllDigits (lead most cs) := fun _ hc =>
  List.mem_takeWhile_imp hc

theorem lead_append {most : Nat} (hds : AllDigits ds) (hlength : ds.length ≤ most)
    (hrest : ds.length = most ∨ ∀ x ∈ rest.head?, x.isDigit = false) :
    lead most (ds ++ rest) = ds := by
  rw [lead, List.take_append, List.take_of_length_le hlength,
    List.takeWhile_append_of_pos hds]
  rcases hrest with rfl | hhead
  · simp
  · cases rest with
    | nil => simp
    | cons x rest =>
      cases hleft : most - ds.length with
      | zero => simp
      | succ m => simp [hhead x rfl]

/-- What a reader of numbers takes are the digits at the front, if their number is not too great. -/
theorem readNumber_eq_ok_iff_of_lt {least most : Nat}
    (hbound : numeral (lead most cs) < numberBound) :
    readNumber least most cs = .ok (n, rest) ↔
      least ≤ (lead most cs).length ∧ n = numeral (lead most cs) ∧
        rest = cs.drop (lead most cs).length := by
  have hinside : (lead most cs).length ≤ octets cs :=
    Nat.le_trans lead_prefix.length_le (length_le_octets cs)
  have hvalue : (lead most cs).foldl (fun n c => n * 10 + (c.toNat - '0'.toNat)) 0 =
      numeral (lead most cs) := by
    have hfold := foldl_digitValue (lead most cs) 0
    rwa [Nat.zero_mul, Nat.zero_add] at hfold
  unfold readNumber
  rw [← lead]
  dsimp only
  rw [hvalue, if_pos hbound]
  by_cases hleast : least ≤ (lead most cs).length
  · rw [if_neg (Nat.not_lt_of_le (Nat.le_trans hleast hinside)), if_neg (Nat.not_lt_of_le hleast)]
    simp [hleast, eq_comm]
  · have hshort : (lead most cs).length < least := Nat.lt_of_not_le hleast
    simp only [hleast, false_and, iff_false, if_pos hshort]
    split <;> simp

theorem readNumber_eq_ok_iff {least most : Nat} (hmost : 10 ^ most ≤ numberBound) :
    readNumber least most cs = .ok (n, rest) ↔
      least ≤ (lead most cs).length ∧ n = numeral (lead most cs) ∧
        rest = cs.drop (lead most cs).length := by
  have hshort : (lead most cs).length ≤ most :=
    Nat.le_trans (List.takeWhile_prefix _).length_le (List.length_take_le most cs)
  exact readNumber_eq_ok_iff_of_lt (Nat.lt_of_lt_of_le (numeral_lt allDigits_lead)
    (Nat.le_trans (Nat.pow_le_pow_right (by decide) hshort) hmost))

theorem readNumber_reads (hk : 10 ^ k ≤ numberBound) : ReadsText (readNumber k k) (Digits k) := by
  intro cs rest n
  rw [readNumber_eq_ok_iff hk]
  constructor
  · rintro ⟨hleast, rfl, rfl⟩
    have hshort : (lead k cs).length ≤ k :=
      Nat.le_trans (List.takeWhile_prefix _).length_le (List.length_take_le k cs)
    refine ⟨lead k cs, ⟨Nat.le_antisymm hshort hleast, allDigits_lead, rfl⟩, ?_⟩
    exact (List.prefix_iff_eq_append.1 lead_prefix).symm
  · rintro ⟨ds, hds, rfl⟩
    rw [lead_append hds.digits (Nat.le_of_eq hds.width) (.inl hds.width)]
    exact ⟨Nat.le_of_eq hds.width.symm, hds.value.symm, by simp⟩

theorem readIn_reads {low high : Nat} (hk : 10 ^ k ≤ numberBound) :
    ReadsText (readIn low high k k) fun n ds => Digits k n ds ∧ low ≤ n ∧ n ≤ high := by
  intro cs rest n
  unfold readIn
  rw [bind_eq_ok_iff]
  constructor
  · rintro ⟨⟨m, after⟩, hnumber, h⟩
    obtain ⟨ds, hds, rfl⟩ := (readNumber_reads hk).1 hnumber
    dsimp only at h
    split at h
    · next hrange =>
      cases h
      exact ⟨ds, ⟨hds, hrange⟩, rfl⟩
    · cases h
  · rintro ⟨ds, ⟨hds, hrange⟩, rfl⟩
    exact ⟨(n, rest), (readNumber_reads hk).2 ⟨ds, hds, rfl⟩, if_pos hrange⟩

theorem readChar_eq_ok_iff {x : Char} : readChar x cs = .ok rest ↔ cs = x :: rest := by
  cases cs with
  | nil => simp [readChar]
  | cons c cs => by_cases hc : c = x <;> simp [readChar, hc]

theorem readDateEnd_eq_ok_iff :
    readDateEnd cs = .ok rest ↔ ∃ c, (c = 'T' ∨ c = 't' ∨ c = ' ') ∧ cs = c :: rest := by
  cases cs with
  | nil => simp [readDateEnd]
  | cons c cs =>
    rw [readDateEnd]
    constructor
    · intro h
      split at h
      · next hc =>
        cases h
        exact ⟨c, hc, rfl⟩
      · cases h
    · rintro ⟨c, hc, ⟨⟩⟩
      exact if_pos hc

theorem numeral_pair (x y : Char) : numeral [x, y] = digitValue x * 10 + digitValue y := by
  have hnil : numeral [] = 0 := rfl
  rw [numeral_cons, numeral_cons, hnil]
  simp

theorem digits_two_iff : Digits 2 n ds ↔ ∃ x y, (x.isDigit = true ∧ y.isDigit = true) ∧
    ds = [x, y] ∧ n = digitValue x * 10 + digitValue y := by
  constructor
  · rintro ⟨hwidth, hdigits, rfl⟩
    obtain ⟨x, y, rfl⟩ := List.length_eq_two.1 hwidth
    exact ⟨x, y, ⟨hdigits x (by simp), hdigits y (by simp)⟩, rfl, numeral_pair x y⟩
  · rintro ⟨x, y, ⟨hx, hy⟩, rfl, rfl⟩
    refine ⟨rfl, ?_, numeral_pair x y⟩
    rintro c hc
    obtain rfl | rfl : c = x ∨ c = y := by simpa using hc
    · exact hx
    · exact hy

theorem readPair_reads {tens : Nat} :
    ReadsText (readPair tens) fun n ds => Digits 2 n ds ∧ n < (tens + 1) * 10 := by
  intro cs rest n
  simp only [digits_two_iff]
  constructor
  · intro h
    unfold readPair at h
    split at h
    · next x y after =>
      split at h
      · next hdigits =>
        rw [Bool.and_eq_true] at hdigits
        dsimp only at h
        split at h
        · next htens =>
          cases h
          have hy := digitValue_lt hdigits.2
          refine ⟨[x, y], ⟨⟨x, y, hdigits, rfl, rfl⟩, ?_⟩, rfl⟩
          change digitValue x ≤ tens at htens
          change digitValue x * 10 + digitValue y < (tens + 1) * 10
          omega
        · cases h
      · cases h
    · split at h <;> cases h
  · rintro ⟨_, ⟨⟨x, y, ⟨hx, hy⟩, rfl, rfl⟩, hlt⟩, rfl⟩
    have htens : digitValue x ≤ tens := by omega
    simp only [List.cons_append, List.nil_append, readPair, hx, hy, Bool.and_self, if_true]
    exact if_pos htens

theorem readSign_eq_ok_iff {sign : Int} :
    readSign true cs = .ok (sign, rest) ↔ ∃ c, IsSign c sign ∧ cs = c :: rest := by
  cases cs with
  | nil => simp [readSign]
  | cons c cs =>
    have hplus : ¬ '+'.toNat = 0x2212 := by decide
    rw [readSign]
    unfold IsSign
    by_cases hahead : c = '+'
    · subst hahead
      simp [eq_comm]
    · by_cases hhyphen : c = '-'
      · subst hhyphen
        simp [eq_comm]
      · by_cases hminus : c.toNat = 0x2212
        · simp [hahead, hhyphen, hminus, eq_comm]
        · simp [hahead, hhyphen, hminus]

theorem IsSign.ne_zone {c : Char} {sign : Int} (h : IsSign c sign) : ¬ (c = 'Z' ∨ c = 'z') := by
  rcases h with ⟨rfl, -⟩ | ⟨rfl | h, -⟩
  · decide
  · decide
  · rintro (rfl | rfl) <;> cases h

theorem readOffset_eq (cs : List Char) : readOffset true true cs = (do
    let (sign, cs) ← readSign true cs
    let (hours, cs) ← readPair 9 cs
    let cs ← readChar ':' cs
    let (minutes, cs) ← readPair 5 cs
    .ok (sign * (hours * 3600 + minutes * 60), cs)) := rfl

/-- An offset with a sign. -/
theorem readOffset_eq_ok_iff {offset : Int} : readOffset true true cs = .ok (offset, rest) ↔
    ∃ c sign hours minutes hs ms, (IsSign c sign ∧ Digits 2 hours hs ∧ Digits 2 minutes ms ∧
      minutes < 60) ∧ offset = sign * (hours * 3600 + minutes * 60) ∧
        cs = c :: (hs ++ ':' :: (ms ++ rest)) := by
  simp only [readOffset_eq, bind_eq_ok_iff, Prod.exists]
  constructor
  · rintro ⟨sign, cs₁, hsign, hours, cs₂, hhour, cs₃, hcolon, minutes, cs₄, hminute, ⟨⟩⟩
    obtain ⟨c, hc, rfl⟩ := readSign_eq_ok_iff.1 hsign
    obtain ⟨hs, ⟨hhours, -⟩, rfl⟩ := readPair_reads.1 hhour
    obtain rfl := readChar_eq_ok_iff.1 hcolon
    obtain ⟨ms, ⟨hminutes, hlt⟩, rfl⟩ := readPair_reads.1 hminute
    exact ⟨c, sign, hours, minutes, hs, ms, ⟨hc, hhours, hminutes, hlt⟩, rfl, rfl⟩
  · rintro ⟨c, sign, hours, minutes, hs, ms, ⟨hc, hhours, hminutes, hlt⟩, rfl, rfl⟩
    exact ⟨sign, _, readSign_eq_ok_iff.2 ⟨c, hc, rfl⟩,
      hours, _, readPair_reads.2 ⟨hs, ⟨hhours, hhours.lt⟩, rfl⟩,
      _, readChar_eq_ok_iff.2 rfl,
      minutes, _, readPair_reads.2 ⟨ms, ⟨hminutes, hlt⟩, rfl⟩, rfl⟩

theorem readTimestampOffset_reads : ReadsText readTimestampOffset OffsetText := by
  intro cs rest offset
  unfold readTimestampOffset
  constructor
  · intro h
    split at h
    · cases h
      exact ⟨['Z'], .none (.inl rfl), rfl⟩
    · cases h
      exact ⟨['z'], .none (.inr rfl), rfl⟩
    · obtain ⟨c, sign, hours, minutes, hs, ms, ⟨hc, hhours, hminutes, hlt⟩, rfl, rfl⟩ :=
        readOffset_eq_ok_iff.1 h
      exact ⟨_, .signed hc hhours hminutes hlt, by simp⟩
  · rintro ⟨_, hoffset, rfl⟩
    cases hoffset with
    | none hc => rcases hc with rfl | rfl <;> rfl
    | @signed c sign hours minutes hs ms hc hhours hminutes hlt =>
      have hread : readOffset true true (c :: (hs ++ ':' :: ms) ++ rest) =
          .ok (sign * (hours * 3600 + minutes * 60), rest) :=
        readOffset_eq_ok_iff.2 ⟨c, sign, hours, minutes, hs, ms, ⟨hc, hhours, hminutes, hlt⟩, rfl,
          by simp⟩
      have hzone := hc.ne_zone
      rw [List.cons_append] at hread ⊢
      split
      · next heq => exact absurd (.inl (List.head_eq_of_cons_eq heq)) hzone
      · next heq => exact absurd (.inr (List.head_eq_of_cons_eq heq)) hzone
      · exact hread

/-- The text of an offset does not begin as that of a fraction goes on. -/
theorem OffsetText.head {offset : Int} {os : List Char} (h : OffsetText offset os) :
    ∃ c rest, os = c :: rest ∧ c ≠ '.' ∧ c.isDigit = false := by
  cases h with
  | @none c hc =>
    refine ⟨c, [], rfl, ?_⟩
    rcases hc with rfl | rfl <;> decide
  | @signed c sign hours minutes hs ms hc hhours hminutes hlt =>
    refine ⟨c, _, rfl, ?_⟩
    rcases hc with ⟨rfl, -⟩ | ⟨rfl | hc, -⟩
    · decide
    · decide
    · constructor
      · rintro rfl
        cases hc
      · rw [← Bool.not_eq_true, Char.isDigit_iff_toNat, hc]
        decide

/-- All digits behind the point are taken, and the first nine of them count. -/
theorem readFraction_point_eq_ok_iff {nanos : Nat} : readFraction ('.' :: cs) = .ok (nanos, rest) ↔
    cs.takeWhile Char.isDigit ≠ [] ∧
      nanos = numeral ((cs.takeWhile Char.isDigit).take 9) *
        10 ^ (9 - ((cs.takeWhile Char.isDigit).take 9).length) ∧
      rest = cs.dropWhile Char.isDigit := by
  have hlead : lead 9 cs = (cs.takeWhile Char.isDigit).take 9 := takeWhile_take
  have hrest : (cs.drop (lead 9 cs).length).dropWhile Char.isDigit = cs.dropWhile Char.isDigit := by
    have hsplit : lead 9 cs ++ cs.drop (lead 9 cs).length = cs :=
      List.prefix_iff_eq_append.1 lead_prefix
    conv_rhs => rw [← hsplit]
    rw [List.dropWhile_append_of_pos allDigits_lead]
  have hcount : cs.length - (cs.drop (lead 9 cs).length).length = (lead 9 cs).length := by
    have hle : (lead 9 cs).length ≤ cs.length := lead_prefix.length_le
    rw [List.length_drop]
    omega
  have hone : 1 ≤ (lead 9 cs).length ↔ cs.takeWhile Char.isDigit ≠ [] := by
    rw [hlead, Nat.one_le_iff_ne_zero, ne_eq, List.length_eq_zero_iff, List.take_eq_nil_iff]
    simp
  unfold readFraction
  simp only [bind_eq_ok_iff, Prod.exists]
  constructor
  · rintro ⟨n, after, hnumber, h⟩
    obtain ⟨hleast, rfl, rfl⟩ := (readNumber_eq_ok_iff (by decide)).1 hnumber
    cases h
    refine ⟨hone.1 hleast, ?_, hrest⟩
    rw [hcount, hlead]
    rfl
  · rintro ⟨hne, rfl, rfl⟩
    refine ⟨_, _, (readNumber_eq_ok_iff (by decide)).2 ⟨hone.2 hne, rfl, rfl⟩, ?_⟩
    rw [hcount, hrest, hlead]
    rfl

/-- A fraction in front of the text of an offset is read to its end. -/
theorem readFraction_of_text {nanos : Nat} {fs : List Char} (hfraction : FractionText nanos fs)
    (hrest : ∃ c cs, rest = c :: cs ∧ c ≠ '.' ∧ c.isDigit = false) :
    readFraction (fs ++ rest) = .ok (nanos, rest) := by
  obtain ⟨c, cs, rfl, hpoint, hdigit⟩ := hrest
  cases hfraction with
  | none =>
    unfold readFraction
    split
    · next heq => exact absurd (List.head_eq_of_cons_eq heq) hpoint
    · rfl
  | @digits ds hne hdigits =>
    have hstop : ∀ x ∈ (c :: cs).head?, x.isDigit = false := by
      rintro x ⟨⟩
      exact hdigit
    rw [List.cons_append, readFraction_point_eq_ok_iff, Text.takeWhile_append_stop hdigits hstop,
      Text.dropWhile_append_stop hdigits hstop]
    exact ⟨hne, rfl, rfl⟩

/-- What is read as a fraction has the text of one. -/
theorem exists_fraction {nanos : Nat} (h : readFraction cs = .ok (nanos, rest)) :
    ∃ fs, FractionText nanos fs ∧ cs = fs ++ rest := by
  by_cases hpoint : ∃ after, cs = '.' :: after
  · obtain ⟨after, rfl⟩ := hpoint
    obtain ⟨hne, rfl, rfl⟩ := readFraction_point_eq_ok_iff.1 h
    refine ⟨_, .digits hne fun c hc => List.mem_takeWhile_imp hc, ?_⟩
    rw [List.cons_append, List.takeWhile_append_dropWhile]
  · unfold readFraction at h
    split at h
    · next after => exact absurd ⟨after, rfl⟩ hpoint
    · cases h
      exact ⟨[], .none, rfl⟩

/-! ## Instants -/

/-- Far from the ends of the calendar, a number of days has a year that is told apart. -/
theorem ofDays_year {n : Int} (h : -1000000 ≤ n ∧ n ≤ 5000000) :
    Date.leastYear ≤ (Date.ofDays n).year ∧ (Date.ofDays n).year ≤ Date.greatestYear := by
  obtain ⟨k, hk, hyear⟩ : ∃ k : Int, (k = 1 ∨ k = 0) ∧ (Date.ofDays n).year =
      yearOfEra ((n + epochShift) % eraDays) + (n + epochShift) / eraDays * 400 + k :=
    ⟨_, ite_eq_or_eq _ _ _, rfl⟩
  simp only [hyear, Date.leastYear, Date.greatestYear, yearOfEra, eraDays, epochShift]
  omega

theorem toDays_bounds {y m d : Nat} (hy : y < 10000) (hm : 1 ≤ m ∧ m ≤ 12) (hd : d ≤ 31) :
    -800000 ≤ (⟨y, m, d⟩ : Date).toDays ∧ (⟨y, m, d⟩ : Date).toDays ≤ 4000000 := by
  simp only [Date.toDays, yearStart, eraDays, epochShift, monthStart]
  split <;> omega

theorem ofUnix?_eq_some {seconds : Int} {nanos : Nat}
    (hyear : Date.leastYear ≤ (Date.ofDays (seconds / 86400)).year ∧
      (Date.ofDays (seconds / 86400)).year ≤ Date.greatestYear)
    (hleap : nanos < 1000000000 ∨ nanos < 2000000000 ∧ seconds % 60 = 59) :
    Instant.ofUnix? seconds nanos = some ⟨seconds, nanos⟩ := by
  have hnanos : (nanos < Instant.nanosPerSecond ||
      (nanos < 2 * Instant.nanosPerSecond && seconds % 60 == 59)) = true := by
    simp only [Bool.or_eq_true, Bool.and_eq_true, beq_iff_eq, decide_eq_true_iff]
    exact hleap
  have hday : seconds / Instant.secondsPerDay = seconds / 86400 := rfl
  unfold Instant.ofUnix?
  simp only [hday, hyear, hnanos, decide_true, Bool.and_self, if_true]

/-- What a reading has within its ranges where it is read. -/
structure Stamp.InRange (s : Stamp) : Prop where
  year : s.year < 10000
  month : 1 ≤ s.month ∧ s.month ≤ 12
  day : 1 ≤ s.day ∧ s.day ≤ 31
  hour : s.hour ≤ 23
  minute : s.minute ≤ 59
  second : s.second ≤ 60
  nanos : s.nanos < 1000000000
  /-- Offsets are written in minutes. -/
  offset : s.offset % 60 = 0

/-- The reading of what a timestamp says. -/
def Stamp.reading (s : Stamp) : Reading :=
  ⟨none, ⟨s.year, s.month, s.day⟩, s.hour, s.minute, s.second, s.nanos, s.offset⟩

theorem isValid_iff {y m d : Nat} (hy : y < 10000) (hm : 1 ≤ m ∧ m ≤ 12) (hd : 1 ≤ d ∧ d ≤ 31) :
    (⟨y, m, d⟩ : Date).isValid = true ↔ d ≤ monthLength y m := by
  simp only [Date.isValid, Bool.and_eq_true, decide_eq_true_iff]
  simp only [Date.leastYear, Date.greatestYear]
  omega

theorem checkOffset_eq_ok_iff {offset : Int} {u : Unit} :
    checkOffset offset = .ok u ↔ -86400 < offset ∧ offset < 86400 := by
  unfold checkOffset Instant.secondsPerDay
  split
  · simp
    omega
  · simp
    omega

theorem Stamp.InRange.seconds_eq {s : Stamp} (h : s.InRange) :
    s.reading.date.toDays * Instant.secondsPerDay + s.reading.hour * 3600 + s.reading.minute * 60 +
      (if s.reading.second = 60 then 59 else s.reading.second : Nat) - s.reading.offset =
        s.instant.seconds := by
  have hcount : s.reading.date.toDays = Date.count s.year s.month s.day - Date.count 1970 1 1 :=
    toDays_eq_count h.month.1 h.month.2 h.day.1
  have hclock : (if s.reading.second = 60 then 59 else s.reading.second : Nat) = min s.second 59 := by
    have hsecond := h.second
    change (if s.second = 60 then 59 else s.second) = _
    split <;> omega
  rw [hclock, hcount]
  rfl

/-- The instant of a timestamp is told apart, and only a leap second has a second more. -/
theorem Stamp.InRange.ofUnix? {s : Stamp} (h : s.InRange)
    (hoffset : -86400 < s.offset ∧ s.offset < 86400) :
    Instant.ofUnix? s.instant.seconds s.instant.nanos = some s.instant := by
  have hbounds : -800000 ≤ s.reading.date.toDays ∧ s.reading.date.toDays ≤ 4000000 :=
    toDays_bounds h.year h.month h.day.2
  have hcount : s.reading.date.toDays = Date.count s.year s.month s.day - Date.count 1970 1 1 :=
    toDays_eq_count h.month.1 h.month.2 h.day.1
  have hseconds : s.instant.seconds = s.reading.date.toDays * 86400 + s.hour * 3600 +
      s.minute * 60 + min s.second 59 - s.offset := by
    rw [hcount]
    rfl
  obtain ⟨-, -, -, hhour, hminute, hsecond, hnanos, hwhole⟩ := h
  have hyear := ofDays_year (n := s.instant.seconds / 86400) (by omega)
  refine ofUnix?_eq_some hyear ?_
  rw [Stamp.instant_nanos]
  split <;> omega

theorem toInstant_eq_ok_iff {s : Stamp} {t : Instant} (h : s.InRange) :
    s.reading.toInstant = .ok t ↔ s.Valid ∧ s.instant = t := by
  have hweekday : s.reading.weekday = none := rfl
  have hnanos : s.reading.nanos + (if s.reading.second = 60 then Instant.nanosPerSecond else 0) =
      s.instant.nanos := rfl
  unfold Reading.toInstant
  by_cases hday : s.day ≤ monthLength s.year s.month
  · have hvalid : s.reading.date.isValid = true := (isValid_iff h.year h.month h.day).2 hday
    simp only [hvalid, hweekday, Bool.not_true, Bool.false_eq_true, if_false, Option.elim_none,
      bind_eq_ok_iff, checkOffset_eq_ok_iff, h.seconds_eq, hnanos]
    constructor
    · rintro ⟨-, hoffset, hinstant⟩
      rw [h.ofUnix? hoffset] at hinstant
      exact ⟨⟨h.month, ⟨h.day.1, hday⟩, h.hour, h.minute, h.second, hoffset⟩,
        Except.ok.inj hinstant⟩
    · rintro ⟨hvalid, rfl⟩
      refine ⟨(), hvalid.offset, ?_⟩
      rw [h.ofUnix? hvalid.offset]
  · have hvalid : s.reading.date.isValid = false :=
      eq_false_of_ne_true fun hvalid => hday ((isValid_iff h.year h.month h.day).1 hvalid)
    simp only [hvalid, Bool.not_false, if_true]
    constructor
    · intro herror
      cases herror
    · rintro ⟨hvalid, -⟩
      exact absurd hvalid.day.2 hday

/-! ## The whole -/

theorem FractionText.lt {nanos : Nat} {fs : List Char} (h : FractionText nanos fs) :
    nanos < 1000000000 := by
  cases h with
  | none => decide
  | @digits ds hne hdigits =>
    have hcount : (ds.take 9).length ≤ 9 := List.length_take_le 9 ds
    have hvalue : numeral (ds.take 9) < 10 ^ (ds.take 9).length :=
      numeral_lt fun c hc => hdigits c (List.mem_of_mem_take hc)
    calc numeral (ds.take 9) * 10 ^ (9 - (ds.take 9).length)
        < 10 ^ (ds.take 9).length * 10 ^ (9 - (ds.take 9).length) :=
          Nat.mul_lt_mul_of_pos_right hvalue (Nat.pow_pos (by decide))
      _ = 1000000000 := by
        rw [← Nat.pow_add, Nat.add_sub_cancel' hcount]

theorem monthLength_le {y : Int} {m : Nat} : monthLength y m ≤ 31 := by
  unfold monthLength
  repeat' split
  all_goals decide

/-- Offsets are written in minutes. -/
theorem OffsetText.minutes {offset : Int} {os : List Char} (h : OffsetText offset os) :
    offset % 60 = 0 := by
  cases h with
  | none => rfl
  | signed hc =>
    rcases hc with ⟨-, rfl⟩ | ⟨-, rfl⟩ <;> omega

/-- What is read as a timestamp is what denotes an instant. -/
theorem readTimestamp_eq_ok_iff {text : String} {t : Instant} :
    readTimestamp text = .ok t ↔ Denotes text t := by
  unfold readTimestamp
  simp only [bind_eq_ok_iff, Prod.exists]
  constructor
  · rintro ⟨year, cs₁, hyear, cs₂, hdash, month, cs₃, hmonth, cs₄, hdash', day, cs₅, hday, cs₆, hend,
      hour, cs₇, hhour, cs₈, hcolon, minute, cs₉, hminute, cs₁₀, hcolon', second, cs₁₁, hsecond,
      nanos, cs₁₂, hnanos, offset, cs₁₃, hoffset, -, hcheck, h⟩
    split at h
    · cases h
    · next hempty =>
      obtain rfl : cs₁₃ = [] := by simpa using hempty
      obtain ⟨ys, hys, htext⟩ := (readNumber_reads (by decide)).1 hyear
      obtain rfl := readChar_eq_ok_iff.1 hdash
      obtain ⟨ms, ⟨hms, hmonths⟩, rfl⟩ := (readIn_reads (by decide)).1 hmonth
      obtain rfl := readChar_eq_ok_iff.1 hdash'
      obtain ⟨ds, ⟨hds, hdays⟩, rfl⟩ := (readIn_reads (by decide)).1 hday
      obtain ⟨c, hc, rfl⟩ := readDateEnd_eq_ok_iff.1 hend
      obtain ⟨hs, ⟨hhs, hhours⟩, rfl⟩ := (readIn_reads (by decide)).1 hhour
      obtain rfl := readChar_eq_ok_iff.1 hcolon
      obtain ⟨ps, ⟨hps, hminutes⟩, rfl⟩ := (readIn_reads (by decide)).1 hminute
      obtain rfl := readChar_eq_ok_iff.1 hcolon'
      obtain ⟨ss, ⟨hss, hseconds⟩, rfl⟩ := (readIn_reads (by decide)).1 hsecond
      obtain ⟨fs, hfs, rfl⟩ := exists_fraction hnanos
      obtain ⟨os, hos, rfl⟩ := readTimestampOffset_reads.1 hoffset
      have hrange : Stamp.InRange ⟨year, month, day, hour, minute, second, nanos, offset⟩ :=
        ⟨hys.lt, hmonths, hdays, hhours.2, hminutes.2, hseconds.2, hfs.lt, hos.minutes⟩
      obtain ⟨hvalid, hinstant⟩ := (toInstant_eq_ok_iff hrange).1 h
      refine ⟨_, ?_, hvalid, hinstant⟩
      rw [htext, List.append_nil]
      exact .mk hys hms hds hc hhs hps hss hfs hos
  · rintro ⟨s, hwritten, hvalid, rfl⟩
    generalize text.toList = cs at hwritten
    cases hwritten with
    | @mk year month day hour minute second nanos offset ys ms ds hs ps ss fs os c hys hms hds hc
        hhs hps hss hfs hos =>
      have hday : day ≤ 31 := Nat.le_trans hvalid.day.2 monthLength_le
      have hrange : Stamp.InRange ⟨year, month, day, hour, minute, second, nanos, offset⟩ :=
        ⟨hys.lt, hvalid.month, ⟨hvalid.day.1, hday⟩, hvalid.hour, hvalid.minute, hvalid.second,
          hfs.lt, hos.minutes⟩
      exact ⟨year, _, (readNumber_reads (by decide)).2 ⟨ys, hys, rfl⟩, _, readChar_eq_ok_iff.2 rfl,
        month, _, (readIn_reads (by decide)).2 ⟨ms, ⟨hms, hrange.month⟩, rfl⟩,
        _, readChar_eq_ok_iff.2 rfl,
        day, _, (readIn_reads (by decide)).2 ⟨ds, ⟨hds, hrange.day⟩, rfl⟩,
        _, readDateEnd_eq_ok_iff.2 ⟨c, hc, rfl⟩,
        hour, _, (readIn_reads (by decide)).2 ⟨hs, ⟨hhs, Nat.zero_le _, hrange.hour⟩, rfl⟩,
        _, readChar_eq_ok_iff.2 rfl,
        minute, _, (readIn_reads (by decide)).2 ⟨ps, ⟨hps, Nat.zero_le _, hrange.minute⟩, rfl⟩,
        _, readChar_eq_ok_iff.2 rfl,
        second, _, (readIn_reads (by decide)).2 ⟨ss, ⟨hss, Nat.zero_le _, hrange.second⟩, rfl⟩,
        nanos, _, readFraction_of_text hfs hos.head,
        offset, [], readTimestampOffset_reads.2 ⟨os, hos, by simp⟩,
        (), checkOffset_eq_ok_iff.2 hvalid.offset, (toInstant_eq_ok_iff hrange).2 ⟨hvalid, rfl⟩⟩

end ObjectGateway.Time
