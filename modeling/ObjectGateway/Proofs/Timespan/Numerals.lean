import Mathlib.Tactic.Ring
import ObjectGateway.Timespan.Fraction

/-!
# Numbers and units as they are written

The number that decimal digits write, and the classes of characters between which the reader of
spans decides: ASCII digits and letters of units exclude one another, and both exclude blanks and
the point.
-/

namespace ObjectGateway.Timespan

variable {c : Char} {cs ds : List Char} {n : Nat}

/-! ## Classes of characters -/

theorem isUnitLetter_iff :
    isUnitLetter c = true ↔
      (65 ≤ c.toNat ∧ c.toNat ≤ 90 ∨ 97 ≤ c.toNat ∧ c.toNat ≤ 122) ∨ c.toNat = 0xB5 := by
  have hmicro : c = 'µ' ↔ c.toNat = 0xB5 := Char.toNat_inj.symm
  have hupper : c.isUpper = true ↔ 65 ≤ c.toNat ∧ c.toNat ≤ 90 := decide_eq_true_iff
  have hlower : c.isLower = true ↔ 97 ≤ c.toNat ∧ c.toNat ≤ 122 := by
    show (decide (97 ≤ c.toNat) && decide (c.toNat ≤ 122)) = true ↔ _
    rw [Bool.and_eq_true, decide_eq_true_iff, decide_eq_true_iff]
  have halpha : c.isAlpha = true ↔ c.isUpper = true ∨ c.isLower = true := Bool.or_eq_true_iff
  rw [isUnitLetter, Bool.or_eq_true, halpha, hupper, hlower, beq_iff_eq, hmicro]

theorem isDigit_of_isUnitLetter (h : isUnitLetter c = true) : c.isDigit = false := by
  rw [isUnitLetter_iff] at h
  rw [← Bool.not_eq_true, Char.isDigit_iff_toNat]
  show ¬(48 ≤ c.toNat ∧ c.toNat ≤ 57)
  omega

theorem isUnitLetter_of_isDigit (h : c.isDigit = true) : isUnitLetter c = false := by
  cases hletter : isUnitLetter c with
  | false => rfl
  | true => cases h.symm.trans (isDigit_of_isUnitLetter hletter)

theorem ne_point_of_isUnitLetter (h : isUnitLetter c = true) : c ≠ '.' := by
  rintro rfl
  cases h

/-- Blanks lie outside the ranges of letters and digits. -/
theorem isBlank_eq_false (h : isUnitLetter c = true ∨ c.isDigit = true) :
    Text.isBlank c = false := by
  have hrange : 48 ≤ c.toNat ∧ c.toNat ≤ 122 ∨ c.toNat = 0xB5 := by
    rcases h with h | h
    · rw [isUnitLetter_iff] at h
      omega
    · rw [Char.isDigit_iff_toNat] at h
      have hdigit : 48 ≤ c.toNat ∧ c.toNat ≤ 57 := h
      omega
  have hval : c.val.toNat = c.toNat := rfl
  simp only [Text.isBlank, hval, Bool.or_eq_false_iff, Bool.and_eq_false_iff,
    decide_eq_false_iff_not, beq_eq_false_iff_ne]
  omega

theorem isDecimalDigit_of_isDigit (h : c.isDigit = true) : Text.isDecimalDigit c = true := by
  have hascii : c.toNat < 0x80 := by
    have hdigit : 48 ≤ c.toNat ∧ c.toNat ≤ 57 := Char.isDigit_iff_toNat.1 h
    omega
  rw [Text.isDecimalDigit, if_pos hascii, h]

/-- The micro sign is no digit, and the Arabic three is one.  The table is read as a list of
characters, since the characters of a text are slow to compute. -/
theorem isDecimalDigit_beyond_ascii :
    Text.isDecimalDigit 'µ' = false ∧ Text.isDecimalDigit '٣' = true := by
  rw [Text.isDecimalDigit, Text.isDecimalDigit, if_neg (by decide), if_neg (by decide),
    Text.Category.decimal, Text.RangeTable.read]
  repeat rw [← String.ofList_append]
  rw [String.toList_ofList]
  decide +kernel

theorem isDecimalDigit_of_isUnitLetter (h : isUnitLetter c = true) :
    Text.isDecimalDigit c = false := by
  by_cases hascii : c.toNat < 0x80
  · rw [Text.isDecimalDigit, if_pos hascii, isDigit_of_isUnitLetter h]
  · obtain rfl : c = 'µ' := by
      rw [isUnitLetter_iff] at h
      rw [← Char.toNat_inj]
      show c.toNat = 0xB5
      omega
    exact isDecimalDigit_beyond_ascii.1

theorem utf8Size_of_isDigit (h : c.isDigit = true) : c.utf8Size = 1 := by
  have hdigit : 48 ≤ c.toNat ∧ c.toNat ≤ 57 := Char.isDigit_iff_toNat.1 h
  rw [Char.utf8Size_eq_one_iff]
  show c.toNat ≤ 127
  omega

/-! ## Numbers -/

/-- Every character is an ASCII digit. -/
def AllDigits (ds : List Char) : Prop := ∀ c ∈ ds, c.isDigit = true

instance (ds : List Char) : Decidable (AllDigits ds) :=
  decidable_of_iff (ds.all Char.isDigit = true) List.all_eq_true

/-- The number that digits write. -/
def numeral (ds : List Char) : Nat := Nat.ofDigitChars 10 ds 0

theorem foldl_digitValue (ds : List Char) (n : Nat) :
    ds.foldl (fun n c => n * 10 + digitValue c) n = n * 10 ^ ds.length + numeral ds := by
  have hfold : ds.foldl (fun n c => n * 10 + digitValue c) n = Nat.ofDigitChars 10 ds n := by
    rw [Nat.ofDigitChars_eq_foldl]
    congr 1
    funext n c
    rw [Nat.mul_comm]
    rfl
  rw [hfold, Nat.ofDigitChars_eq_ofDigitChars_zero, Nat.mul_comm, numeral]

theorem numeral_cons (c : Char) (ds : List Char) :
    numeral (c :: ds) = digitValue c * 10 ^ ds.length + numeral ds := by
  rw [← foldl_digitValue]
  simpa using (foldl_digitValue (c :: ds) 0).symm

theorem numeral_append (ds es : List Char) :
    numeral (ds ++ es) = numeral ds * 10 ^ es.length + numeral es := by
  rw [numeral, Nat.ofDigitChars_append, Nat.ofDigitChars_eq_ofDigitChars_zero, Nat.mul_comm]
  rfl

theorem numeral_toDigits (n : Nat) : numeral (Nat.toDigits 10 n) = n :=
  Nat.ofDigitChars_ten_toDigits

theorem allDigits_toDigits (n : Nat) : AllDigits (Nat.toDigits 10 n) := fun _ hc =>
  Nat.isDigit_of_mem_toDigits (by decide) (by decide) hc

theorem digitValue_lt (h : c.isDigit = true) : digitValue c < 10 := by
  have hdigit : 48 ≤ c.toNat ∧ c.toNat ≤ 57 := Char.isDigit_iff_toNat.1 h
  show c.toNat - 48 < 10
  omega

theorem numeral_lt (h : AllDigits ds) : numeral ds < 10 ^ ds.length := by
  induction ds with
  | nil => decide
  | cons c ds ih =>
    have hfirst := digitValue_lt (h c List.mem_cons_self)
    have hrest := ih fun d hd => h d (List.mem_cons_of_mem c hd)
    rw [numeral_cons, List.length_cons]
    calc digitValue c * 10 ^ ds.length + numeral ds
        < digitValue c * 10 ^ ds.length + 10 ^ ds.length := Nat.add_lt_add_left hrest _
      _ = (digitValue c + 1) * 10 ^ ds.length := by ring
      _ ≤ 10 * 10 ^ ds.length := Nat.mul_le_mul_right _ hfirst
      _ = 10 ^ (ds.length + 1) := by ring

/-- A number that is written by digits, and lies below the bound of two words. -/
theorem number?_eq (hne : ds ≠ []) (h : AllDigits ds) :
    number? ds = if numeral ds < doubleWordBound then some (numeral ds) else none := by
  have hall : (ds.all Char.isDigit && !ds.isEmpty) = true := by
    simpa [hne, AllDigits] using h
  rw [number?, if_pos hall, foldl_digitValue]
  simp

/-! ## Units -/

/-- The text of a unit is a name of letters. -/
theorem TimeUnit.letters_of_ofText? {s : String} {u : TimeUnit} (h : TimeUnit.ofText? s = some u) :
    s.toList ≠ [] ∧ ∀ c ∈ s.toList, isUnitLetter c = true := by
  obtain ⟨before, after, hspellings, -⟩ := List.lookup_eq_some_iff.1 h
  have hmem : (s, u) ∈ TimeUnit.spellings := by
    rw [hspellings]
    exact List.mem_append_right _ List.mem_cons_self
  have hall : TimeUnit.spellings.all
      (fun p => !p.1.toList.isEmpty && p.1.toList.all isUnitLetter) = true := by decide
  have hs := List.all_eq_true.1 hall (s, u) hmem
  rw [Bool.and_eq_true, List.all_eq_true] at hs
  exact ⟨by simpa using hs.1, hs.2⟩

end ObjectGateway.Timespan
