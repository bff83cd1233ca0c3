import Mathlib.Algebra.Order.Floor.Semifield
import Mathlib.Data.Rat.Floor
import ObjectGateway.Proofs.Timespan.Numerals

/-!
# Reading sums of numbers with units

A part of a written span is a number, with or without a fraction, and the name of a unit: `Part`.
The reader holds a number until the name after it is complete, and adds the part to its sum then.
`Reader.Awaits` says which sum it will have then, for a reader that stands between two parts or has
read the last letter of one, and reading a part takes one such reader to the next.

Parts without fractions are read as the sum of their numbers of units, as long as it lies below the
bound of a word: `readList_written`.  A single number beyond this bound is refused:
`readList_tooLarge`.
-/

namespace ObjectGateway.Timespan

/-- A number and a unit as they are written. -/
structure Part where
  whole : List Char
  /-- The digits behind the point, if there is one. -/
  places : Option (List Char)
  name : String
  unit : TimeUnit
  allDigits_whole : AllDigits whole
  whole_ne_nil : places = none → whole ≠ []
  allDigits_places : ∀ ds ∈ places, AllDigits ds
  places_ne_nil : ∀ ds ∈ places, ds ≠ []
  ofText?_name : TimeUnit.ofText? name = some unit

namespace Part

/-- The characters of a part. -/
def text (p : Part) : List Char :=
  p.whole ++ (p.places.elim [] ('.' :: ·)) ++ p.name.toList

/-- The digits of the fraction. -/
def digits (p : Part) : List Char := p.places.getD []

/-- The number that a part writes. -/
def amount (p : Part) : Rat := numeral p.whole + numeral p.digits / 10 ^ p.digits.length

/-- The nanoseconds of a part, rounded down. -/
def nanos (p : Part) : Nat := ⌊p.unit.nanos * p.amount⌋₊

/-- The number of whole units of a part has no fraction. -/
def IsWhole (p : Part) : Prop := p.places = none

end Part

/-- The nanoseconds of some parts together. -/
def total (parts : List Part) : Nat := (parts.map Part.nanos).sum

/-- The characters of some parts, one behind the other. -/
def written (parts : List Part) : List Char := parts.flatMap Part.text

@[simp] theorem total_nil : total [] = 0 := rfl

@[simp] theorem total_cons (p : Part) (parts : List Part) :
    total (p :: parts) = p.nanos + total parts := List.sum_cons

@[simp] theorem written_nil : written [] = [] := rfl

@[simp] theorem written_cons (p : Part) (parts : List Part) :
    written (p :: parts) = p.text ++ written parts := rfl

namespace Part

theorem amount_eq (p : Part) :
    p.amount = (numeral (p.whole ++ p.digits) : Rat) / ((10 ^ p.digits.length : Nat) : Rat) := by
  have hten : (10 : Rat) ^ p.digits.length ≠ 0 := by positivity
  rw [amount, numeral_append]
  push_cast
  field_simp

/-- Rounding down is a division of natural numbers. -/
theorem nanos_eq (p : Part) :
    p.nanos = p.unit.nanos * numeral (p.whole ++ p.digits) / 10 ^ p.digits.length := by
  rw [nanos, amount_eq, ← mul_div_assoc, ← Nat.cast_mul, Nat.floor_div_eq_div]

theorem nanos_of_isWhole {p : Part} (h : p.IsWhole) : p.nanos = p.unit.nanos * numeral p.whole := by
  have hdigits : p.digits = [] := by rw [digits, h, Option.getD_none]
  rw [nanos_eq, hdigits, List.append_nil, List.length_nil, Nat.pow_zero, Nat.div_one]

end Part

/-! ## Units -/

/-- A unit that is not shorter than a second is a number of seconds. -/
theorem TimeUnit.seconds_mul {u : TimeUnit} (h : u.isSubsecond = false) :
    u.nanos / nanosPerSecond * nanosPerSecond = u.nanos := by
  revert h
  cases u <;> decide

theorem TimeUnit.nanos_pos (u : TimeUnit) : 0 < u.nanos := by
  cases u <;> decide

theorem wordBound_le_bound : wordBound ≤ bound := Nat.le_mul_of_pos_right _ (by decide)

theorem add_eq (t seconds nanos : Nat)
    (h : t + seconds * nanosPerSecond + nanos < wordBound) :
    add ⟨t⟩ seconds nanos = .ok ⟨t + seconds * nanosPerSecond + nanos⟩ := by
  have hword : ¬wordBound ≤ t % nanosPerSecond + nanos := by
    have := Nat.mod_le t nanosPerSecond
    omega
  have hbound := Nat.lt_of_lt_of_le h wordBound_le_bound
  simp only [add, hword, hbound, if_true, if_false]

/-- Units are added exactly, as long as the sum lies below the bound of a word. -/
theorem addWhole_eq {t n : Nat} {u : TimeUnit} (h : t + n * u.nanos < wordBound) :
    addWhole ⟨t⟩ n u = .ok ⟨t + n * u.nanos⟩ := by
  cases hsub : u.isSubsecond with
  | true =>
    have hcheck : checkWord (n * u.nanos) = .ok (n * u.nanos) := if_pos (by omega)
    have hadd : add ⟨t⟩ 0 (n * u.nanos) = .ok ⟨t + n * u.nanos⟩ := by
      have hadd := add_eq t 0 (n * u.nanos) (by rwa [Nat.zero_mul])
      rwa [Nat.zero_mul, Nat.add_zero] at hadd
    simp only [addWhole, hsub, if_true, hcheck, bind, Except.bind, hadd]
  | false =>
    have hseconds : n * (u.nanos / nanosPerSecond) * nanosPerSecond = n * u.nanos := by
      rw [Nat.mul_assoc, TimeUnit.seconds_mul hsub]
    have hless : n * (u.nanos / nanosPerSecond) ≤ n * u.nanos :=
      Nat.mul_le_mul_left n (Nat.div_le_self _ _)
    have hcheck : checkWord (n * (u.nanos / nanosPerSecond)) =
        .ok (n * (u.nanos / nanosPerSecond)) := if_pos (by omega)
    have hadd : add ⟨t⟩ (n * (u.nanos / nanosPerSecond)) 0 = .ok ⟨t + n * u.nanos⟩ := by
      have hadd := add_eq t (n * (u.nanos / nanosPerSecond)) 0 (by rwa [hseconds])
      rwa [hseconds, Nat.add_zero] at hadd
    simp only [addWhole, hsub, Bool.false_eq_true, if_false, hcheck, bind, Except.bind, hadd]

theorem addComponent_eq {t n : Nat} {name : String} {u : TimeUnit}
    (hname : TimeUnit.ofText? name = some u) (h : t + n * u.nanos < wordBound) :
    addComponent ⟨t⟩ n none name = .ok ⟨t + n * u.nanos⟩ := by
  simp only [addComponent, hname, addWhole_eq h]
  rfl

/-! ## Steps of the reader -/

namespace Reader

variable {r r' r'' : Reader} {cs ds : List Char} {c : Char} {sum : Timespan} {started : Bool}
  {n : Nat} {letters : List Char}

/-- Reading some characters takes a reader to another one, whatever comes after them. -/
def Reads (r : Reader) (cs : List Char) (r' : Reader) : Prop :=
  ∀ offset rest, ∃ offset', r.run offset (cs ++ rest) = r'.run offset' rest

theorem reads_nil (r : Reader) : r.Reads [] r := fun offset _ => ⟨offset, rfl⟩

theorem Reads.append (h : r.Reads cs r') (h' : r'.Reads ds r'') : r.Reads (cs ++ ds) r'' := by
  intro offset rest
  obtain ⟨between, hcs⟩ := h offset (ds ++ rest)
  obtain ⟨after, hds⟩ := h' between rest
  exact ⟨after, by rw [List.append_assoc, hcs, hds]⟩

theorem run_cons {offset : Nat} (h : r.step offset c = .ok r') (rest : List Char) :
    r.run offset (c :: rest) = r'.run (offset + c.utf8Size) rest := by
  rw [run, h]
  rfl

theorem reads_of_step (h : ∀ offset, r.step offset c = .ok r') : r.Reads [c] r' :=
  fun offset rest => ⟨offset + c.utf8Size, run_cons (h offset) rest⟩

theorem step_digit (hc : c.isDigit = true) (hbound : n * 10 + digitValue c < wordBound)
    (offset : Nat) :
    step ⟨sum, started, .number n⟩ offset c =
      .ok ⟨sum, started, .number (n * 10 + digitValue c)⟩ := by
  have hcheck : checkWord (n * 10 + digitValue c) = .ok (n * 10 + digitValue c) := if_pos hbound
  simp only [step, hc, if_true, hcheck]
  rfl

theorem reads_digits (hds : AllDigits ds)
    (hbound : n * 10 ^ ds.length + numeral ds < wordBound) :
    Reads ⟨sum, started, .number n⟩ ds
      ⟨sum, started, .number (n * 10 ^ ds.length + numeral ds)⟩ := by
  induction ds generalizing n with
  | nil => simpa [numeral] using reads_nil _
  | cons c ds ih =>
    have hsplit : n * 10 ^ (c :: ds).length + numeral (c :: ds) =
        (n * 10 + digitValue c) * 10 ^ ds.length + numeral ds := by
      rw [numeral_cons, List.length_cons]
      ring
    rw [hsplit] at hbound ⊢
    have hpower : 0 < 10 ^ ds.length := by positivity
    have hless := Nat.le_mul_of_pos_right (n * 10 + digitValue c) hpower
    have hfirst (offset : Nat) : step ⟨sum, started, .number n⟩ offset c =
        .ok ⟨sum, started, .number (n * 10 + digitValue c)⟩ :=
      step_digit (hds c List.mem_cons_self) (by omega) offset
    exact (reads_of_step hfirst).append (ih (fun d hd => hds d (List.mem_cons_of_mem c hd)) hbound)

/-- A number that reaches the bound is refused at the first digit that takes it there. -/
theorem run_tooLarge (hds : AllDigits ds) (hn : n < wordBound)
    (hbound : wordBound ≤ n * 10 ^ ds.length + numeral ds) (offset : Nat) (rest : List Char) :
    run ⟨sum, started, .number n⟩ offset (ds ++ rest) = .error .tooLarge := by
  induction ds generalizing n offset with
  | nil =>
    simp [numeral] at hbound
    omega
  | cons c ds ih =>
    have hc := hds c List.mem_cons_self
    by_cases hnext : n * 10 + digitValue c < wordBound
    · rw [List.cons_append, run_cons (step_digit hc hnext offset)]
      refine ih (fun d hd => hds d (List.mem_cons_of_mem c hd)) hnext ?_ _
      rw [numeral_cons, List.length_cons] at hbound
      calc wordBound
          ≤ n * 10 ^ (ds.length + 1) + (digitValue c * 10 ^ ds.length + numeral ds) := hbound
        _ = (n * 10 + digitValue c) * 10 ^ ds.length + numeral ds := by ring
    · have hstep : step ⟨sum, started, .number n⟩ offset c = .error .tooLarge := by
        have hcheck : checkWord (n * 10 + digitValue c) = .error .tooLarge := if_neg hnext
        simp only [step, hc, if_true, hcheck]
        rfl
      rw [List.cons_append, run, hstep]
      rfl

theorem reads_letters (hcs : ∀ c ∈ cs, isUnitLetter c = true) :
    Reads ⟨sum, started, .unit n none letters⟩ cs
      ⟨sum, started, .unit n none (cs.reverse ++ letters)⟩ := by
  induction cs generalizing letters with
  | nil => exact reads_nil _
  | cons c cs ih =>
    have hc := hcs c List.mem_cons_self
    have hstep (offset : Nat) : step ⟨sum, started, .unit n none letters⟩ offset c =
        .ok ⟨sum, started, .unit n none (c :: letters)⟩ := by
      simp [step, isDigit_of_isUnitLetter hc, isBlank_eq_false (.inl hc), hc]
    rw [List.reverse_cons, List.append_assoc]
    exact (reads_of_step hstep).append (ih fun d hd => hcs d (List.mem_cons_of_mem c hd))

/-- The name of a unit behind a number. -/
theorem reads_name (hne : cs ≠ []) (hcs : ∀ c ∈ cs, isUnitLetter c = true) :
    Reads ⟨sum, started, .number n⟩ cs ⟨sum, started, .unit n none cs.reverse⟩ := by
  obtain ⟨c, rest, rfl⟩ := List.exists_cons_of_ne_nil hne
  have hc := hcs c List.mem_cons_self
  have hstep (offset : Nat) : step ⟨sum, started, .number n⟩ offset c =
      .ok ⟨sum, started, .unit n none [c]⟩ := by
    simp [step, isDigit_of_isUnitLetter hc, isBlank_eq_false (.inl hc), hc]
  rw [List.reverse_cons]
  exact (reads_of_step hstep).append
    (reads_letters fun d hd => hcs d (List.mem_cons_of_mem c hd))

/-! ## Between two parts -/

/-- A reader that may read the first digit of a part, and has `t` nanoseconds together then. -/
def Awaits (r : Reader) (t : Nat) : Prop :=
  ∀ c, c.isDigit = true → ∃ started, r.Reads [c] ⟨⟨t⟩, started, .number (digitValue c)⟩

theorem awaits_start : Awaits ⟨⟨0⟩, false, .between⟩ 0 := fun c hc =>
  ⟨false, reads_of_step fun _ => by simp [step, hc]⟩

theorem awaits_unit {t : Nat}
    (h : addComponent sum n none (String.ofList letters.reverse) = .ok ⟨t⟩) :
    Awaits ⟨sum, started, .unit n none letters⟩ t := fun c hc =>
  ⟨true, reads_of_step fun _ => by simp only [step, hc, if_true, complete, h]; rfl⟩

/-- Reading a whole number with a unit adds it to the sum. -/
theorem Awaits.reads {t : Nat} (h : r.Awaits t) {p : Part} (hp : p.IsWhole)
    (hsum : t + p.nanos < wordBound) :
    ∃ r', r.Reads p.text r' ∧ r'.Awaits (t + p.nanos) ∧ r'.finish = .ok ⟨t + p.nanos⟩ := by
  obtain ⟨c, ds, hwhole⟩ := List.exists_cons_of_ne_nil (p.whole_ne_nil hp)
  have hdigits : AllDigits (c :: ds) := hwhole ▸ p.allDigits_whole
  have hnanos : p.nanos = numeral (c :: ds) * p.unit.nanos := by
    rw [p.nanos_of_isWhole hp, hwhole, Nat.mul_comm]
  have htext : p.text = [c] ++ ds ++ p.name.toList := by
    rw [Part.text, hp, hwhole]
    simp
  obtain ⟨hname, hletters⟩ := TimeUnit.letters_of_ofText? p.ofText?_name
  have hnumeral : digitValue c * 10 ^ ds.length + numeral ds < wordBound := by
    rw [← numeral_cons]
    have hpos := TimeUnit.nanos_pos p.unit
    have := Nat.le_mul_of_pos_right (numeral (c :: ds)) hpos
    omega
  obtain ⟨started, hfirst⟩ := h c (hdigits c List.mem_cons_self)
  have hrest : Reads ⟨⟨t⟩, started, .number (digitValue c)⟩ ds
      ⟨⟨t⟩, started, .number (digitValue c * 10 ^ ds.length + numeral ds)⟩ :=
    reads_digits (fun d hd => hdigits d (List.mem_cons_of_mem c hd)) hnumeral
  have hcomponent : addComponent ⟨t⟩ (digitValue c * 10 ^ ds.length + numeral ds) none
      (String.ofList p.name.toList.reverse.reverse) = .ok ⟨t + p.nanos⟩ := by
    rw [List.reverse_reverse, String.ofList_toList, ← numeral_cons, hnanos]
    exact addComponent_eq p.ofText?_name (by rwa [← hnanos])
  have hreads := (hfirst.append hrest).append (reads_name hname hletters)
  exact ⟨_, htext ▸ hreads, awaits_unit hcomponent, hcomponent⟩

/-- Reading whole numbers with units adds all of them, by induction on the parts. -/
theorem Awaits.reads_written {t : Nat} {parts : List Part} (h : r.Awaits t)
    (hfinish : r.finish = .ok ⟨t⟩) (hwhole : ∀ p ∈ parts, p.IsWhole)
    (hsum : t + total parts < wordBound) :
    ∃ r', r.Reads (written parts) r' ∧ r'.finish = .ok ⟨t + total parts⟩ := by
  induction parts generalizing r t with
  | nil => exact ⟨r, reads_nil r, hfinish⟩
  | cons p parts ih =>
    rw [total_cons, ← Nat.add_assoc] at hsum ⊢
    obtain ⟨next, hpart, hawaits, hnext⟩ :=
      h.reads (hwhole p List.mem_cons_self) (Nat.lt_of_le_of_lt (Nat.le_add_right _ _) hsum)
    obtain ⟨last, hrest, hlast⟩ :=
      ih hawaits hnext (fun q hq => hwhole q (List.mem_cons_of_mem p hq)) hsum
    exact ⟨last, hpart.append hrest, hlast⟩

end Reader

/-- Whole numbers with units, one behind the other, are read as their sum. -/
theorem readList_written {parts : List Part} (hne : parts ≠ []) (hwhole : ∀ p ∈ parts, p.IsWhole)
    (hsum : total parts < wordBound) : readList (written parts) = .ok ⟨total parts⟩ := by
  obtain ⟨p, parts, rfl⟩ := List.exists_cons_of_ne_nil hne
  rw [total_cons] at hsum ⊢
  have hfirst : 0 + p.nanos < wordBound := by omega
  obtain ⟨next, hpart, hawaits, hnext⟩ :=
    Reader.awaits_start.reads (hwhole p List.mem_cons_self) hfirst
  rw [Nat.zero_add] at hawaits hnext
  obtain ⟨last, hrest, hlast⟩ := hawaits.reads_written hnext
    (fun q hq => hwhole q (List.mem_cons_of_mem p hq)) hsum
  obtain ⟨offset, hrun⟩ := hpart.append hrest 0 []
  rw [List.append_nil] at hrun
  rw [written_cons, readList]
  exact (congrArg (· >>= Reader.finish) hrun).trans hlast

/-- A number that reaches the bound of a word is refused, whatever comes after it. -/
theorem readList_tooLarge {ds : List Char} (hds : AllDigits ds) (hbound : wordBound ≤ numeral ds)
    (rest : List Char) : readList (ds ++ rest) = .error .tooLarge := by
  cases ds with
  | nil => exact absurd hbound (by decide)
  | cons c ds =>
    have hc := hds c List.mem_cons_self
    have hdigit : digitValue c < wordBound := Nat.lt_trans (digitValue_lt hc) (by decide)
    -- The first digit is not checked, since no digit reaches the bound alone.
    have hstep : Reader.step ⟨⟨0⟩, false, .between⟩ 0 c =
        .ok ⟨⟨0⟩, false, .number (digitValue c)⟩ := by
      simp [Reader.step, hc]
    rw [numeral_cons] at hbound
    rw [readList, List.cons_append, Reader.run_cons hstep,
      Reader.run_tooLarge (fun d hd => hds d (List.mem_cons_of_mem c hd)) hdigit hbound]
    rfl

end ObjectGateway.Timespan
