import Mathlib.Algebra.Order.BigOperators.Group.List
import ObjectGateway.Proofs.Timespan.Fractions

/-!
# Spans with fractions as sums

A text of parts, with and without fractions, is read after each part with a fraction has been
replaced by a number of nanoseconds, `expand_written`.  No part runs into the next one: it starts
with a digit or a point, and the one before it ends with a letter.

The main statements are `parse_written`, numbers with at most nine digits behind the point are read
as the exact sum of their nanoseconds, and `parse_fraction`, which says what becomes of a single
number with any number of digits.
-/

namespace ObjectGateway.Timespan

variable {ds : List Char}

namespace Part

/-! ## The ends of what is written -/

theorem text_head {p : Part} : ∀ y ∈ p.text.head?, y.isDigit = true ∨ y = '.' := by
  intro y hy
  cases hwhole : p.whole with
  | nil =>
    obtain ⟨ds, hds⟩ := Option.ne_none_iff_exists'.1 fun hnone => p.whole_ne_nil hnone hwhole
    simp only [text, hwhole, hds] at hy
    cases hy
    exact .inr rfl
  | cons d ds =>
    simp only [text, hwhole] at hy
    cases hy
    exact .inl (p.allDigits_whole _ (hwhole ▸ List.mem_cons_self))

theorem text_ne_nil (p : Part) : p.text ≠ [] :=
  List.append_ne_nil_of_right_ne_nil _ (TimeUnit.letters_of_ofText? p.ofText?_name).1

theorem text_getLast {p : Part} : ∀ y ∈ p.text.getLast?, isUnitLetter y = true := by
  obtain ⟨hname, hletters⟩ := TimeUnit.letters_of_ofText? p.ofText?_name
  intro y hy
  rw [text, List.getLast?_append_of_ne_nil _ hname] at hy
  exact hletters y (List.mem_of_getLast? hy)

end Part

/-- What is written starts with a digit or with a point. -/
theorem written_head {parts : List Part} :
    ∀ y ∈ (written parts).head?, y.isDigit = true ∨ y = '.' := by
  intro y hy
  cases parts with
  | nil => cases hy
  | cons p parts =>
    rw [written_cons, List.head?_append_of_ne_nil _ p.text_ne_nil] at hy
    exact p.text_head y hy

/-- What is written ends with a letter. -/
theorem written_getLast {parts : List Part} :
    ∀ y ∈ (written parts).getLast?, isUnitLetter y = true := by
  intro y hy
  induction parts with
  | nil => cases hy
  | cons p parts ih =>
    rw [written_cons, List.getLast?_append, Option.mem_def, Option.or_eq_some_iff] at hy
    obtain hrest | ⟨-, hlast⟩ := hy
    · exact ih hrest
    · exact p.text_getLast y hlast

theorem trimList_written (parts : List Part) :
    Text.trimList Text.isBlank (written parts) = written parts := by
  refine Text.trimList_eq_self (fun y hy => ?_) fun y hy =>
    isBlank_eq_false (.inl (written_getLast y hy))
  obtain hdigit | rfl := written_head y hy
  · exact isBlank_eq_false (.inr hdigit)
  · decide

theorem written_ne_zero (parts : List Part) : written parts ≠ ['0'] := by
  intro h
  have hletter := written_getLast '0' (by rw [h]; rfl)
  cases hletter

/-! ## Replacing -/

theorem ofText?_ns : TimeUnit.ofText? "ns" = some .nanosecond := by decide

namespace Part

/-- What a part is replaced by. -/
def expanded (p : Part) : Part :=
  if p.places = none then p else ofNumber p.cut.nanos ofText?_ns

theorem isWhole_expanded (p : Part) : p.expanded.IsWhole := by
  unfold expanded
  split
  · assumption
  · exact isWhole_ofNumber p.cut.nanos ofText?_ns

theorem nanos_expanded (p : Part) : p.expanded.nanos = p.cut.nanos := by
  unfold expanded
  split
  · next h =>
    have hlength : p.digits.length ≤ 9 := by simp [digits, h]
    rw [cut_eq_self hlength]
  · exact (nanos_ofNumber p.cut.nanos ofText?_ns).trans (Nat.one_mul _)

/-- Each part is replaced where no letter stands behind it. -/
theorem expand_append {p : Part} (hp : p.cut.nanos < doubleWordBound) {rest : List Char}
    (hrest : ∀ y ∈ rest.head?, isUnitLetter y = false) :
    expand (p.text ++ rest) = do return p.expanded.text ++ (← expand rest) := by
  obtain ⟨hname, hletters⟩ := TimeUnit.letters_of_ofText? p.ofText?_name
  cases h : p.places with
  | none =>
    -- A part without a fraction is copied: its digits go on with a letter and not with a point.
    obtain ⟨l, ls, hl⟩ := List.exists_cons_of_ne_nil hname
    have htext : p.text = p.whole ++ l :: ls := by simp [text, h, hl]
    have hfirst : isUnitLetter l = true := hletters l (hl ▸ List.mem_cons_self)
    rw [expanded, if_pos h, htext, List.append_assoc, List.cons_append,
      expand_digits (fun d hd => isDecimalDigit_of_isDigit (p.allDigits_whole d hd))
        (isDecimalDigit_of_isUnitLetter hfirst) (ne_point_of_isUnitLetter hfirst),
      ← List.cons_append, expand_letters (hl ▸ hletters)]
    cases expand rest with
    | error e => rfl
    | ok out => simp
  | some ds =>
    -- The pattern takes all of a part with a fraction, since no letter follows its name.
    have hns : "ns".toList = ['n', 's'] := by decide
    have htoString : (toString p.cut.nanos).toList = Nat.toDigits 10 p.cut.nanos := by
      rw [Nat.toString_eq_ofList_toDigits, String.toList_ofList]
    have htake := take?_eq_some_iff.2 ⟨component_matches h, rfl, hrest⟩
    rw [expanded, if_neg (by simp [h]), text_of_places h, expand_of_take? htake, component_nanos h,
      if_pos hp, text_ofNumber, hns, ← htoString]
    rfl

end Part

/-- Parts are replaced one by one. -/
theorem expand_written {parts : List Part} (h : ∀ p ∈ parts, p.cut.nanos < doubleWordBound) :
    expand (written parts) = .ok (written (parts.map Part.expanded)) := by
  induction parts with
  | nil => exact expand_nil
  | cons p parts ih =>
    have hrest := ih fun q hq => h q (List.mem_cons_of_mem p hq)
    have hhead : ∀ y ∈ (written parts).head?, isUnitLetter y = false := fun y hy =>
      (written_head y hy).elim isUnitLetter_of_isDigit fun hpoint => hpoint ▸ by decide
    rw [written_cons, Part.expand_append (h p List.mem_cons_self) hhead, hrest]
    rfl

theorem total_expanded (parts : List Part) :
    total (parts.map Part.expanded) = total (parts.map Part.cut) := by
  simp only [total, List.map_map]
  congr 2
  funext p
  exact p.nanos_expanded

/-! ## Reading -/

section Reading

variable {parts : List Part} {before after : String}

/-- What is written between blanks is read after its parts have been replaced. -/
theorem parse_between (parts : List Part) (hbefore : ∀ c ∈ before.toList, Text.isBlank c = true)
    (hafter : ∀ c ∈ after.toList, Text.isBlank c = true) :
    parse (before ++ String.ofList (written parts) ++ after) =
      (expand (written parts)).mapError
          (·.failure (before ++ String.ofList (written parts) ++ after)) >>= fun out =>
        (readList out).mapError fun e =>
          invalid (before ++ String.ofList (written parts) ++ after) e.message := by
  rw [parse_eq, String.toList_append, String.toList_append, String.toList_ofList,
    Text.trimList_append hbefore hafter, trimList_written]
  exact if_neg (written_ne_zero parts)

/-- Parts between blanks are read as the sum of their cuts. -/
theorem parse_written_cut (hne : parts ≠ []) (hsum : total (parts.map Part.cut) < wordBound)
    (hbefore : ∀ c ∈ before.toList, Text.isBlank c = true)
    (hafter : ∀ c ∈ after.toList, Text.isBlank c = true) :
    parse (before ++ String.ofList (written parts) ++ after) =
      .ok ⟨total (parts.map Part.cut)⟩ := by
  have hcut : ∀ p ∈ parts, p.cut.nanos < doubleWordBound := by
    intro p hp
    have hless : p.cut.nanos ≤ total (parts.map Part.cut) :=
      List.single_le_sum (by simp) _ (List.mem_map_of_mem (List.mem_map_of_mem hp))
    exact Nat.lt_trans (Nat.lt_of_le_of_lt hless hsum) (by decide)
  have hwhole : ∀ p ∈ parts.map Part.expanded, p.IsWhole := by
    simp [Part.isWhole_expanded]
  rw [parse_between parts hbefore hafter, expand_written hcut]
  show (readList (written (parts.map Part.expanded))).mapError _ = _
  rw [readList_written (by simpa using hne) hwhole (by rwa [total_expanded]), total_expanded]
  rfl

/-- What replaces a part is refused at the bound of a word. -/
theorem readList_expanded_tooLarge {p : Part} (h : p.places ≠ none)
    (hbound : wordBound ≤ p.cut.nanos) : readList p.expanded.text = .error .tooLarge := by
  rw [Part.expanded, if_neg h, Part.text_ofNumber]
  exact readList_tooLarge (allDigits_toDigits _) (by rwa [numeral_toDigits]) _

/-- A single part is read after it has been replaced. -/
theorem parse_part (p : Part) :
    parse (String.ofList p.text) =
      (expand p.text).mapError (·.failure (String.ofList p.text)) >>= fun out =>
        (readList out).mapError fun e => invalid (String.ofList p.text) e.message := by
  have hblank : ∀ c ∈ "".toList, Text.isBlank c = true := by simp
  have hparse := parse_between [p] hblank hblank
  rwa [written_cons, written_nil, List.append_nil, String.empty_append, String.append_empty]
    at hparse

/-- A part with a fraction is refused at the bound of a word. -/
theorem parse_tooLarge {p : Part} (h : p.places ≠ none) (hbound : wordBound ≤ p.cut.nanos) :
    ∃ reason, parse (String.ofList p.text) =
      .error (invalid (String.ofList p.text) reason) := by
  rw [parse_part]
  by_cases hdouble : p.cut.nanos < doubleWordBound
  -- What is written for the part is a number that the reader refuses.
  · have hexpand : expand (written [p]) = .ok (written [p.expanded]) :=
      expand_written (by simpa using hdouble)
    rw [written_cons, written_nil, List.append_nil, written_cons, written_nil, List.append_nil]
      at hexpand
    rw [hexpand]
    show ∃ reason, (readList p.expanded.text).mapError _ = _
    rw [readList_expanded_tooLarge h hbound]
    exact ⟨_, rfl⟩
  -- Nothing is written for it.
  · obtain ⟨ds, hds⟩ := Option.ne_none_iff_exists'.1 h
    have htake : Component.take? p.text = some (p.component, []) :=
      take?_eq_some_iff.2 ⟨Part.component_matches hds,
        by rw [Part.text_of_places hds, List.append_nil], by simp⟩
    rw [expand_of_take? htake, Part.component_nanos hds, if_neg hdouble]
    exact ⟨_, rfl⟩

/-! ## The two main results -/

/-- The same number with a fraction, which is zero if the number has none. -/
def Part.pointed (p : Part) : Part where
  whole := p.whole
  places := some (p.places.getD ['0'])
  name := p.name
  unit := p.unit
  allDigits_whole := p.allDigits_whole
  whole_ne_nil := by simp
  allDigits_places ds hds := by
    cases hds
    cases h : p.places with
    | none => decide
    | some ds => exact p.allDigits_places ds h
  places_ne_nil ds hds := by
    cases hds
    cases h : p.places with
    | none => decide
    | some ds => exact p.places_ne_nil ds h
  ofText?_name := p.ofText?_name

theorem Part.pointed_of_places {p : Part} (h : p.places = some ds) : p.pointed = p := by
  cases p
  cases h
  rfl

theorem Part.digits_pointed {p : Part} (h : p.IsWhole) : p.pointed.digits = ['0'] := by
  rw [IsWhole] at h
  simp [pointed, digits, h]

theorem Part.nanos_pointed (p : Part) : p.pointed.nanos = p.nanos := by
  cases h : p.places with
  | some ds => rw [pointed_of_places h]
  | none =>
    have hzero : numeral ['0'] = 0 := by decide
    rw [nanos_eq, digits_pointed h, numeral_append, hzero, Nat.add_zero, nanos_of_isWhole h,
      ← Nat.mul_assoc]
    exact Nat.mul_div_cancel _ (by decide)

theorem Part.length_pointed {p : Part} (h : p.digits.length ≤ 9) : p.pointed.digits.length ≤ 9 := by
  cases hplaces : p.places with
  | some ds => rwa [pointed_of_places hplaces]
  | none =>
    rw [digits_pointed hplaces]
    decide

/-- Parts with at most nine digits behind the point are not cut. -/
theorem total_cut (h : ∀ p ∈ parts, p.digits.length ≤ 9) :
    total (parts.map Part.cut) = total parts := by
  rw [List.map_congr_left fun p hp => Part.cut_eq_self (h p hp), List.map_id']

/-- Parts with and without a point are alike. -/
theorem alike_pointed {others : List Part}
    (h : List.Forall₂ (fun p q => q = p ∨ q = p.pointed) parts others)
    (hplaces : ∀ p ∈ parts, p.digits.length ≤ 9) :
    total others = total parts ∧ ∀ q ∈ others, q.digits.length ≤ 9 := by
  induction h with
  | nil => exact ⟨rfl, by simp⟩
  | @cons p q parts others hpq _ ih =>
    obtain ⟨htotal, hothers⟩ := ih fun r hr => hplaces r (List.mem_cons_of_mem p hr)
    have hp := hplaces p List.mem_cons_self
    obtain ⟨hnanos, hlength⟩ : q.nanos = p.nanos ∧ q.digits.length ≤ 9 := by
      obtain rfl | rfl := hpq
      · exact ⟨rfl, hp⟩
      · exact ⟨p.nanos_pointed, Part.length_pointed hp⟩
    refine ⟨?_, List.forall_mem_cons.2 ⟨hlength, hothers⟩⟩
    rw [total_cons, total_cons, hnanos, htotal]

/-- Numbers with units, with at most nine digits behind a point, are read as the exact sum of their
nanoseconds, each of them rounded down, if this lies below the bound of a word; and so are they with
a fraction of zero in some of those that have none. -/
theorem parse_written (hne : parts ≠ []) (hplaces : ∀ p ∈ parts, p.digits.length ≤ 9)
    (hsum : total parts < wordBound) (hbefore : ∀ c ∈ before.toList, Text.isBlank c = true)
    (hafter : ∀ c ∈ after.toList, Text.isBlank c = true) :
    parse (before ++ String.ofList (written parts) ++ after) = .ok ⟨total parts⟩ ∧
      ∀ others, List.Forall₂ (fun p q => q = p ∨ q = p.pointed) parts others →
        parse (before ++ String.ofList (written others) ++ after) = .ok ⟨total parts⟩ := by
  have halike : ∀ others, List.Forall₂ (fun p q => q = p ∨ q = p.pointed) parts others →
      parse (before ++ String.ofList (written others) ++ after) = .ok ⟨total parts⟩ := by
    intro others hothers
    obtain ⟨htotal, hlength⟩ := alike_pointed hothers hplaces
    have hcut : total (others.map Part.cut) = total parts := by rw [total_cut hlength, htotal]
    have hsome : others ≠ [] := by
      rintro rfl
      exact hne (List.forall₂_nil_right_iff.1 hothers)
    rw [← hcut]
    exact parse_written_cut hsome (by rwa [hcut]) hbefore hafter
  exact ⟨halike parts (List.forall₂_same.2 fun p _ => .inl rfl), halike⟩

/-- Numbers of hours, minutes and seconds, in one text between blanks. -/
theorem parse_written_mixed :
    ∃ hour half second minutes : Part,
      [hour, half, second, minutes].map Part.text =
          [['1', 'h'], ['0', '.', '5', 'm'], ['.', '5', 's'], ['2', 'm']] ∧
        total [hour, half, second, minutes] = 3750500000000 ∧ 3750500000000 < wordBound ∧
        parse " 1h0.5m.5s2m\n" = .ok ⟨3750500000000⟩ ∧
        parse " 1.0h0.5m.5s2m\n" = .ok ⟨3750500000000⟩ := by
  let hour : Part := ⟨['1'], none, "h", .hour, by decide, by decide, by simp, by simp, by decide⟩
  let half : Part :=
    ⟨['0'], some ['5'], "m", .minute, by decide, by simp, by simp [AllDigits], by simp, by decide⟩
  let second : Part :=
    ⟨[], some ['5'], "s", .second, by decide, by simp, by simp [AllDigits], by simp, by decide⟩
  let minutes : Part :=
    ⟨['2'], none, "m", .minute, by decide, by decide, by simp, by simp, by decide⟩
  have htotal : total [hour, half, second, minutes] = 3750500000000 := by
    simp only [total_cons, total_nil, Part.nanos_eq]
    decide
  have hsum : total [hour, half, second, minutes] < wordBound := by
    rw [htotal]
    decide
  have hblank : ∀ c ∈ " ".toList, Text.isBlank c = true := List.all_eq_true.1 (by decide)
  have hline : ∀ c ∈ "\n".toList, Text.isBlank c = true := List.all_eq_true.1 (by decide)
  have hplaces : ∀ p ∈ [hour, half, second, minutes], p.digits.length ≤ 9 := by decide
  obtain ⟨hread, halike⟩ := parse_written (by simp) hplaces hsum hblank hline
  have hpointed := halike [hour.pointed, half, second, minutes]
    (.cons (.inr rfl) (.cons (.inl rfl) (.cons (.inl rfl) (.cons (.inl rfl) .nil))))
  rw [htotal] at hread hpointed
  have htext : " " ++ String.ofList (written [hour, half, second, minutes]) ++ "\n" =
      " 1h0.5m.5s2m\n" := by decide
  have hpoint : " " ++ String.ofList (written [hour.pointed, half, second, minutes]) ++ "\n" =
      " 1.0h0.5m.5s2m\n" := by decide
  rw [htext] at hread
  rw [hpoint] at hpointed
  exact ⟨hour, half, second, minutes, by decide, htotal, by decide, hread, hpointed⟩

/-- A number with a fraction is read as the nanoseconds of its first nine digits behind the point,
rounded down, if they lie below the bound of a word, and is refused otherwise.  For at most nine
digits, or a unit up to the second, these are the nanoseconds of the number itself; for other units
the cut loses less than the unit has seconds.  The unit times nine digits has two words. -/
theorem parse_fraction {p : Part} (h : p.places ≠ none) :
    (p.cut.nanos < wordBound → parse (String.ofList p.text) = .ok ⟨p.cut.nanos⟩) ∧
      (wordBound ≤ p.cut.nanos → ∃ reason, parse (String.ofList p.text) =
        .error (invalid (String.ofList p.text) reason)) ∧
      (p.digits.length ≤ 9 ∨ p.unit.nanos ≤ nanosPerSecond → p.cut.nanos = p.nanos) ∧
      (p.cut.nanos ≤ p.nanos) ∧
      (nanosPerSecond < p.unit.nanos →
        p.nanos < p.cut.nanos + p.unit.nanos / nanosPerSecond) ∧
      p.unit.nanos * numeral (p.digits.take 9) < doubleWordBound := by
  refine ⟨fun hless => ?_, parse_tooLarge h, ?_, p.cut_nanos_le, Part.nanos_lt_cut, ?_⟩
  · have hblank : ∀ c ∈ "".toList, Text.isBlank c = true := by simp
    have hparse := parse_written_cut (List.cons_ne_nil p []) (by simpa using hless) hblank hblank
    simpa using hparse
  · rintro (hshort | hunit)
    · rw [Part.cut_eq_self hshort]
    · exact Part.nanos_cut_of_le_second hunit
  · rw [← p.digits_cut]
    exact p.product_lt

/-- A fraction of an hour, one that reaches the bound, and one that is cut to no effect. -/
theorem parse_fraction_hours :
    parse "1.5h" = .ok ⟨5400000000000⟩ ∧
      (∃ reason, parse "600000000000.5h" = .error (invalid "600000000000.5h" reason)) ∧
      parse "1.9999999999s" = .ok ⟨1999999999⟩ := by
  let hours (n : List Char) (hn : AllDigits n) : Part :=
    ⟨n, some ['5'], "h", .hour, hn, by simp, by simp [AllDigits], by simp, by decide⟩
  let nines : List Char := ['9', '9', '9', '9', '9', '9', '9', '9', '9', '9']
  let seconds : Part :=
    ⟨['1'], some nines, "s", .second, by decide, by simp, by simp [AllDigits, nines],
      by simp [nines], by decide⟩
  let few := hours ['1'] (by decide)
  let many := hours ['6', '0', '0', '0', '0', '0', '0', '0', '0', '0', '0', '0'] (by decide)
  have hfew : few.cut.nanos = 5400000000000 := by
    rw [Part.nanos_cut]
    decide
  have hmany : wordBound ≤ many.cut.nanos := by
    rw [Part.nanos_cut]
    decide
  have hseconds : seconds.cut.nanos = 1999999999 := by
    rw [Part.nanos_cut]
    decide
  have hfewText : String.ofList few.text = "1.5h" := by decide
  have hmanyText : String.ofList many.text = "600000000000.5h" := by decide
  have hsecondsText : String.ofList seconds.text = "1.9999999999s" := by decide
  have hread := (parse_fraction (p := few) (by simp [few, hours])).1 (by rw [hfew]; decide)
  have hrefused := (parse_fraction (p := many) (by simp [many, hours])).2.1 hmany
  have hcut := (parse_fraction (p := seconds) (by simp [seconds])).1 (by rw [hseconds]; decide)
  rw [hfewText, hfew] at hread
  rw [hmanyText] at hrefused
  rw [hsecondsText, hseconds] at hcut
  exact ⟨hread, hrefused, hcut⟩

/-- The tenth digit of a fraction of a minute is worth six nanoseconds, which are lost. -/
theorem tenth_digit_lost :
    ∃ p : Part, p.places = some ['0', '0', '0', '0', '0', '0', '0', '0', '0', '1'] ∧
      String.ofList p.text = "0.0000000001m" ∧ p.nanos = 6 ∧
      parse "0.0000000001m" = .ok ⟨0⟩ := by
  let places : List Char := ['0', '0', '0', '0', '0', '0', '0', '0', '0', '1']
  let p : Part :=
    ⟨['0'], some places, "m", .minute, by decide, by simp, by simp [AllDigits, places],
      by simp [places], by decide⟩
  have hnanos : p.nanos = 6 := by
    rw [Part.nanos_eq]
    decide
  have hcut : p.cut.nanos = 0 := by
    rw [Part.nanos_cut]
    decide
  have htext : "" ++ String.ofList (written [p]) ++ "" = "0.0000000001m" := by decide
  have hblank : ∀ c ∈ "".toList, Text.isBlank c = true := by simp
  have htotal : total ([p].map Part.cut) = 0 := hcut
  have hread := parse_written_cut (List.cons_ne_nil p []) (by rw [htotal]; decide) hblank hblank
  rw [htotal, htext] at hread
  exact ⟨p, rfl, by decide, hnanos, hread⟩

end Reading

end ObjectGateway.Timespan
