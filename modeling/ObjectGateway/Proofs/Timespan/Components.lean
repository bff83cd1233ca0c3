import Mathlib.Data.List.TakeWhile
import ObjectGateway.Proofs.Text.Split
import ObjectGateway.Proofs.Timespan.Numerals

/-!
# The components with a fraction in a text

The pattern of a component with a fraction, `Component.Matches`, is found at the start of a text
exactly where the text goes on with no letter behind it: `take?_eq_some_iff`.  `components` are the
ones in a text from left to right.  Replacing them copies what lies between them, and fails as the
first of them does that cannot be replaced: `expand_eq_error_iff`.
-/

namespace ObjectGateway.Timespan

variable {c : Component} {cs ds rest : List Char} {x : Char} {e : FractionError}

/-! ## The pattern at the start of a text -/

/-- The characters of a component. -/
def Component.text (c : Component) : List Char := c.whole ++ '.' :: (c.fraction ++ c.unit)

/-- Digits, at least one digit behind the point, and a name of letters. -/
structure Component.Matches (c : Component) : Prop where
  whole : ∀ d ∈ c.whole, Text.isDecimalDigit d = true
  fraction : ∀ d ∈ c.fraction, Text.isDecimalDigit d = true
  fraction_ne_nil : c.fraction ≠ []
  unit : ∀ l ∈ c.unit, isUnitLetter l = true
  unit_ne_nil : c.unit ≠ []

theorem isDecimalDigit_point : Text.isDecimalDigit '.' = false := by decide

/-- The pattern is found where its characters stand, up to the last letter. -/
theorem take?_eq_some_iff :
    Component.take? cs = some (c, rest) ↔
      c.Matches ∧ cs = c.text ++ rest ∧ ∀ y ∈ rest.head?, isUnitLetter y = false := by
  constructor
  · intro h
    simp only [Component.take?] at h
    split at h
    · next afterPoint hpoint =>
      split at h
      · cases h
      · next hne =>
        cases h
        simp only [Bool.or_eq_true, List.isEmpty_iff, not_or] at hne
        refine ⟨⟨?_, ?_, hne.1, ?_, hne.2⟩, ?_, ?_⟩
        · exact fun d hd => List.mem_takeWhile_imp hd
        · exact fun d hd => List.mem_takeWhile_imp hd
        · exact fun l hl => List.mem_takeWhile_imp hl
        · rw [Component.text]
          simp only [List.append_assoc, List.cons_append, List.takeWhile_append_dropWhile]
          rw [← hpoint, List.takeWhile_append_dropWhile]
        · exact Text.head?_dropWhile_eq_false
    · cases h
  · rintro ⟨hc, rfl, hrest⟩
    -- Each run of characters ends where the next one starts: digits, point, digits, letters, rest.
    have hpoint : ∀ y ∈ ('.' :: (c.fraction ++ (c.unit ++ rest))).head?,
        Text.isDecimalDigit y = false := by
      rintro y ⟨⟩
      exact isDecimalDigit_point
    have hletters : ∀ y ∈ (c.unit ++ rest).head?, Text.isDecimalDigit y = false := by
      intro y hy
      rw [List.head?_append_of_ne_nil _ hc.unit_ne_nil] at hy
      exact isDecimalDigit_of_isUnitLetter (hc.unit y (List.mem_of_mem_head? hy))
    have htext : c.text ++ rest = c.whole ++ '.' :: (c.fraction ++ (c.unit ++ rest)) := by
      simp only [Component.text, List.append_assoc, List.cons_append]
    have hkeep : ¬(c.fraction.isEmpty || c.unit.isEmpty) = true := by
      simp [hc.fraction_ne_nil, hc.unit_ne_nil]
    simp only [Component.take?, htext, Text.dropWhile_append_stop hc.whole hpoint,
      Text.takeWhile_append_stop hc.whole hpoint, Text.dropWhile_append_stop hc.fraction hletters,
      Text.takeWhile_append_stop hc.fraction hletters, Text.dropWhile_append_stop hc.unit hrest,
      Text.takeWhile_append_stop hc.unit hrest, if_neg hkeep]

theorem point_mem_of_take? (h : Component.take? cs = some (c, rest)) : '.' ∈ cs := by
  obtain ⟨-, rfl, -⟩ := take?_eq_some_iff.1 h
  simp [Component.text]

/-- No component starts where digits go on with anything else than a point. -/
theorem take?_eq_none (ds : List Char) (hds : ∀ d ∈ ds, Text.isDecimalDigit d = true)
    (hx : Text.isDecimalDigit x = false) (hpoint : x ≠ '.') :
    Component.take? (ds ++ x :: rest) = none := by
  have hstop : ∀ y ∈ (x :: rest).head?, Text.isDecimalDigit y = false := by
    rintro y ⟨⟩
    exact hx
  simp only [Component.take?, Text.dropWhile_append_stop hds hstop]
  split
  · next h => exact absurd (List.cons.inj h).1 hpoint
  · rfl

/-! ## What one is replaced by -/

/-- The number that digits in front of a point write; zero where there are none. -/
def wholeNumber (ds : List Char) : Except FractionError Nat :=
  if ds.isEmpty then .ok 0 else (number? ds).elim (.error .tooLarge) .ok

/-- The digits of a fraction that are looked at. -/
def keptDigits (ds : List Char) : Except FractionError (List Char) :=
  (cut? 9 ds).elim (.error .splitCharacter) .ok

/-- The number of a fraction. -/
def fractionNumber (ds : List Char) : Except FractionError Nat :=
  (number? ds).elim (.error .invalidFraction) .ok

/-- The nanoseconds of a number of units, rounded down. -/
def scaled (unit whole fraction scale : Nat) : Except FractionError Nat :=
  let sum := unit * whole + unit * fraction / scale
  if unit * whole < doubleWordBound ∧ sum < doubleWordBound then .ok sum else .error .tooLarge

/-- A component is read one item after the other. -/
theorem Component.nanos_eq (c : Component) :
    c.nanos = (do
      let unit ← (readList ('1' :: c.unit)).mapError .unit
      let whole ← wholeNumber c.whole
      let digits ← keptDigits c.fraction
      let fraction ← fractionNumber digits
      scaled unit.nanos whole fraction (Nat.pow 10 digits.length)) := by
  rw [Component.nanos, wholeNumber, keptDigits]
  cases (readList ('1' :: c.unit)).mapError FractionError.unit with
  | error e => rfl
  | ok unit =>
    cases c.whole.isEmpty with
    | true =>
      cases cut? 9 c.fraction with
      | none => rfl
      | some digits =>
        simp only [fractionNumber, bind, Except.bind, pure, Except.pure, Option.elim_some, if_true]
        cases number? digits <;> rfl
    | false =>
      cases number? c.whole with
      | none => rfl
      | some whole =>
        cases cut? 9 c.fraction with
        | none => rfl
        | some digits =>
          simp only [fractionNumber, bind, Except.bind, pure, Except.pure, Option.elim_some,
            Bool.false_eq_true, if_false]
          cases number? digits <;> rfl

/-! ## All of them -/

/-- The components with a fraction in a text, from left to right. -/
def components (cs : List Char) : List Component :=
  match _h : Component.take? cs with
  | some (c, rest) => c :: components rest
  | none =>
    match cs with
    | [] => []
    | _ :: rest => components rest
termination_by cs.length
decreasing_by
  · exact Component.take?_length _h
  · simp

theorem components_of_take? (h : Component.take? cs = some (c, rest)) :
    components cs = c :: components rest := by
  rw [components.eq_def]
  split
  · next h' =>
    cases h.symm.trans h'
    rfl
  · next h' => cases h.symm.trans h'

theorem components_cons (h : Component.take? (x :: cs) = none) :
    components (x :: cs) = components cs := by
  rw [components.eq_def]
  split
  · next h' => cases h.symm.trans h'
  · rfl

theorem components_nil : components [] = [] := by
  rw [components.eq_def]
  rfl

theorem expand_of_take? (h : Component.take? cs = some (c, rest)) :
    expand cs = do
      let n ← c.nanos
      return (toString n).toList ++ ['n', 's'] ++ (← expand rest) := by
  rw [expand.eq_def]
  split
  · next h' =>
    cases h.symm.trans h'
    rfl
  · next h' => cases h.symm.trans h'

theorem expand_cons (h : Component.take? (x :: cs) = none) :
    expand (x :: cs) = do return x :: (← expand cs) := by
  rw [expand.eq_def]
  split
  · next h' => cases h.symm.trans h'
  · rfl

theorem expand_nil : expand [] = .ok [] := by
  rw [expand.eq_def]
  rfl

/-! ## What lies between them -/

/-- A text without a point stays as it is. -/
theorem expand_eq_self (h : '.' ∉ cs) : expand cs = .ok cs := by
  induction cs with
  | nil => exact expand_nil
  | cons x cs ih =>
    have hnone : Component.take? (x :: cs) = none :=
      Option.eq_none_iff_forall_ne_some.2 fun _ hsome => h (point_mem_of_take? hsome)
    rw [expand_cons hnone, ih fun hmem => h (List.mem_cons_of_mem x hmem)]
    rfl

/-- Every text is read after its components have been replaced. -/
theorem parse_eq (raw : String) :
    parse raw =
      let cs := Text.trimList Text.isBlank raw.toList
      if cs = ['0'] then .ok ⟨0⟩
      else
        (expand cs).mapError (·.failure raw) >>= fun out =>
          (readList out).mapError fun e => invalid raw e.message := by
  simp only [parse]
  generalize Text.trimList Text.isBlank raw.toList = cs
  by_cases hpoint : '.' ∈ cs
  · rw [if_pos (List.contains_iff_mem.2 hpoint)]
  · have hcontains : ¬cs.contains '.' = true := fun h => hpoint (List.contains_iff_mem.1 h)
    rw [if_neg hcontains, expand_eq_self hpoint]
    rfl

/-- Digits are copied that go on with anything else than a point. -/
theorem expand_digits (hds : ∀ d ∈ ds, Text.isDecimalDigit d = true)
    (hx : Text.isDecimalDigit x = false) (hpoint : x ≠ '.') :
    expand (ds ++ x :: rest) = do return ds ++ (← expand (x :: rest)) := by
  induction ds with
  | nil => exact (bind_pure (expand (x :: rest))).symm
  | cons d ds ih =>
    have hnone : Component.take? (d :: (ds ++ x :: rest)) = none :=
      take?_eq_none (d :: ds) hds hx hpoint
    rw [List.cons_append, expand_cons hnone, ih fun d' hd' => hds d' (List.mem_cons_of_mem d hd')]
    cases expand (x :: rest) with
    | error e => rfl
    | ok out => rfl

/-- Letters are copied. -/
theorem expand_letters (hcs : ∀ l ∈ cs, isUnitLetter l = true) (rest : List Char) :
    expand (cs ++ rest) = do return cs ++ (← expand rest) := by
  induction cs with
  | nil => exact (bind_pure (expand rest)).symm
  | cons l cs ih =>
    have hl := hcs l List.mem_cons_self
    have hnone : Component.take? (l :: (cs ++ rest)) = none :=
      take?_eq_none [] (by simp) (isDecimalDigit_of_isUnitLetter hl)
        (ne_point_of_isUnitLetter hl)
    rw [List.cons_append, expand_cons hnone, ih fun l' hl' => hcs l' (List.mem_cons_of_mem l hl')]
    cases expand rest with
    | error e => rfl
    | ok out => rfl

/-! ## The first one that cannot be replaced -/

/-- The reason why a component cannot be replaced, if there is one. -/
def Component.refusal (c : Component) : Option FractionError :=
  match c.nanos with
  | .ok _ => none
  | .error e => some e

theorem return_eq_error_iff {α β : Type} {r : Except FractionError α} {f : α → β} :
    (do return f (← r)) = Except.error e ↔ r = .error e := by
  cases r with
  | error e' =>
    show Except.error e' = Except.error e ↔ _
    rw [Except.error.injEq, Except.error.injEq]
  | ok a =>
    constructor
    · rintro ⟨⟩
    · rintro ⟨⟩

/-- Replacing fails as the first component does that cannot be replaced. -/
theorem expand_eq_error_iff :
    expand cs = .error e ↔ (components cs).findSome? Component.refusal = some e := by
  induction cs using components.induct with
  | case1 cs c rest h ih =>
    rw [expand_of_take? h, components_of_take? h, List.findSome?_cons, Component.refusal]
    -- The component in front decides if it cannot be replaced, and the rest decides otherwise.
    cases hc : c.nanos with
    | error e' =>
      show Except.error e' = Except.error e ↔ some e' = some e
      simp
    | ok n => exact return_eq_error_iff.trans ih
  | case2 h =>
    rw [expand_nil, components_nil]
    constructor
    · rintro ⟨⟩
    · rintro ⟨⟩
  | case3 x cs h ih =>
    rw [expand_cons h, components_cons h]
    exact return_eq_error_iff.trans ih

end ObjectGateway.Timespan
