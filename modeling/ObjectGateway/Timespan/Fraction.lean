import ObjectGateway.Failure
import ObjectGateway.Timespan.Read

/-!
# Spans with fractions

A component such as `1.5s` is replaced by its whole nanoseconds before the text is read, so that
fractions of every unit are exact to the nanosecond.  Only the first nine octets of the fraction
are looked at.
-/

namespace ObjectGateway.Timespan

/-- Why a component with a fraction cannot be replaced. -/
inductive FractionError
  | unit (e : ReadError)
  | tooLarge
  | invalidFraction
  /-- The cut after nine octets falls inside a character. -/
  | splitCharacter
  deriving Repr, DecidableEq

/-- A number, a point, digits and letters. -/
structure Component where
  whole : List Char
  fraction : List Char
  unit : List Char
  deriving Repr, DecidableEq

/-- The component that a text starts with, and what follows it. -/
def Component.take? (cs : List Char) : Option (Component × List Char) :=
  let whole := cs.takeWhile Text.isDecimalDigit
  match cs.dropWhile Text.isDecimalDigit with
  | '.' :: afterPoint =>
    let fraction := afterPoint.takeWhile Text.isDecimalDigit
    let afterFraction := afterPoint.dropWhile Text.isDecimalDigit
    let unit := afterFraction.takeWhile isUnitLetter
    if fraction.isEmpty || unit.isEmpty then none
    else some (⟨whole, fraction, unit⟩, afterFraction.dropWhile isUnitLetter)
  | _ => none

theorem Component.take?_length {cs rest : List Char} {c : Component}
    (h : Component.take? cs = some (c, rest)) : rest.length < cs.length := by
  simp only [Component.take?] at h
  have h₁ := (List.dropWhile_sublist (l := cs) Text.isDecimalDigit).length_le
  split at h
  · next afterPoint heq =>
    rw [heq] at h₁
    have h₂ := (List.dropWhile_sublist (l := afterPoint) Text.isDecimalDigit).length_le
    have h₃ := (List.dropWhile_sublist (l := afterPoint.dropWhile Text.isDecimalDigit)
      isUnitLetter).length_le
    split at h
    · cases h
    · cases h
      simp only [List.length_cons] at h₁
      omega
  · cases h

/-- Numbers in a fraction must lie below this bound. -/
def doubleWordBound : Nat := Nat.pow 2 128

/-- The number that ASCII digits write. -/
def number? (cs : List Char) : Option Nat :=
  if cs.all Char.isDigit && !cs.isEmpty then
    let n := cs.foldl (fun n c => n * 10 + digitValue c) 0
    if n < doubleWordBound then some n else none
  else none

/-- The characters in the first `n` octets; nothing where the cut would split a character. -/
def cut? : Nat → List Char → Option (List Char)
  | _, [] => some []
  | 0, _ => some []
  | n, c :: cs => if c.utf8Size ≤ n then (cut? (n - c.utf8Size) cs).map (c :: ·) else none

/-- The nanoseconds of a component, rounded down. -/
def Component.nanos (c : Component) : Except FractionError Nat := do
  let unit ← (readList ('1' :: c.unit)).mapError .unit
  let whole ← if c.whole.isEmpty then pure 0 else
    match number? c.whole with
    | some n => pure n
    | none => .error .tooLarge
  let digits ← match cut? 9 c.fraction with
    | some ds => pure ds
    | none => .error .splitCharacter
  let fraction ← match number? digits with
    | some n => pure n
    | none => .error .invalidFraction
  let sum := unit.nanos * whole + unit.nanos * fraction / Nat.pow 10 digits.length
  if unit.nanos * whole < doubleWordBound ∧ sum < doubleWordBound then .ok sum
  else .error .tooLarge

/-- Replace every component with a fraction by its nanoseconds. -/
def expand (cs : List Char) : Except FractionError (List Char) := do
  match _h : Component.take? cs with
  | some (c, rest) =>
    let n ← c.nanos
    return (toString n).toList ++ ['n', 's'] ++ (← expand rest)
  | none =>
    match cs with
    | [] => .ok []
    | c :: rest => return c :: (← expand rest)
termination_by cs.length
decreasing_by
  · exact Component.take?_length _h
  · simp

/-- The failure for a text that is not a span. -/
def invalid (raw reason : String) : Failure :=
  .config ("invalid duration " ++ Text.Quoted.quote raw ++ ": " ++ reason)

/-- The failure for a component that cannot be replaced. -/
def FractionError.failure (raw : String) : FractionError → Failure
  | unit e => invalid raw e.message
  | tooLarge => invalid raw "number is too large"
  | invalidFraction => invalid raw "invalid fraction"
  | splitCharacter => .aborted

/-- Read a span such as `250ms`, `1m 30s`, `1.5h` or `0`. -/
def parse (raw : String) : Answer Timespan := do
  let cs := Text.trimList Text.isBlank raw.toList
  if cs = ['0'] then .ok ⟨0⟩
  else
    let cs ← if cs.contains '.' then (expand cs).mapError (·.failure raw) else .ok cs
    (readList cs).mapError fun e => invalid raw e.message

end ObjectGateway.Timespan
