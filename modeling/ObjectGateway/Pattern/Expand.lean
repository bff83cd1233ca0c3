import ObjectGateway.Pattern.Search

/-!
# Expanding matches

A replacement text refers to the groups of a match by `$name`, `$1` or `$` and a name in braces;
`$$` is one dollar sign.  A name without braces is as long as it can be.  A group that is not there
or took no part in the match is the empty text.
-/

namespace ObjectGateway.Pattern

/-- What the groups of a match hold, by number and by name. -/
structure Match where
  groups : List (Option (List Char))
  names : List (String × Nat)

/-- The text of a group. -/
def Match.text (m : Match) (i : Nat) : List Char :=
  ((m.groups[i]?).join).getD []

/-- Whether a character may stand in a name without braces. -/
def isReferenceChar (c : Char) : Bool :=
  c.isAlphanum || c == '_'

/-- Group numbers in references lie below this bound; longer numbers are names. -/
def referenceBound : Nat := Nat.pow 2 64

/-- The text that a reference stands for. -/
def Match.resolve (m : Match) (name : List Char) : List Char :=
  let digits := match name with
    | '+' :: rest => rest
    | cs => cs
  let number := digits.foldl (fun n c => n * 10 + (c.toNat - '0'.toNat)) 0
  if !digits.isEmpty && digits.all Char.isDigit && number < referenceBound then m.text number
  else
    match m.names.lookup (String.ofList name) with
    | some i => m.text i
    | none => []

/-- A reference at the start of a text that begins with a dollar sign. -/
inductive Reference
  /-- A name, and what follows the reference. -/
  | name (n rest : List Char)
  /-- A dollar sign that stands for itself. -/
  | none

/-- Read what follows a dollar sign as a reference. -/
def Reference.read : List Char → Reference
  | '{' :: cs =>
    match cs.dropWhile (· ≠ '}') with
    | _ :: rest => .name (cs.takeWhile (· ≠ '}')) rest
    | [] => .none
  | cs =>
    match cs.takeWhile isReferenceChar with
    | [] => .none
    | word => .name word (cs.dropWhile isReferenceChar)

theorem Reference.read_length {cs n rest : List Char}
    (h : Reference.read cs = .name n rest) : rest.length ≤ cs.length := by
  unfold Reference.read at h
  split at h
  · next cs' =>
    have hl := (List.dropWhile_sublist (l := cs') (· ≠ '}')).length_le
    split at h
    · next heq =>
      cases h
      rw [heq] at hl
      simp only [List.length_cons] at hl ⊢
      omega
    · cases h
  · split at h
    · cases h
    · cases h
      exact (List.dropWhile_sublist _).length_le

/-- Replace the references of a text. -/
def Match.expand (m : Match) : List Char → List Char
  | [] => []
  | '$' :: '$' :: tail => '$' :: m.expand tail
  | '$' :: rest =>
    match _h : Reference.read rest with
    | .name n tail => m.resolve n ++ m.expand tail
    | .none => '$' :: m.expand rest
  | c :: rest => c :: m.expand rest
termination_by cs => cs.length
decreasing_by
  · simp only [List.length_cons]; omega
  · have := Reference.read_length _h
    simp only [List.length_cons]; omega
  · simp only [List.length_cons]; omega
  · simp only [List.length_cons]; omega

end ObjectGateway.Pattern
