import ObjectGateway.Pattern.Reader

/-!
# The size of patterns

A pattern is small and its program can be large: every repetition with counts copies what it
repeats, and a class of characters becomes a machine over octets.  The size of that program is
estimated before anything is built, so that a short text cannot ask for a program without bound.
-/

namespace ObjectGateway.Pattern

/-- The most octets that the program of a pattern may take. -/
def sizeLimit : Nat := 10485760

/-- The octets of one state of a program. -/
def stateSize : Nat := 32

/-- The octets that one more range adds to the program of a class. -/
def rangeSize : Nat := 30

/-- About how many ranges describe a class. -/
def CharClass.rangeCount : CharClass → Nat
  | range _ _ => 1
  | tables ts => (ts.map List.length).sum
  | union l r | inter l r | diff l r | symDiff l r => l.rangeCount + r.rangeCount
  | compl c => c.rangeCount + 10
  | folded c => c.rangeCount + 1

/-- The octets of the program of a class. -/
def CharClass.size (c : CharClass) : Nat := stateSize + rangeSize * (c.rangeCount - 1)

/-- The octets of the program of a pattern. -/
def size : Pattern → Nat
  | empty | place _ => stateSize
  | one c => c.size
  | group _ p => p.size + 2 * stateSize
  | seq l r => l.size + r.size
  | alt l r => l.size + r.size + stateSize
  | repeated p low (some high) _ => high * p.size + (high - low) * stateSize
  | repeated p low none _ => max low 1 * p.size + stateSize

/-- Why a text cannot be used as a pattern. -/
inductive SourceError
  | malformed
  | tooLarge
  deriving Repr, DecidableEq

/-- What a refusal adds behind the text of the pattern. -/
def SourceError.detail : SourceError → String
  | malformed => ""
  | tooLarge => ": Compiled regex exceeds size limit of " ++ toString sizeLimit ++ " bytes."

/-- Read a pattern whose program is not too large. -/
def load (source : String) : Except SourceError Compiled :=
  match read? source with
  | none => .error .malformed
  | some p => if p.tree.size ≤ sizeLimit then .ok p else .error .tooLarge

end ObjectGateway.Pattern
