import ObjectGateway.Text.CaseFold
import ObjectGateway.Text.RangeTable

/-!
# Patterns

The tree of a regular expression.  A class of characters is a set that is built from ranges and
tables by the operations of sets; a pattern is built from classes, places and groups.
-/

namespace ObjectGateway.Pattern

/-- A set of characters. -/
inductive CharClass
  | range (low high : Nat)
  | tables (ts : List Text.RangeTable)
  | union (l r : CharClass)
  | inter (l r : CharClass)
  | diff (l r : CharClass)
  | symDiff (l r : CharClass)
  | compl (c : CharClass)
  /-- All case variants of the characters of a class. -/
  | folded (c : CharClass)

namespace CharClass

/-- The class without characters. -/
def empty : CharClass := tables []

/-- The class of one character. -/
def single (c : Char) : CharClass := range c.toNat c.toNat

/-- Whether a character belongs to a class. -/
def contains : CharClass → Char → Bool
  | range low high, c => low ≤ c.toNat && c.toNat ≤ high
  | tables ts, c => ts.any (·.contains c.toNat)
  | union l r, c => l.contains c || r.contains c
  | inter l r, c => l.contains c && r.contains c
  | diff l r, c => l.contains c && !r.contains c
  | symDiff l r, c => l.contains c != r.contains c
  | compl x, c => !x.contains c
  | folded x, c => (Text.caseVariants c).any x.contains

end CharClass

/-- A condition on a place between two characters. -/
inductive Anchor
  | textStart
  | textEnd
  | lineStart
  | lineEnd
  /-- Like `lineStart`, where a carriage return and a line feed together end a line. -/
  | lineStartPair
  | lineEndPair
  | boundary (word : CharClass)
  | notBoundary (word : CharClass)
  | wordStart (word : CharClass)
  | wordEnd (word : CharClass)
  | wordStartHalf (word : CharClass)
  | wordEndHalf (word : CharClass)

/-- Whether a condition holds between two characters; none stands at the ends of the text. -/
def Anchor.holds (a : Anchor) (before after : Option Char) : Bool :=
  let inside (word : CharClass) (c : Option Char) : Bool := (c.map word.contains).getD false
  match a with
  | textStart => before.isNone
  | textEnd => after.isNone
  | lineStart => before.isNone || before == some '\n'
  | lineEnd => after.isNone || after == some '\n'
  | lineStartPair =>
    before.isNone || before == some '\n' || (before == some '\r' && after != some '\n')
  | lineEndPair =>
    after.isNone || after == some '\r' || (after == some '\n' && before != some '\r')
  | boundary w => inside w before != inside w after
  | notBoundary w => inside w before == inside w after
  | wordStart w => !inside w before && inside w after
  | wordEnd w => inside w before && !inside w after
  | wordStartHalf w => !inside w before
  | wordEndHalf w => !inside w after

end Pattern

/-- A regular expression. -/
inductive Pattern
  | empty
  | one (c : Pattern.CharClass)
  | place (a : Pattern.Anchor)
  /-- A group whose match is remembered under its number. -/
  | group (index : Nat) (p : Pattern)
  | seq (l r : Pattern)
  /-- The left alternative is tried first. -/
  | alt (l r : Pattern)
  /-- At least `low` and at most `high` times, as often as possible when greedy. -/
  | repeated (p : Pattern) (low : Nat) (high : Option Nat) (greedy : Bool)

namespace Pattern

/-- Whether a pattern never matches a character. -/
def isZeroWidth : Pattern → Bool
  | empty | place _ => true
  | one _ => false
  | group _ p => p.isZeroWidth
  | seq l r | alt l r => l.isZeroWidth && r.isZeroWidth
  | repeated p _ high _ => p.isZeroWidth || high == some 0

/-- A repetition in its simplest form: what has no width is matched at most once. -/
def mkRepeated (p : Pattern) (low : Nat) (high : Option Nat) (greedy : Bool) : Pattern :=
  let (low, high) :=
    if p.isZeroWidth then (min low 1, some (min (high.getD 1) 1)) else (low, high)
  if low = 0 ∧ high = some 0 then empty
  else if low = 1 ∧ high = some 1 then p
  else repeated p low high greedy

/-- The number of the last group, or zero. -/
def lastGroup : Pattern → Nat
  | empty | one _ | place _ => 0
  | group i p => max i p.lastGroup
  | seq l r | alt l r => max l.lastGroup r.lastGroup
  | repeated p _ _ _ => p.lastGroup

end Pattern

end ObjectGateway
