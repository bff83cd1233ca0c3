/-!
# Tables of code point ranges

A property of characters is written as text: ranges of code points in hexadecimal, separated by
blanks.  `a` is one code point, `a-b` all from `a` to `b`, and `a-b/2` every second one of those.
-/

namespace ObjectGateway.Text

/-- The code points from `first` to `last` that lie a multiple of `stride` after `first`. -/
structure CodeRange where
  first : Nat
  last : Nat
  stride : Nat
  deriving Repr, DecidableEq, Inhabited

/-- Whether a code point lies in a range. -/
def CodeRange.contains (r : CodeRange) (n : Nat) : Bool :=
  r.first ≤ n && n ≤ r.last && (n - r.first) % r.stride == 0

/-- A set of code points, as a list of ranges. -/
abbrev RangeTable := List CodeRange

/-- Whether a code point lies in one of the ranges. -/
def RangeTable.contains (t : RangeTable) (n : Nat) : Bool :=
  t.any (·.contains n)

/-- The value of a hexadecimal digit; other characters count as zero. -/
def hexValue (c : Char) : Nat :=
  if '0' ≤ c ∧ c ≤ '9' then c.toNat - '0'.toNat
  else if 'a' ≤ c ∧ c ≤ 'f' then c.toNat - 'a'.toNat + 10
  else if 'A' ≤ c ∧ c ≤ 'F' then c.toNat - 'A'.toNat + 10
  else 0

/-- Whether a character is a hexadecimal digit. -/
def isHexDigit (c : Char) : Bool :=
  ('0' ≤ c && c ≤ '9') || ('a' ≤ c && c ≤ 'f') || ('A' ≤ c && c ≤ 'F')

/-- The value of a run of hexadecimal digits. -/
def hexNumber (cs : List Char) : Nat :=
  cs.foldl (fun n c => n * 16 + hexValue c) 0

/-- What has been read of the range that is being read. -/
structure RangeReader where
  /-- Ranges already complete, last first. -/
  done : RangeTable
  /-- The first code point, once its hyphen has been read. -/
  first : Option Nat
  /-- The last code point, once its stroke has been read. -/
  last : Option Nat
  /-- The number being read. -/
  number : Nat

/-- Complete the range that is being read. -/
def RangeReader.flush (r : RangeReader) : RangeReader :=
  let range : CodeRange :=
    match r.first, r.last with
    | some a, some b => ⟨a, b, r.number⟩
    | some a, none => ⟨a, r.number, 1⟩
    | none, _ => ⟨r.number, r.number, 1⟩
  ⟨range :: r.done, none, none, 0⟩

/-- Read one character of a written table. -/
def RangeReader.step (r : RangeReader) (c : Char) : RangeReader :=
  if c = ' ' then r.flush
  else if c = '-' then { r with first := some r.number, number := 0 }
  else if c = '/' then { r with last := some r.number, number := 0 }
  else { r with number := r.number * 16 + hexValue c }

/-- Read a written table. -/
def RangeTable.read (s : String) : RangeTable :=
  (s.toList.foldl RangeReader.step ⟨[], none, none, 0⟩).flush.done.reverse

end ObjectGateway.Text
