/-!
# Positions in a YAML text

Indentation gives a YAML text its structure, so a reader keeps the column of the character that it
is about to read.  Line breaks are brought to one form first: after that a line ends with a line
feed or with one of the two Unicode separators.
-/

namespace ObjectGateway.Yaml

/-- Whether a character ends a line. -/
def isBreak (c : Char) : Bool :=
  c == '\n' || c == '\r' || c.toNat == 0x85 || c.toNat == 0x2028 || c.toNat == 0x2029

/-- Whether a character is a space or a tab. -/
def isBlank (c : Char) : Bool :=
  c == ' ' || c == '\t'

/-- Whether a character separates words. -/
def isGap (c : Char) : Bool :=
  isBlank c || isBreak c

/-- Whether a character may stand in the name of an anchor or a directive. -/
def isNameChar (c : Char) : Bool :=
  c.isAlphanum || c == '_' || c == '-'

/-- Whether a character may stand in a YAML text at all. -/
def isAllowed (c : Char) : Bool :=
  let n := c.toNat
  n == 0x09 || n == 0x0A || n == 0x0D || (0x20 ≤ n && n ≤ 0x7E) || n == 0x85 ||
    (0xA0 ≤ n && n ≤ 0xD7FF) || (0xE000 ≤ n && n ≤ 0xFFFD && n != 0xFEFF) || 0x10000 ≤ n

/-- Write every line break but the Unicode separators as a line feed. -/
def unifyBreaks : List Char → List Char
  | [] => []
  | '\r' :: '\n' :: rest => '\n' :: unifyBreaks rest
  | c :: rest => (if c == '\r' || c.toNat == 0x85 then '\n' else c) :: unifyBreaks rest

/-- Whether a text begins a new document or ends one: three marks and a gap. -/
def startsMark (c : Char) : List Char → Bool
  | x :: y :: z :: rest => x == c && y == c && z == c && (rest.head?.elim true isGap)
  | _ => false

/-- Whether a line begins with a mark between documents. -/
def startsDocumentMark (cs : List Char) : Bool :=
  startsMark '-' cs || startsMark '.' cs

/-- A place in a text. -/
structure Cursor where
  /-- The characters from here on. -/
  rest : List Char
  line : Nat
  column : Nat
  /-- How many characters lie before. -/
  offset : Nat
  deriving Inhabited

namespace Cursor

/-- The start of a text. -/
def start (cs : List Char) : Cursor := ⟨cs, 0, 0, 0⟩

/-- Step over one character. -/
def next (c : Cursor) : Cursor :=
  match c.rest with
  | [] => c
  | x :: rest =>
    if isBreak x then ⟨rest, c.line + 1, 0, c.offset + 1⟩
    else ⟨rest, c.line, c.column + 1, c.offset + 1⟩

/-- Step over a number of characters. -/
def advance : Nat → Cursor → Cursor
  | 0, c => c
  | n + 1, c => advance n c.next

/-- Step to a later place, given what follows it. -/
def advanceTo (rest : List Char) (c : Cursor) : Cursor :=
  c.advance (c.rest.length - rest.length)

/-- Step over the characters of a class. -/
def skipWhile (p : Char → Bool) (c : Cursor) : Cursor :=
  c.advanceTo (c.rest.dropWhile p)

/-- The next character. -/
def peek? (c : Cursor) : Option Char := c.rest.head?

/-- Whether the character a number of places further on is of a class; the end of the text is of
every class. -/
def isAt (p : Char → Bool) (n : Nat) (c : Cursor) : Bool :=
  (c.rest[n]?).elim true p

end Cursor

end ObjectGateway.Yaml
