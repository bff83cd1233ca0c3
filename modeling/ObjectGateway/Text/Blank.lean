/-!
# Blank characters

The characters of Unicode's `White_Space` property, and the trimming of text by a class of
characters.  Trimming is defined on character lists, so that what it keeps can be read off
`List.dropWhile`.
-/

namespace ObjectGateway.Text

/-- Whether a character has Unicode's `White_Space` property. -/
def isBlank (c : Char) : Bool :=
  let n := c.val.toNat
  (9 ≤ n && n ≤ 13) || n == 0x20 || n == 0x85 || n == 0xA0 || n == 0x1680 ||
    (0x2000 ≤ n && n ≤ 0x200A) || n == 0x2028 || n == 0x2029 || n == 0x202F ||
    n == 0x205F || n == 0x3000

/-- Drop the trailing characters of a class. -/
def dropTrailing (p : Char → Bool) (cs : List Char) : List Char :=
  (cs.reverse.dropWhile p).reverse

/-- Drop the characters of a class at both ends. -/
def trimList (p : Char → Bool) (cs : List Char) : List Char :=
  dropTrailing p (cs.dropWhile p)

/-- Drop the blank characters at both ends. -/
def trim (s : String) : String :=
  String.ofList (trimList isBlank s.toList)

/-- Drop the trailing characters of a class. -/
def trimEndWhile (p : Char → Bool) (s : String) : String :=
  String.ofList (dropTrailing p s.toList)

/-- Whether a character ends a line. -/
def isLineBreak (c : Char) : Bool :=
  c == '\n' || c == '\r'

/-- Remove every line feed and carriage return. -/
def stripLineBreaks (s : String) : String :=
  String.ofList (s.toList.filter fun c => !isLineBreak c)

/-- Remove the line breaks, then trim: the text of a single line. -/
def singleLine (s : String) : String :=
  trim (stripLineBreaks s)

/-- Lower-case the ASCII letters and leave every other character. -/
def asciiLower (s : String) : String :=
  String.ofList (s.toList.map Char.toLower)

/-- Upper-case the ASCII letters and leave every other character. -/
def asciiUpper (s : String) : String :=
  String.ofList (s.toList.map Char.toUpper)

/-- Equality of texts up to the case of ASCII letters. -/
def eqIgnoringCase (s t : String) : Bool :=
  asciiLower s == asciiLower t

end ObjectGateway.Text
