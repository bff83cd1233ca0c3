import ObjectGateway.Text.Category

/-!
# Properties of characters

The classes of characters that the gateway asks for, each a union of general categories and a few
named ranges.  Every class decides ASCII characters without looking at a table.
-/

namespace ObjectGateway.Text

open Category

/-- Whether a code point lies in one of the tables. -/
def inAny (tables : List RangeTable) (n : Nat) : Bool :=
  tables.any (·.contains n)

/-- The letters of every category. -/
def letterTables : List RangeTable :=
  [upper, lower, title, modifier, otherLetter]

/-- The marks of every category. -/
def markTables : List RangeTable :=
  [nonspacing, spacing, enclosing]

/-- The joiners and the encircled letters, which belong to words without being letters. -/
def wordExtras : RangeTable :=
  .read "200c-200d 24b6-24e9 1f130-1f149 1f150-1f169 1f170-1f189"

/-- Characters that continue the one before them without being marks that do. -/
def otherExtenders : RangeTable :=
  .read ("9be 9d7 b3e b57 bbe bd7 cc0 cc2 cc7-cc8 cca-ccb cd5-cd6 d3e d57 dcf ddf 1715 1734 1b35 1b3b " ++
    "1b3d 1b43-1b44 1baa 1bf2-1bf3 200c 302e-302f a953 a9c0 ff9e-ff9f 111c0 11235 1133e 1134d " ++
    "11357 113b8 113c2 113c5 113c7-113c9 113cf 114b0 114bd 115af 116b6 11930 1193d 11f41 " ++
    "16ff0-16ff1 1d165-1d166 1d16d-1d172 e0020-e007f")

/-- Whether a character is a decimal digit of some script. -/
def isDecimalDigit (c : Char) : Bool :=
  if c.toNat < 0x80 then c.isDigit else decimal.contains c.toNat

/-- Whether a character extends the character before it. -/
def isExtender (c : Char) : Bool :=
  if c.toNat < 0x80 then false else inAny [nonspacing, enclosing, otherExtenders] c.toNat

/-- Whether a character can be shown as it is: no control, separator or unassigned code point. -/
def isPrintable (c : Char) : Bool :=
  if c.toNat < 0x80 then 0x20 ≤ c.toNat && c.toNat < 0x7F
  else !inAny [control, format, privateUse, surrogate, unassigned, space, lineSeparator,
    paragraphSeparator] c.toNat

/-- Whether a character is alphabetic or a number. -/
def isAlphanumeric (c : Char) : Bool :=
  if c.toNat < 0x80 then c.isAlphanum
  else inAny (letterTables ++ [decimal, letterNumber, otherNumber]) c.toNat

end ObjectGateway.Text
