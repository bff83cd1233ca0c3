import ObjectGateway.Text.Blank
import ObjectGateway.Text.Utf8

/-!
# Headers

The headers of a message, in the order in which they were added.  Names are tokens of a bounded
length and are kept in lower case; a value is a sequence of octets, of which visible ASCII can be
read as text.
-/

namespace ObjectGateway.Http

/-- A header. -/
structure Header where
  name : String
  value : Bytes
  deriving Repr, DecidableEq

/-- The headers of a message. -/
abbrev Headers := List Header

/-- Whether an octet may stand in a value: a tab, or anything else but control characters. -/
def isValueByte (b : UInt8) : Bool :=
  b == 9 || (32 ≤ b && b != 127)

/-- Whether octets are the value of a header. -/
def isValue (bs : Bytes) : Bool := bs.all isValueByte

/-- Whether an octet of a value is readable text. -/
def isTextByte (b : UInt8) : Bool :=
  b == 9 || (32 ≤ b && b < 127)

/-- Whether a character may stand in a token, such as a name or a method. -/
def isTokenChar (c : Char) : Bool :=
  c.isAlphanum || "!#$%&'*+-.^_|~".toList.contains c || c.toNat == 0x60

/-- Whether a text is a token. -/
def isToken (s : String) : Bool :=
  !s.isEmpty && s.toList.all isTokenChar

/-- The most octets that a name may have. -/
def longestName : Nat := 65535

/-- Whether a text is the name of a header. -/
def isName (s : String) : Bool :=
  isToken s && s.utf8ByteSize ≤ longestName

/-- The text of a value, if all of it is readable. -/
def valueText? (bs : Bytes) : Option String :=
  if bs.all isTextByte then some (String.ofList (bs.map fun b => Char.ofNat b.toNat)) else none

namespace Headers

/-- The values of a header. -/
def values (hs : Headers) (name : String) : List Bytes :=
  (hs.filter (·.name == name)).map (·.value)

/-- The first value of a header. -/
def get? (hs : Headers) (name : String) : Option Bytes :=
  (hs.find? (·.name == name)).map (·.value)

/-- The text of the first value of a header. -/
def text? (hs : Headers) (name : String) : Option String :=
  (hs.get? name).bind valueText?

/-- Add a header. -/
def add (hs : Headers) (name : String) (value : Bytes) : Headers :=
  hs ++ [⟨Text.asciiLower name, value⟩]

end Headers

end ObjectGateway.Http
