/-!
# YAML nodes

A document is a tree of scalars, sequences and mappings.  A scalar keeps its text; what it means is
decided by whoever reads it, by the rules at the end of this module: only a plain scalar can be
null, a truth value or a number.
-/

namespace ObjectGateway.Yaml

/-- How a scalar was written. -/
inductive Style
  /-- Without quotes. -/
  | plain
  /-- As a block whose lines are kept. -/
  | literal
  /-- Between quotes, or as a block whose lines are joined. -/
  | quoted
  deriving Repr, DecidableEq

/-- A node of a document. -/
inductive Node
  | scalar (style : Style) (tag : Option String) (text : String)
  | sequence (items : List Node)
  | mapping (members : List (Node × Node))
  /-- A reference to a node that encloses it. -/
  | cycle
  deriving Inhabited

/-- The tag of null. -/
def nullTag : String := "tag:yaml.org,2002:null"

/-- The tag of truth values. -/
def boolTag : String := "tag:yaml.org,2002:bool"

/-- The tag of integers. -/
def intTag : String := "tag:yaml.org,2002:int"

/-- Whether a plain text is null. -/
def isNullText (s : String) : Bool :=
  s == "null" || s == "Null" || s == "NULL" || s == "~"

/-- The truth value that a plain text is. -/
def boolOfText? (s : String) : Option Bool :=
  if s == "true" || s == "True" || s == "TRUE" then some true
  else if s == "false" || s == "False" || s == "FALSE" then some false
  else none

/-- The value of a digit in a number of a given radix. -/
def digitValue? (radix : Nat) (c : Char) : Option Nat :=
  let v :=
    if '0' ≤ c ∧ c ≤ '9' then c.toNat - '0'.toNat
    else if 'a' ≤ c ∧ c ≤ 'z' then c.toNat - 'a'.toNat + 10
    else if 'A' ≤ c ∧ c ≤ 'Z' then c.toNat - 'A'.toNat + 10
    else radix
  if v < radix then some v else none

/-- The number that a non-empty run of digits denotes. -/
def digits? (radix : Nat) (cs : List Char) : Option Nat :=
  if cs.isEmpty then none
  else cs.foldlM (fun n c => (digitValue? radix c).map (n * radix + ·)) 0

/-- Whether a text is a zero followed by further decimal digits, which is no number. -/
def hasLeadingZero : List Char → Bool
  | '0' :: rest => !rest.isEmpty && rest.all Char.isDigit
  | _ => false

/-- The number that a text without a sign denotes: decimal, hexadecimal, octal or binary. -/
def natural? : List Char → Option Nat
  | '0' :: 'x' :: rest => digits? 16 rest
  | '0' :: 'o' :: rest => digits? 8 rest
  | '0' :: 'b' :: rest => digits? 2 rest
  | cs => if hasLeadingZero cs then none else digits? 10 cs

/-- The integer that a text denotes. -/
def integer? : List Char → Option Int
  | '+' :: rest => (natural? rest).map Int.ofNat
  | '-' :: rest => (natural? rest).map fun n => -Int.ofNat n
  | cs => (natural? cs).map Int.ofNat

namespace Node

/-- The text of a scalar. -/
def text? : Node → Option String
  | scalar _ _ s => some s
  | _ => none

/-- Whether a node stands where nothing was written. -/
def isBlank : Node → Bool
  | scalar .plain _ s => s.isEmpty
  | _ => false

/-- The text of a scalar that may hold a value of a tagged kind. -/
def valueText? (tag : String) : Node → Option String
  | scalar .plain _ s => some s
  | scalar .literal (some t) s => if t == tag then some s else none
  | _ => none

/-- The truth value of a node. -/
def bool? (n : Node) : Option Bool :=
  (n.valueText? boolTag).bind boolOfText?

/-- The integer of a node. -/
def int? (n : Node) : Option Int :=
  (n.valueText? intTag).bind fun s => integer? s.toList

/-- The integer of a node that carries no minus sign. -/
def nat? (n : Node) : Option Nat :=
  (n.valueText? intTag).bind fun s =>
    if s.toList.head? = some '-' then none else (integer? s.toList).map Int.toNat

/-- The items of a sequence; where nothing was written there are none. -/
def items? : Node → Option (List Node)
  | sequence items => some items
  | n => if n.isBlank then some [] else none

/-- The members of a mapping; where nothing was written there are none. -/
def members? : Node → Option (List (Node × Node))
  | mapping members => some members
  | n => if n.isBlank then some [] else none

/-- Whether a node is given or left out where it may be left out; a node that is tagged as null and
is not null is neither. -/
def given? : Node → Option Bool
  | scalar .plain none s => some (!s.isEmpty && !isNullText s)
  | scalar .plain (some t) s => if t == nullTag then if isNullText s then some false else none
    else some true
  | cycle => none
  | _ => some true

end Node

end ObjectGateway.Yaml
