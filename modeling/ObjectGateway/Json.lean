import ObjectGateway.Decimal

/-!
# JSON values

The values that configurations, requests and events are written as.  The members of an object keep
their order, because the order in which an event is written is part of what a receiver sees.
-/

namespace ObjectGateway

/-- A JSON value; integers and other numbers are kept apart. -/
inductive Json
  | null
  | bool (b : Bool)
  | int (i : Int)
  | real (x : Float)
  | str (s : String)
  | arr (items : List Json)
  | obj (members : List (String × Json))
  deriving Inhabited

namespace Json

/-- A text, or null when there is none. -/
def ofText? : Option String → Json
  | some s => .str s
  | none => .null

/-- A list of texts. -/
def ofTexts (ss : List String) : Json :=
  .arr (ss.map .str)

/-- A map of texts. -/
def ofTextMap (m : List (String × String)) : Json :=
  .obj (m.map fun (k, v) => (k, .str v))

/-- Two hexadecimal digits. -/
def hexPair (n : Nat) : List Char :=
  let digit (d : Nat) := if d < 10 then Char.ofNat (48 + d) else Char.ofNat (87 + d)
  [digit (n / 16), digit (n % 16)]

/-- A character between the quotes of a JSON string. -/
def escape (c : Char) : List Char :=
  if c = '"' then ['\\', '"']
  else if c = '\\' then ['\\', '\\']
  else if c = '\n' then ['\\', 'n']
  else if c = '\r' then ['\\', 'r']
  else if c = '\t' then ['\\', 't']
  else if c.toNat = 8 then ['\\', 'b']
  else if c.toNat = 12 then ['\\', 'f']
  else if c.toNat < 0x20 then ['\\', 'u', '0', '0'] ++ hexPair c.toNat
  else [c]

/-- A JSON string. -/
def quote (s : String) : String :=
  String.ofList ('"' :: s.toList.flatMap escape ++ ['"'])

/-- The text of a number that is no integer: positional between `1e-5` and `1e16`, with an exponent
outside of that. -/
def realText (x : Float) : String :=
  let b := Decimal.Binary.ofFloat x
  if b.significand == 0 then if b.negative then "-0.0" else "0.0"
  else
    let (digits, e) := Decimal.shortestDigits b
    let ds := Nat.toDigits 10 digits
    let point : Int := ds.length + e
    let body :=
      if 0 ≤ e && point ≤ 16 then Decimal.positional digits e ++ ".0"
      else if -5 < point && point ≤ 16 then Decimal.positional digits e
      else
        let tail := ds.drop 1
        String.ofList (ds.take 1 ++ (if tail.isEmpty then [] else '.' :: tail)) ++ "e" ++
          toString (point - 1)
    if b.negative then "-" ++ body else body

mutual

/-- The compact text of a value. -/
def compact : Json → String
  | .null => "null"
  | .bool b => if b then "true" else "false"
  | .int i => toString i
  | .real x => realText x
  | .str s => quote s
  | .arr items => "[" ++ compactItems items ++ "]"
  | .obj members => "\x7b" ++ compactMembers members ++ "\x7d"

/-- The items of an array, with commas between them. -/
def compactItems : List Json → String
  | [] => ""
  | [j] => compact j
  | j :: rest => compact j ++ "," ++ compactItems rest

/-- The members of an object, with commas between them. -/
def compactMembers : List (String × Json) → String
  | [] => ""
  | [(k, j)] => quote k ++ ":" ++ compact j
  | (k, j) :: rest => quote k ++ ":" ++ compact j ++ "," ++ compactMembers rest

end

end Json

end ObjectGateway
