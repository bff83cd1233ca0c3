import ObjectGateway.Text.Blank
import ObjectGateway.Text.Quoted
import ObjectGateway.Timespan.Basic

/-!
# Reading spans of time

A span is written as numbers with units, such as `1m 30s`.  The reader walks the characters once.
It holds a number until the unit after it is complete, and adds the component to the sum then.
Blanks inside a number are skipped, so that `10 0s` is a hundred seconds.
-/

namespace ObjectGateway.Timespan

/-- Why a text is not a span. -/
inductive ReadError
  | empty
  | numberExpected (offset : Nat)
  | invalidCharacter (offset : Nat)
  | unitNeeded (value : Nat)
  | unknownUnit (name : String)
  | tooLarge
  deriving Repr, DecidableEq

/-- The wording of a refusal. -/
def ReadError.message : ReadError → String
  | empty => "value was empty"
  | numberExpected n => "expected number at " ++ toString n
  | invalidCharacter n => "invalid character at " ++ toString n
  | unitNeeded v =>
    "time unit needed, for example " ++ toString v ++ "sec or " ++ toString v ++ "ms"
  | unknownUnit name =>
    "unknown time unit " ++ Text.Quoted.quote name ++
      ", supported units: ns, us/µs, ms, sec, min, hours, days, weeks, months, years " ++
        "(and few variations)"
  | tooLarge =>
    "number is too large or cannot be represented without a lack of precision " ++
      "(values below 1ns are not supported)"

/-- A number below the bound, or a refusal. -/
def checkWord (n : Nat) : Except ReadError Nat :=
  if n < wordBound then .ok n else .error .tooLarge

/-- The digits after a point: their value, and ten to their number. -/
structure Places where
  numerator : Nat
  denominator : Nat
  deriving Repr, DecidableEq

/-- Add seconds and nanoseconds to a span. -/
def add (t : Timespan) (seconds nanos : Nat) : Except ReadError Timespan :=
  if wordBound ≤ t.nanos % nanosPerSecond + nanos then .error .tooLarge
  else
    let sum := t.nanos + seconds * nanosPerSecond + nanos
    if sum < bound then .ok ⟨sum⟩ else .error .tooLarge

/-- Add `n` units. -/
def addWhole (t : Timespan) (n : Nat) (u : TimeUnit) : Except ReadError Timespan := do
  if u.isSubsecond then add t 0 (← checkWord (n * u.nanos))
  else add t (← checkWord (n * (u.nanos / nanosPerSecond))) 0

/-- Add a fraction of a unit.  Units up to the minute are exact to the nanosecond, longer ones to
the second; a nanosecond has no fractions. -/
def addPlaces (t : Timespan) (p : Places) (u : TimeUnit) : Except ReadError Timespan := do
  match u with
  | .nanosecond => .error .tooLarge
  | .microsecond | .millisecond | .second | .minute =>
    add t 0 ((← checkWord (p.numerator * u.nanos)) / p.denominator)
  | _ => add t ((← checkWord (p.numerator * (u.nanos / nanosPerSecond))) / p.denominator) 0

/-- Add a number with the unit that a text spells. -/
def addComponent (t : Timespan) (n : Nat) (places : Option Places) (unit : String) :
    Except ReadError Timespan := do
  match TimeUnit.ofText? unit with
  | none => .error (if unit.isEmpty then .unitNeeded n else .unknownUnit unit)
  | some u =>
    let t ← addWhole t n u
    match places with
    | none => .ok t
    | some p => addPlaces t p u

/-- Where the reader stands. -/
inductive Position
  /-- Before the first digit of a component. -/
  | between
  /-- Inside the digits of a number. -/
  | number (value : Nat)
  /-- After the point; `mark` is the offset that a refusal names. -/
  | places (value : Nat) (read : Places) (mark : Nat)
  /-- Inside the letters of a unit, the last one first. -/
  | unit (value : Nat) (places : Option Places) (letters : List Char)
  deriving Repr, DecidableEq

/-- The sum so far, whether a component has been read, and where the reader stands. -/
structure Reader where
  sum : Timespan
  started : Bool
  position : Position
  deriving Repr, DecidableEq

/-- Whether a character may stand in the name of a unit. -/
def isUnitLetter (c : Char) : Bool :=
  c.isAlpha || c == 'µ'

/-- The value of an ASCII digit. -/
def digitValue (c : Char) : Nat :=
  c.toNat - '0'.toNat

/-- Complete the unit that is being read. -/
def Reader.complete (r : Reader) (value : Nat) (places : Option Places) (letters : List Char)
    (next : Position) : Except ReadError Reader := do
  let sum ← addComponent r.sum value places (String.ofList letters.reverse)
  .ok ⟨sum, true, next⟩

/-- Read one character at an offset. -/
def Reader.step (r : Reader) (offset : Nat) (c : Char) : Except ReadError Reader := do
  match r.position with
  | .between =>
    if c.isDigit then .ok { r with position := .number (digitValue c) }
    else if Text.isBlank c then .ok r
    else .error (.numberExpected offset)
  | .number n =>
    if c.isDigit then .ok { r with position := .number (← checkWord (n * 10 + digitValue c)) }
    else if Text.isBlank c then .ok r
    else if isUnitLetter c then .ok { r with position := .unit n none [c] }
    else if c = '.' then .ok { r with position := .places n ⟨0, 1⟩ offset }
    else .error (.invalidCharacter offset)
  | .places n p mark =>
    let next := offset + c.utf8Size
    if c.isDigit then
      let denominator ← checkWord (p.denominator * 10)
      let numerator ← checkWord (p.numerator * 10 + digitValue c)
      .ok { r with position := .places n ⟨numerator, denominator⟩ next }
    else if Text.isBlank c then .ok { r with position := .places n p next }
    else if isUnitLetter c && p.denominator != 1 then
      .ok { r with position := .unit n (some p) [c] }
    else .error (.invalidCharacter mark)
  | .unit n p letters =>
    if c.isDigit then r.complete n p letters (.number (digitValue c))
    else if Text.isBlank c then r.complete n p letters .between
    else if isUnitLetter c then .ok { r with position := .unit n p (c :: letters) }
    else .error (.invalidCharacter offset)

/-- Read the characters from an offset on. -/
def Reader.run (r : Reader) (offset : Nat) : List Char → Except ReadError Reader
  | [] => .ok r
  | c :: cs => do (← r.step offset c).run (offset + c.utf8Size) cs

/-- The sum at the end of the text. -/
def Reader.finish (r : Reader) : Except ReadError Timespan :=
  match r.position with
  | .between => if r.started then .ok r.sum else .error .empty
  | .number n => addComponent r.sum n none ""
  | .places n p mark =>
    if p.denominator = 1 then .error (.invalidCharacter mark) else addComponent r.sum n (some p) ""
  | .unit n p letters => addComponent r.sum n p (String.ofList letters.reverse)

/-- Read a span from characters. -/
def readList (cs : List Char) : Except ReadError Timespan := do
  ((← Reader.run ⟨⟨0⟩, false, .between⟩ 0 cs)).finish

end ObjectGateway.Timespan
