import ObjectGateway.Text.Blank
import ObjectGateway.Time.Instant

/-!
# Reading instants

Two written forms are read: the dates of mail and HTTP headers, with an optional weekday, short
years and named zones, and timestamps.  A date that names the wrong weekday is refused.
-/

namespace ObjectGateway.Time

/-- Why a text is no instant. -/
inductive ReadError
  | invalid
  | outOfRange
  | tooShort
  | tooLong
  | impossible
  deriving Repr, DecidableEq

/-- The wording of a failure to read an instant. -/
def ReadError.message : ReadError → String
  | invalid => "input contains invalid characters"
  | outOfRange => "input is out of range"
  | tooShort => "premature end of input"
  | tooLong => "trailing input"
  | impossible => "no possible date and time matching input"

/-- Numbers lie below this bound. -/
def numberBound : Nat := Nat.pow 2 63

/-- How many octets a text takes; what is too short is measured in them. -/
def octets (cs : List Char) : Nat :=
  cs.foldl (fun n c => n + c.utf8Size) 0

/-- Read a number of at least `least` and at most `most` digits. -/
def readNumber (least most : Nat) (cs : List Char) : Except ReadError (Nat × List Char) :=
  if octets cs < least then .error .tooShort
  else
    let ds := (cs.take most).takeWhile Char.isDigit
    if ds.length < least then .error .invalid
    else
      let n := ds.foldl (fun n c => n * 10 + (c.toNat - '0'.toNat)) 0
      if n < numberBound then .ok (n, cs.drop ds.length) else .error .outOfRange

/-- Read a number that must lie in a range. -/
def readIn (low high least most : Nat) (cs : List Char) : Except ReadError (Nat × List Char) := do
  let (n, rest) ← readNumber least most cs
  if low ≤ n ∧ n ≤ high then .ok (n, rest) else .error .outOfRange

/-- Skip blanks. -/
def skipBlanks (cs : List Char) : List Char :=
  cs.dropWhile Text.isBlank

/-- Skip blanks, of which there must be one. -/
def readBlanks : List Char → Except ReadError (List Char)
  | [] => .error .tooShort
  | c :: rest => if Text.isBlank c then .ok (skipBlanks rest) else .error .invalid

/-- Read a given character. -/
def readChar (x : Char) : List Char → Except ReadError (List Char)
  | [] => .error .tooShort
  | c :: rest => if c = x then .ok rest else .error .invalid

/-- Read a name of three letters, in any case; yields its place in the list. -/
def readName (names : List String) (cs : List Char) : Except ReadError (Nat × List Char) :=
  if octets cs < 3 then .error .tooShort
  else
    match names.findIdx? (Text.eqIgnoringCase · (String.ofList (cs.take 3))) with
    | some i => .ok (i, cs.drop 3)
    | none => .error .invalid

/-- Read the sign of an offset. -/
def readSign (wideMinus : Bool) : List Char → Except ReadError (Int × List Char)
  | [] => .error .tooShort
  | c :: rest =>
    if c = '+' then .ok (1, rest)
    else if c = '-' then .ok (-1, rest)
    else if wideMinus && c.toNat = 0x2212 then .ok (-1, rest)
    else .error .invalid

/-- Read two digits, the first at most `tens`; digits above that are out of range. -/
def readPair (tens : Nat) : List Char → Except ReadError (Nat × List Char)
  | x :: y :: rest =>
    if x.isDigit && y.isDigit then
      let a := x.toNat - '0'.toNat
      if a ≤ tens then .ok (a * 10 + (y.toNat - '0'.toNat), rest) else .error .outOfRange
    else .error .invalid
  | cs => if octets cs < 2 then .error .tooShort else .error .invalid

/-- Read an offset from universal time, in seconds. -/
def readOffset (colon wideMinus : Bool) (cs : List Char) : Except ReadError (Int × List Char) := do
  let (sign, cs) ← readSign wideMinus cs
  let (hours, cs) ← readPair 9 cs
  let cs ← if colon then readChar ':' cs else .ok cs
  let (minutes, cs) ← readPair 5 cs
  .ok (sign * (hours * 3600 + minutes * 60), cs)

/-- An offset lies less than a day from universal time. -/
def checkOffset (offset : Int) : Except ReadError Unit :=
  if offset ≤ -Instant.secondsPerDay ∨ Instant.secondsPerDay ≤ offset then .error .outOfRange
  else .ok ()

/-- The hours that named zones lie after universal time. -/
def zoneHours : List (String × Int) :=
  [("gmt", 0), ("ut", 0), ("z", 0), ("edt", -4), ("est", -5), ("cdt", -5), ("cst", -6),
    ("mdt", -6), ("mst", -7), ("pdt", -7), ("pst", -8)]

/-- The offset that a name stands for; single letters but one mean universal time. -/
def zoneOffset? (name : List Char) : Option Int :=
  match zoneHours.lookup (Text.asciiLower (String.ofList name)) with
  | some h => some (h * 3600)
  | none =>
    match name with
    | [c] => if c.toLower = 'j' then none else some 0
    | _ => none

/-- Read a zone: a name or an offset. -/
def readZone (cs : List Char) : Except ReadError (Int × List Char) :=
  let name := cs.takeWhile Char.isAlpha
  if name.isEmpty then readOffset false false cs
  else
    match zoneOffset? name with
    | some o => .ok (o, cs.drop name.length)
    | none => .error .invalid

/-- Skip what follows the parenthesis of a comment; fails where the comment does not end.  `escaped`
tells that the next character is one of the comment. -/
def skipComment (depth : Nat) (escaped : Bool) : List Char → Option (List Char)
  | [] => none
  | c :: rest =>
    if escaped then skipComment depth false rest
    else if c = '\\' then skipComment depth true rest
    else if c = '(' then skipComment (depth + 1) false rest
    else if c = ')' then if depth ≤ 1 then some rest else skipComment (depth - 1) false rest
    else skipComment depth false rest

/-- Skip comments and the blanks before each. -/
def skipComments (cs : List Char) : List Char :=
  match skipBlanks cs with
  | '(' :: rest =>
    match skipComment 1 false rest with
    | some after => if after.length < cs.length then skipComments after else after
    | none => cs
  | _ => cs
termination_by cs.length

/-- The greatest year that can be written. -/
def yearBound : Nat := Nat.pow 2 31

/-- Read a year; years of two and three digits are short for later ones. -/
def readYear (cs : List Char) : Except ReadError (Int × List Char) := do
  let (n, rest) ← readNumber 2 cs.length cs
  let digits := cs.length - rest.length
  let year : Nat :=
    if digits = 2 then if n < 50 then n + 2000 else n + 1900
    else if digits = 3 then n + 1900
    else n
  if year < yearBound then .ok (year, rest) else .error .outOfRange

/-- What a written instant says. -/
structure Reading where
  weekday : Option Nat
  date : Date
  hour : Nat
  minute : Nat
  second : Nat
  nanos : Nat
  /-- Seconds that the written time is ahead of universal time. -/
  offset : Int

/-- The instant that a reading denotes. -/
def Reading.toInstant (r : Reading) : Except ReadError Instant := do
  if !r.date.isValid then throw .outOfRange
  if r.weekday.elim false (· ≠ Time.weekday r.date.toDays) then throw .impossible
  checkOffset r.offset
  let leap := r.second = 60
  let local_ : Int := r.date.toDays * Instant.secondsPerDay + r.hour * 3600 + r.minute * 60 +
    (if leap then 59 else r.second)
  match Instant.ofUnix? (local_ - r.offset) (r.nanos + if leap then Instant.nanosPerSecond else 0) with
  | some t => .ok t
  | none => throw .impossible

/-- Read the time of day of a header; seconds may be left out. -/
def readHeaderClock (cs : List Char) : Except ReadError ((Nat × Nat × Nat) × List Char) := do
  let (hour, cs) ← readIn 0 23 2 2 cs
  let cs ← readChar ':' (skipBlanks cs)
  let (minute, cs) ← readIn 0 59 2 2 (skipBlanks cs)
  match readChar ':' (skipBlanks cs) with
  | .ok after => do
    let (second, cs) ← readIn 0 60 2 2 after
    .ok ((hour, minute, second), cs)
  | .error _ => .ok ((hour, minute, 0), cs)

/-- Read the weekday of a header and its comma, if there is one. -/
def readWeekday (cs : List Char) : Except ReadError ((Option Nat) × List Char) :=
  match readName weekdayNames cs with
  | .ok (i, ',' :: rest) => .ok (some i, rest)
  | .ok _ => .error .invalid
  | .error _ => .ok (none, cs)

/-- Read the date of a header. -/
def readHeaderDate (s : String) : Except ReadError Instant := do
  let (weekday, cs) ← readWeekday (skipBlanks s.toList)
  let (day, cs) ← readIn 1 31 1 2 (skipBlanks cs)
  let cs ← readBlanks cs
  let (month, cs) ← readName monthNames cs
  let cs ← readBlanks cs
  let (year, cs) ← readYear cs
  let cs ← readBlanks cs
  let ((hour, minute, second), cs) ← readHeaderClock cs
  let cs ← readBlanks cs
  let (offset, cs) ← readZone cs
  if !(skipComments cs).isEmpty then throw .tooLong
  Reading.toInstant ⟨weekday, ⟨year, month + 1, day⟩, hour, minute, second, 0, offset⟩

/-- Read the digits of a fraction of a second; digits beyond the ninth are left out. -/
def readFraction : List Char → Except ReadError (Nat × List Char)
  | '.' :: rest => do
    let (n, after) ← readNumber 1 9 rest
    .ok (n * Nat.pow 10 (9 - (rest.length - after.length)), after.dropWhile Char.isDigit)
  | cs => .ok (0, cs)

/-- Read the offset of a timestamp; the letter `Z` is none. -/
def readTimestampOffset : List Char → Except ReadError (Int × List Char)
  | 'Z' :: rest => .ok (0, rest)
  | 'z' :: rest => .ok (0, rest)
  | cs => readOffset true true cs

/-- Read the mark between the date and the time of a timestamp. -/
def readDateEnd : List Char → Except ReadError (List Char)
  | [] => .error .tooShort
  | c :: rest => if c = 'T' ∨ c = 't' ∨ c = ' ' then .ok rest else .error .invalid

/-- Read a timestamp. -/
def readTimestamp (s : String) : Except ReadError Instant := do
  let (year, cs) ← readNumber 4 4 s.toList
  let cs ← readChar '-' cs
  let (month, cs) ← readIn 1 12 2 2 cs
  let cs ← readChar '-' cs
  let (day, cs) ← readIn 1 31 2 2 cs
  let cs ← readDateEnd cs
  let (hour, cs) ← readIn 0 23 2 2 cs
  let cs ← readChar ':' cs
  let (minute, cs) ← readIn 0 59 2 2 cs
  let cs ← readChar ':' cs
  let (second, cs) ← readIn 0 60 2 2 cs
  let (nanos, cs) ← readFraction cs
  let (offset, cs) ← readTimestampOffset cs
  checkOffset offset
  if !cs.isEmpty then throw .tooLong
  Reading.toInstant ⟨none, ⟨year, month, day⟩, hour, minute, second, nanos, offset⟩

end ObjectGateway.Time
