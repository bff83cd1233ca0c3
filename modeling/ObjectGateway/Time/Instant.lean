import ObjectGateway.Time.Civil

/-!
# Instants

A moment in universal time, to the nanosecond.  A leap second has the number of the second before
it and a fraction of a second or more.  Instants are written as timestamps and as the dates of HTTP
headers.
-/

namespace ObjectGateway

/-- A moment: seconds from the start of 1970, and the nanoseconds beyond them. -/
structure Instant where
  seconds : Int
  nanos : Nat
  deriving Repr, DecidableEq, Inhabited

namespace Instant

/-- Nanoseconds in a second. -/
def nanosPerSecond : Nat := 1000000000

/-- Seconds in a day. -/
def secondsPerDay : Int := 86400

/-- The day of an instant. -/
def day (t : Instant) : Int := t.seconds / secondsPerDay

/-- The second of the day. -/
def secondOfDay (t : Instant) : Nat := (t.seconds % secondsPerDay).toNat

/-- The instant of a count of seconds and nanoseconds, if there is one. -/
def ofUnix? (seconds : Int) (nanos : Nat) : Option Instant :=
  let year := (Time.Date.ofDays (seconds / secondsPerDay)).year
  if Time.Date.leastYear ≤ year && year ≤ Time.Date.greatestYear &&
      (nanos < nanosPerSecond || (nanos < 2 * nanosPerSecond && seconds % 60 == 59)) then
    some ⟨seconds, nanos⟩
  else none

/-- The number of the second in its minute; it is 60 in a leap second. -/
def secondOfMinute (t : Instant) : Nat :=
  t.secondOfDay % 60 + t.nanos / nanosPerSecond

/-- A number with at least so many digits. -/
def padded (width n : Nat) : String :=
  let ds := Nat.toDigits 10 n
  String.ofList (List.replicate (width - ds.length) '0' ++ ds)

/-- A year: four digits, or a sign and at least four. -/
def yearText (y : Int) : String :=
  if 0 ≤ y ∧ y ≤ 9999 then padded 4 y.toNat
  else (if y < 0 then "-" else "+") ++ padded 4 y.natAbs

/-- The time of day. -/
def clockText (t : Instant) : String :=
  let s := t.secondOfDay
  padded 2 (s / 3600) ++ ":" ++ padded 2 (s / 60 % 60) ++ ":" ++ padded 2 t.secondOfMinute

/-- The fraction of a second with three, six or nine digits, the fewest that are exact. -/
def fractionText (t : Instant) : String :=
  let n := t.nanos % nanosPerSecond
  if n = 0 then ""
  else if n % 1000000 = 0 then "." ++ padded 3 (n / 1000000)
  else if n % 1000 = 0 then "." ++ padded 6 (n / 1000)
  else "." ++ padded 9 n

/-- The date and the time of day. -/
def dateTimeText (t : Instant) : String :=
  let d := Time.Date.ofDays t.day
  yearText d.year ++ "-" ++ padded 2 d.month ++ "-" ++ padded 2 d.day ++ "T" ++ t.clockText

/-- A timestamp with the fraction of a second. -/
def timestamp (t : Instant) : String :=
  t.dateTimeText ++ t.fractionText ++ "Z"

/-- A timestamp to the second. -/
def timestampSeconds (t : Instant) : String :=
  t.dateTimeText ++ "Z"

/-- The date of an HTTP header. -/
def httpDate (t : Instant) : String :=
  let d := Time.Date.ofDays t.day
  (Time.weekdayNames.getD (Time.weekday t.day) "") ++ ", " ++ padded 2 d.day ++ " " ++
    (Time.monthNames.getD (d.month - 1) "") ++ " " ++ yearText d.year ++ " " ++ t.clockText ++ " GMT"

end Instant

end ObjectGateway
