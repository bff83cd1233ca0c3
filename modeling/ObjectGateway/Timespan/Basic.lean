/-!
# Spans of time

A span is a number of nanoseconds.  It can hold what a clock with a 64-bit count of seconds can
show; additions beyond that are refused, never wrapped.
-/

namespace ObjectGateway

/-- A span of time in nanoseconds. -/
structure Timespan where
  nanos : Nat
  deriving Repr, DecidableEq, Inhabited, Ord

namespace Timespan

/-- Numbers in a written span must lie below this bound. -/
def wordBound : Nat := Nat.pow 2 64

/-- Nanoseconds in a second. -/
def nanosPerSecond : Nat := 1000000000

/-- Spans must lie below this bound. -/
def bound : Nat := wordBound * nanosPerSecond

/-- A span of whole milliseconds. -/
def ofMillis (n : Nat) : Timespan := ⟨n * 1000000⟩

/-- A span of whole seconds. -/
def ofSeconds (n : Nat) : Timespan := ⟨n * nanosPerSecond⟩

/-- The whole seconds of a span. -/
def seconds (t : Timespan) : Nat := t.nanos / nanosPerSecond

/-- The longer of two spans. -/
def max (s t : Timespan) : Timespan := if s.nanos ≤ t.nanos then t else s

end Timespan

/-- The units in which a span can be written. -/
inductive TimeUnit
  | nanosecond
  | microsecond
  | millisecond
  | second
  | minute
  | hour
  | day
  | week
  | month
  | year
  deriving Repr, DecidableEq

namespace TimeUnit

/-- The length of a unit in nanoseconds.  A month is 30.44 days, a year 365.25 days. -/
def nanos : TimeUnit → Nat
  | nanosecond => 1
  | microsecond => 1000
  | millisecond => 1000000
  | second => 1000000000
  | minute => 60 * 1000000000
  | hour => 3600 * 1000000000
  | day => 86400 * 1000000000
  | week => 604800 * 1000000000
  | month => 2630016 * 1000000000
  | year => 31557600 * 1000000000

/-- Whether the unit is shorter than a second. -/
def isSubsecond : TimeUnit → Bool
  | nanosecond | microsecond | millisecond => true
  | _ => false

/-- The spellings of each unit. -/
def spellings : List (String × TimeUnit) :=
  [("nanos", nanosecond), ("nsec", nanosecond), ("ns", nanosecond),
    ("usec", microsecond), ("us", microsecond), ("µs", microsecond),
    ("millis", millisecond), ("msec", millisecond), ("ms", millisecond),
    ("seconds", second), ("second", second), ("secs", second), ("sec", second), ("s", second),
    ("minutes", minute), ("minute", minute), ("min", minute), ("mins", minute), ("m", minute),
    ("hours", hour), ("hour", hour), ("hrs", hour), ("hr", hour), ("h", hour),
    ("days", day), ("day", day), ("d", day),
    ("weeks", week), ("week", week), ("wks", week), ("wk", week), ("w", week),
    ("months", month), ("month", month), ("M", month),
    ("years", year), ("year", year), ("yrs", year), ("yr", year), ("y", year)]

/-- The unit that a text spells. -/
def ofText? (s : String) : Option TimeUnit :=
  spellings.lookup s

end TimeUnit

end ObjectGateway
