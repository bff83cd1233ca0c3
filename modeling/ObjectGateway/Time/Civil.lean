/-!
# The calendar

Dates of the Gregorian calendar, extended to all years, and the count of days from 1 January 1970.
Years are counted from March, so that the leap day is the last of its year, and in eras of 400
years, which all have the same number of days.
-/

namespace ObjectGateway.Time

/-- A date. -/
structure Date where
  year : Int
  month : Nat
  day : Nat
  deriving Repr, DecidableEq, Inhabited

/-- Days in 400 years. -/
def eraDays : Int := 146097

/-- Days from 1 March of the year 0 to 1 January 1970. -/
def epochShift : Int := 719468

/-- The days before a month of a year that begins in March; months count from zero. -/
def monthStart (m : Int) : Int := (153 * m + 2) / 5

/-- The days before a year of an era. -/
def yearStart (y : Int) : Int := 365 * y + y / 4 - y / 100

/-- The year of an era that a day of the era lies in. -/
def yearOfEra (d : Int) : Int := (d - d / 1460 + d / 36524 - d / 146096) / 365

/-- Whether a year has a leap day. -/
def isLeapYear (y : Int) : Bool :=
  y % 4 == 0 && (y % 100 != 0 || y % 400 == 0)

/-- The number of days in a month. -/
def monthLength (y : Int) (m : Nat) : Nat :=
  if m = 2 then if isLeapYear y then 29 else 28
  else if m = 4 ∨ m = 6 ∨ m = 9 ∨ m = 11 then 30
  else 31

namespace Date

/-- The date a number of days after 1 January 1970. -/
def ofDays (n : Int) : Date :=
  let z := n + epochShift
  let era := z / eraDays
  let d := z % eraDays
  let y := yearOfEra d
  let dayOfYear := d - yearStart y
  let m := (5 * dayOfYear + 2) / 153
  let month := if m < 10 then m + 3 else m - 9
  ⟨y + era * 400 + (if month ≤ 2 then 1 else 0), month.toNat,
    (dayOfYear - monthStart m + 1).toNat⟩

/-- The number of days from 1 January 1970 to a date. -/
def toDays (d : Date) : Int :=
  let y := d.year - (if d.month ≤ 2 then 1 else 0)
  let m : Int := if d.month ≤ 2 then d.month + 9 else d.month - 3
  y / 400 * eraDays + yearStart (y % 400) + monthStart m + (d.day - 1) - epochShift

/-- The years that are told apart. -/
def leastYear : Int := -262143

/-- The years that are told apart. -/
def greatestYear : Int := 262142

/-- Whether a date is one of the calendar. -/
def isValid (d : Date) : Bool :=
  leastYear ≤ d.year && d.year ≤ greatestYear && 1 ≤ d.month && d.month ≤ 12 && 1 ≤ d.day &&
    d.day ≤ monthLength d.year d.month

end Date

/-- The weekday of a day, counted from Monday as zero. -/
def weekday (n : Int) : Nat := ((n + 3) % 7).toNat

/-- The short names of the weekdays. -/
def weekdayNames : List String := ["Mon", "Tue", "Wed", "Thu", "Fri", "Sat", "Sun"]

/-- The short names of the months. -/
def monthNames : List String :=
  ["Jan", "Feb", "Mar", "Apr", "May", "Jun", "Jul", "Aug", "Sep", "Oct", "Nov", "Dec"]

end ObjectGateway.Time
