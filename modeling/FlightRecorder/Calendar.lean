/-!
# Moments of the calendar

A moment is a date and a time of day in the Gregorian calendar, extended to all
years, in coordinated universal time. What time patterns ask of it – the day of
the week, weeks by three conventions, seconds since 1970 – is computed from its
fields.

A leap second is the second before it with a thousand million nanoseconds or
more.
-/

namespace FlightRecorder

/-- A date and a time of day. -/
structure Moment where
  year : Int
  month : Nat
  day : Nat
  hour : Nat
  minute : Nat
  second : Nat
  nanosecond : Nat
  deriving DecidableEq, Repr, Inhabited

namespace Calendar

/-- Whether a year has a leap day. -/
def isLeapYear (year : Int) : Bool :=
  year % 4 == 0 && (year % 100 != 0 || year % 400 == 0)

/-- The number of days of a year. -/
def daysInYear (year : Int) : Nat :=
  if isLeapYear year then 366 else 365

/-- The number of days of each month of a year. -/
def monthLengths (year : Int) : List Nat :=
  [31, if isLeapYear year then 29 else 28, 31, 30, 31, 30, 31, 31, 30, 31, 30, 31]

/-- Days from the first of January of the year one to that of another year. -/
def daysBeforeYear (year : Int) : Int :=
  let y := year - 1
  365 * y + Int.fdiv y 4 - Int.fdiv y 100 + Int.fdiv y 400

/-- The names of the months. -/
def monthNames : List String :=
  ["January", "February", "March", "April", "May", "June", "July", "August", "September",
    "October", "November", "December"]

/-- The names of the days of the week, from Monday on. -/
def weekdayNames : List String :=
  ["Monday", "Tuesday", "Wednesday", "Thursday", "Friday", "Saturday", "Sunday"]

end Calendar

namespace Moment

open Calendar

/-- The day of the year, the first of January being the first. -/
def ordinal (m : Moment) : Nat :=
  ((monthLengths m.year).take (m.month - 1)).foldr (· + ·) 0 + m.day

/-- Days from the first of January of the year one. -/
def dayNumber (m : Moment) : Int :=
  daysBeforeYear m.year + m.ordinal - 1

/-- Days since the last Monday; that first of January was one. -/
def daysFromMonday (m : Moment) : Nat :=
  (m.dayNumber % 7).toNat

/-- Days since the last Sunday. -/
def daysFromSunday (m : Moment) : Nat :=
  (m.daysFromMonday + 1) % 7

/-- Seconds from the start of the year 1970; a leap second counts for nothing. -/
def timestamp (m : Moment) : Int :=
  let days := m.dayNumber - daysBeforeYear 1970
  ((days * 24 + m.hour) * 60 + m.minute) * 60 + m.second

/-- The week of the year, weeks beginning on Sundays and the days before the
first Sunday being week zero. -/
def weekFromSunday (m : Moment) : Nat :=
  (m.ordinal + 6 - m.daysFromSunday) / 7

/-- The week of the year, weeks beginning on Mondays and the days before the
first Monday being week zero. -/
def weekFromMonday (m : Moment) : Nat :=
  (m.ordinal + 6 - m.daysFromMonday) / 7

/-- The week of the year, and the year it belongs to, weeks beginning on Mondays
and belonging to the year of their Thursday. -/
def isoWeek (m : Moment) : Int × Nat :=
  -- The ordinal of the Thursday of the week, in the year of the moment.
  let thursday : Int := m.ordinal + 3 - m.daysFromMonday
  if thursday < 1 then
    (m.year - 1, ((thursday + daysInYear (m.year - 1) - 1) / 7 + 1).toNat)
  else if (daysInYear m.year : Int) < thursday then
    (m.year + 1, ((thursday - daysInYear m.year - 1) / 7 + 1).toNat)
  else (m.year, ((thursday - 1) / 7 + 1).toNat)

/-- The quarter of the year. -/
def quarter (m : Moment) : Nat :=
  (m.month - 1) / 3 + 1

/-- The hour on a dial of twelve. -/
def hour12 (m : Moment) : Nat :=
  (m.hour + 11) % 12 + 1

/-- Whether it is past noon. -/
def isAfternoon (m : Moment) : Bool :=
  decide (12 ≤ m.hour)

/-- Nanoseconds within the second. -/
def subsecond (m : Moment) : Nat :=
  m.nanosecond % 1000000000

/-- The second as it is shown; a leap second is shown as the sixtieth. -/
def shownSecond (m : Moment) : Nat :=
  m.second + m.nanosecond / 1000000000

/-- The name of the month. -/
def monthName (m : Moment) : String :=
  monthNames.getD (m.month - 1) ""

/-- The name of the day of the week. -/
def weekdayName (m : Moment) : String :=
  weekdayNames.getD m.daysFromMonday ""

end Moment

end FlightRecorder
