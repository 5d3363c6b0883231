/-!
# Instants

A point in time in UTC, counted in seconds from the start of 1970 with a fraction in
nanoseconds, and the calendar date and time of day that it falls on. The calendar is
the Gregorian one, extended to all years.
-/

set_option autoImplicit false

namespace VoiceMenu

/-- A point in time. A fraction of a second and more belongs to a leap second, which
is counted to the second before it. -/
structure Instant where
  seconds : Int
  nanoseconds : Nat
  deriving DecidableEq, Repr, Inhabited

namespace Instant

/-- A date and time of day. The second is 60 in a leap second. -/
structure Calendar where
  year : Int
  month : Nat
  day : Nat
  hour : Nat
  minute : Nat
  second : Nat
  nanosecond : Nat
  deriving DecidableEq, Repr

def isLeapYear (year : Int) : Bool :=
  year % 4 == 0 && (year % 100 != 0 || year % 400 == 0)

def daysInMonth (year : Int) (month : Nat) : Nat :=
  if month = 2 then (if isLeapYear year then 29 else 28)
  else if month ∈ [4, 6, 9, 11] then 30
  else 31

/-- The number of days from the first of March of year zero to the start of 1970. -/
def epochDay : Int := 719468

/-- The days from the start of 1970 to a date. Years are counted from March, so that
the leap day ends a year, and 400 of them have 146097 days. -/
def dayNumber (year : Int) (month day : Nat) : Int :=
  let marchYear := if month ≤ 2 then year - 1 else year
  let era := marchYear.fdiv 400
  let yearOfEra := marchYear - era * 400
  let marchMonth : Int := ((month + 9) % 12 : Nat)
  let dayOfYear := (153 * marchMonth + 2).fdiv 5 + day - 1
  let dayOfEra := yearOfEra * 365 + yearOfEra.fdiv 4 - yearOfEra.fdiv 100 + dayOfYear
  era * 146097 + dayOfEra - epochDay

/-- The year, month and day that a number of days after the start of 1970 falls on. -/
def dateOfDay (number : Int) : Int × Nat × Nat :=
  let shifted := number + epochDay
  let era := shifted.fdiv 146097
  let dayOfEra := (shifted - era * 146097).toNat
  let yearOfEra := (dayOfEra - dayOfEra / 1460 + dayOfEra / 36524 - dayOfEra / 146096) / 365
  let dayOfYear := dayOfEra - (365 * yearOfEra + yearOfEra / 4 - yearOfEra / 100)
  let marchMonth := (5 * dayOfYear + 2) / 153
  let day := dayOfYear - (153 * marchMonth + 2) / 5 + 1
  let month := if marchMonth < 10 then marchMonth + 3 else marchMonth - 9
  let year := yearOfEra + era * 400 + (if month ≤ 2 then 1 else 0)
  (year, month, day)

def ofCalendar (calendar : Calendar) : Instant :=
  let second := min calendar.second 59
  let leap := calendar.second - second
  { seconds := dayNumber calendar.year calendar.month calendar.day * 86400 +
      (calendar.hour * 3600 + calendar.minute * 60 + second : Nat)
    nanoseconds := leap * 1000000000 + calendar.nanosecond }

def calendar (instant : Instant) : Calendar :=
  let dayCount := instant.seconds.fdiv 86400
  let secondOfDay := (instant.seconds - dayCount * 86400).toNat
  let (year, month, day) := dateOfDay dayCount
  { year, month, day
    hour := secondOfDay / 3600
    minute := secondOfDay / 60 % 60
    second := secondOfDay % 60 + instant.nanoseconds / 1000000000
    nanosecond := instant.nanoseconds % 1000000000 }

end Instant

end VoiceMenu
