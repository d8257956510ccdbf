/-!
Points in time to the microsecond. The calendar runs from the year 1 to the year 9999, and there is
no time beyond its ends.
-/

namespace GridRules

/-- A point in time, as microseconds since the beginning of 1970. -/
structure Instant where
  microseconds : Int
  deriving DecidableEq

/-- A day of the calendar. -/
structure CalendarDay where
  year : Int
  month : Int
  day : Int
  deriving DecidableEq

namespace CalendarDay

/-- The day that is so many days behind the beginning of 1970. Years are counted from March on, so
that the leap day is the last day of its year. -/
def ofDays (days : Int) : CalendarDay :=
  let shifted := days + 719468
  let era := shifted / 146097
  let dayOfEra := shifted % 146097
  let yearOfEra := (dayOfEra - dayOfEra / 1460 + dayOfEra / 36524 - dayOfEra / 146096) / 365
  let dayOfYear := dayOfEra - (365 * yearOfEra + yearOfEra / 4 - yearOfEra / 100)
  let shiftedMonth := (5 * dayOfYear + 2) / 153
  let month := if shiftedMonth < 10 then shiftedMonth + 3 else shiftedMonth - 9
  { year := yearOfEra + era * 400 + (if month ≤ 2 then 1 else 0)
    month := month
    day := dayOfYear - (153 * shiftedMonth + 2) / 5 + 1 }

end CalendarDay

/-- A number with as many zeros before it as a width asks for. -/
def padded (width : Nat) (n : Int) : String :=
  let digits := (toString n.natAbs).toList
  String.ofList (List.replicate (width - digits.length) '0' ++ digits)

namespace Instant

/-- The first microsecond of the year 1. -/
def first : Int := -62135596800000000

/-- The last microsecond of the year 9999. -/
def last : Int := 253402300799999999

/-- The time some seconds later, or before if they are negative, if it is in the calendar. -/
def addSeconds? (time : Instant) (seconds : Int) : Option Instant :=
  let moved := time.microseconds + seconds * 1000000
  if first ≤ moved && moved ≤ last then some ⟨moved⟩ else none

/-- The whole seconds from one time to another. -/
def secondsSince (time earlier : Instant) : Int :=
  (time.microseconds - earlier.microseconds) / 1000000

/-- The time of day to the second, behind so many seconds since midnight. -/
def clockText (seconds : Int) : String :=
  padded 2 (seconds / 3600) ++ ":" ++ padded 2 (seconds / 60 % 60) ++ ":" ++
    padded 2 (seconds % 60)

/-- The time as text, with a fraction unless that is zero. -/
def text (time : Instant) : String :=
  let seconds := time.microseconds / 1000000
  let fraction := time.microseconds % 1000000
  let day := CalendarDay.ofDays (seconds / 86400)
  padded 4 day.year ++ "-" ++ padded 2 day.month ++ "-" ++ padded 2 day.day ++ "T" ++
    clockText (seconds % 86400) ++
    (if fraction = 0 then "" else "." ++ padded 6 fraction) ++ "+00:00"

end Instant

end GridRules
