import SolutionAlgebra.Decimal.Notation

/-! # Moments

Civil dates, moments as points in time with the offset of a local clock, and how moments are
written. -/

namespace SolutionAlgebra.Calendar

/-! ## Civil dates

The proleptic Gregorian calendar: dates, the days of their months, and the number of days since
1 January 1970. Years count from March in the arithmetic, so that the leap day is the last of its
year; four hundred years, an era, always have 146097 days. -/

/-- A day of the proleptic Gregorian calendar. The year zero precedes the year one. -/
structure Civil where
  /-- The year. -/
  year : Int
  /-- The month, from 1. -/
  month : Nat
  /-- The day of the month, from 1. -/
  day : Nat
deriving DecidableEq, Repr

/-- Whether a year has a leap day. -/
def isLeapYear (year : Int) : Bool := year % 4 == 0 && (year % 100 != 0 || year % 400 == 0)

/-- The number of days of a month. -/
def daysInMonth (year : Int) (month : Nat) : Nat :=
  if month == 2 then (if isLeapYear year then 29 else 28)
  else if month == 4 || month == 6 || month == 9 || month == 11 then 30
  else 31

/-- The first year of the calendar's range. -/
def firstYear : Int := -262143

/-- The last year of the calendar's range. -/
def lastYear : Int := 262142

namespace Civil

/-- Whether a date exists and lies in the calendar's range. -/
def isValid (date : Civil) : Bool :=
  firstYear ≤ date.year && date.year ≤ lastYear && 1 ≤ date.month && date.month ≤ 12 &&
    1 ≤ date.day && date.day ≤ daysInMonth date.year date.month

/-- The number of days from 1 January 1970 to a date. -/
def toDays (date : Civil) : Int :=
  let year := if date.month ≤ 2 then date.year - 1 else date.year
  let monthFromMarch : Int := (date.month + 9) % 12
  let dayOfYear := (153 * monthFromMarch + 2) / 5 + date.day - 1
  let yearOfEra := year % 400
  let dayOfEra := yearOfEra * 365 + yearOfEra / 4 - yearOfEra / 100 + dayOfYear
  year / 400 * 146097 + dayOfEra - 719468

/-- The date a number of days after 1 January 1970. -/
def ofDays (days : Int) : Civil :=
  let shifted := days + 719468
  let dayOfEra := shifted % 146097
  let yearOfEra := (dayOfEra - dayOfEra / 1460 + dayOfEra / 36524 - dayOfEra / 146096) / 365
  let dayOfYear := dayOfEra - (365 * yearOfEra + yearOfEra / 4 - yearOfEra / 100)
  let monthFromMarch := (5 * dayOfYear + 2) / 153
  let day := dayOfYear - (153 * monthFromMarch + 2) / 5 + 1
  let month := if monthFromMarch < 10 then monthFromMarch + 3 else monthFromMarch - 9
  let year := yearOfEra + shifted / 146097 * 400
  ⟨if month ≤ 2 then year + 1 else year, month.toNat, day.toNat⟩

end Civil

/-! ## Points in time

A moment is a point in time together with the offset of the local clock that shows it. Two moments
are equal in time, and are ordered, without regard to their offsets. A leap second repeats the
second before it: its nanoseconds count on from one thousand million. -/

/-- The seconds of a day. -/
def daySeconds : Int := 86400

/-- The nanoseconds of a second. -/
def secondNanos : Nat := 1000000000

/-- A point in time as shown by a local clock. -/
structure Moment where
  /-- Seconds since the start of 1970 in universal time. -/
  seconds : Int
  /-- Nanoseconds in the second; from `secondNanos` in a leap second. -/
  nanos : Nat
  /-- Seconds by which the local clock is ahead of universal time. -/
  offset : Int
deriving DecidableEq, Repr

/-- Whether an offset is less than a day. -/
def isOffset (offset : Int) : Bool := -daySeconds < offset && offset < daySeconds

/-- Whether a number of seconds since 1970 lies in the calendar's range. -/
def inRange (seconds : Int) : Bool :=
  (Civil.mk firstYear 1 1).toDays * daySeconds ≤ seconds &&
    seconds < ((Civil.mk lastYear 12 31).toDays + 1) * daySeconds

namespace Moment

/-- Whether two moments are the same point in time. -/
def sameTime (a b : Moment) : Bool := a.seconds == b.seconds && a.nanos == b.nanos

/-- The order of two moments in time. -/
def order (a b : Moment) : Ordering := (compare a.seconds b.seconds).then (compare a.nanos b.nanos)

/-- Whole milliseconds since the start of 1970, rounded down. -/
def millis (m : Moment) : Int := m.seconds * 1000 + (m.nanos / 1000000 : Nat)

/-- The moment a number of milliseconds after the start of 1970, if the calendar reaches it. -/
def ofMillis? (millis offset : Int) : Option Moment :=
  let seconds := millis / 1000
  if inRange seconds then some ⟨seconds, (millis % 1000).toNat * 1000000, offset⟩ else none

/-- The moment at which a clock with the given offset shows a number of seconds. -/
def ofLocal? (seconds : Int) (nanos : Nat) (offset : Int) : Option Moment :=
  if inRange (seconds - offset) then some ⟨seconds - offset, nanos, offset⟩ else none

/-- Seconds since the start of 1970 as the local clock counts them. -/
def localSeconds (m : Moment) : Int := m.seconds + m.offset

/-- The date that the local clock shows. -/
def date (m : Moment) : Civil := Civil.ofDays (m.localSeconds / daySeconds)

/-- The seconds since midnight that the local clock shows. -/
def secondOfDay (m : Moment) : Nat := (m.localSeconds % daySeconds).toNat

/-- The hour that the local clock shows. -/
def hour (m : Moment) : Nat := m.secondOfDay / 3600

/-- The minute that the local clock shows. -/
def minute (m : Moment) : Nat := m.secondOfDay / 60 % 60

/-- The second that the local clock shows; a leap second still shows the second it repeats. -/
def second (m : Moment) : Nat := m.secondOfDay % 60

end Moment

/-! ## Written moments

A moment is written in the form of RFC 3339, as in `2020-02-29T12:00:00.250+01:00`. The fraction
has no digits, three, six or nine, as few as it takes; a leap second is written as second 60; a
year outside `0` to `9999` has a sign; the offset is rounded to minutes and zero is `+00:00`. -/

/-- A number in decimal digits, filled up by zeros at the left. -/
def paddedChars (width n : Nat) : List Char :=
  let digits := Decimal.digitChars n
  List.replicate (width - digits.length) '0' ++ digits

/-- A year: four digits from 0 to 9999, otherwise a sign and at least four digits. -/
def yearChars (year : Int) : List Char :=
  if 0 ≤ year && year ≤ 9999 then paddedChars 4 year.toNat
  else (if year < 0 then '-' else '+') :: paddedChars 4 year.natAbs

/-- The fraction of a second. -/
def fractionChars (nanos : Nat) : List Char :=
  if nanos == 0 then []
  else if nanos % 1000000 == 0 then '.' :: paddedChars 3 (nanos / 1000000)
  else if nanos % 1000 == 0 then '.' :: paddedChars 6 (nanos / 1000)
  else '.' :: paddedChars 9 nanos

/-- An offset, rounded to the nearest minute. -/
def offsetChars (offset : Int) : List Char :=
  let minutes := (offset.natAbs + 30) / 60
  (if offset < 0 then '-' else '+') :: paddedChars 2 (minutes / 60) ++ ':' ::
    paddedChars 2 (minutes % 60)

/-- A moment as its local clock shows it. -/
def Moment.chars (m : Moment) : List Char :=
  let date := m.date
  let (second, nanos) :=
    if secondNanos ≤ m.nanos then (m.second + 1, m.nanos - secondNanos) else (m.second, m.nanos)
  yearChars date.year ++ '-' :: paddedChars 2 date.month ++ '-' :: paddedChars 2 date.day ++
    'T' :: paddedChars 2 m.hour ++ ':' :: paddedChars 2 m.minute ++ ':' :: paddedChars 2 second ++
    fractionChars nanos ++ offsetChars m.offset

end SolutionAlgebra.Calendar
