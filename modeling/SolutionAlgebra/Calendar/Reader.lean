import SolutionAlgebra.Calendar.Moment
import SolutionAlgebra.Decimal.Notation
import SolutionAlgebra.Octets
import SolutionAlgebra.Text.Basic
import SolutionAlgebra.Text.CodePoints

/-! # Reading moments

Moments are read from dates and times, which may state the offset of their clock, from dates and
from times alone, and from durations. -/

namespace SolutionAlgebra.Calendar

/-! ## Offsets

The end of a date or of a time may state the offset of its clock: nothing or `Z` for universal
time, or a sign, a count of hours, a colon and a count of minutes. The counts are read as signed
integers of 32 bits with any number of digits. The seconds that they make up are computed in 32 bits
too, where they wrap around, and have to stay below a day. -/

/-- A signed integer of 32 bits. -/
def readCount? (cs : List Char) : Option Int :=
  (Decimal.readInt? cs).filter fun n => -2147483648 ≤ n && n ≤ 2147483647

/-- An integer as 32 bits keep it: what is beyond them wraps around. -/
def inWord (n : Int) : Int := n.bmod 4294967296

/-- The offset, in seconds, that the hours and minutes after a sign make up. -/
def readHoursMinutes? (sign : Int) (cs : List Char) : Option Int := do
  let (hours, minutes) ← Text.cutAt? ':' cs
  let offset := sign * inWord ((← readCount? hours) * 3600 + (← readCount? minutes) * 60)
  if isOffset offset then some offset else none

/-- The offset, in seconds, that the end of a date or time states. -/
def readOffset? : List Char → Option Int
  | [] => some 0
  | ['Z'] => some 0
  | '+' :: cs => readHoursMinutes? 1 cs
  | '-' :: cs => readHoursMinutes? (-1) cs
  | _ => none

/-! ## Durations

A duration is an optional minus sign, `P`, date parts and, after `T`, time parts; a part is a
decimal number and the letter of its unit. A year counts as 365 days and a month as 30. The parts
may come in any order and may repeat; there has to be one at least, and one at least after `T`.
The sum is kept in milliseconds as a floating-point number. -/

/-- The milliseconds of a day. -/
def dayMillis : Float := 86400000.0

/-- The milliseconds of a unit before `T`. -/
def dateUnit? (c : Char) : Option Float :=
  if c == 'Y' then some (365.0 * dayMillis)
  else if c == 'M' then some (30.0 * dayMillis)
  else if c == 'D' then some dayMillis
  else none

/-- The milliseconds of a unit after `T`. -/
def timeUnit? (c : Char) : Option Float :=
  if c == 'H' then some 3600000.0
  else if c == 'M' then some 60000.0
  else if c == 'S' then some 1000.0
  else none

/-- Whether a character may belong to the number of a part. -/
def isPartDigit (c : Char) : Bool := Decimal.isDigit c || c == '.'

/-- The sum of the parts of a text, added to `sum`, where `number` holds the digits of the part
being read, in reverse, and `seen` tells whether a part was read before. -/
def readParts? (unit? : Char → Option Float) (sum : Float) (seen : Bool) (number : List Char) :
    List Char → Option (Float × Bool)
  | [] => if number.isEmpty then some (sum, seen) else none
  | c :: cs =>
    if isPartDigit c then readParts? unit? sum seen (c :: number) cs
    else do
      let unit ← unit? c
      let count ← Decimal.read? number.reverse
      readParts? unit? (sum + count * unit) true [] cs

/-- The parts after `P`. -/
def readDurationBody? (cs : List Char) : Option Float := do
  let (date, time?) := match Text.cutAt? 'T' cs with
    | some (date, time) => (date, some time)
    | none => (cs, none)
  let (sum, seen) ← readParts? dateUnit? 0.0 false [] date
  match time? with
  | none => if seen then some sum else none
  | some [] => none
  | some time =>
    let (sum, seen) ← readParts? timeUnit? sum seen [] time
    if seen then some sum else none

/-- A duration in milliseconds. -/
def readDuration? (cs : List Char) : Option Float :=
  match cs with
  | '-' :: 'P' :: body => (readDurationBody? body).map (-·)
  | 'P' :: body => readDurationBody? body
  | _ => none

/-! ## Dates and times

A date and time is read in the form of RFC 3339, and failing that in a looser form without offset,
which universal time is then taken for. In the looser form, as in dates and times alone, fields may
have fewer digits and blanks before them, and a year with a sign may have any number of digits. A
date is its midnight, a time is a time of 1 January 1970, and a duration is the moment that long
after the start of 1970. -/

/-- The fields of a clock and calendar. -/
structure Fields where
  /-- The date. -/
  date : Civil
  /-- The hour. -/
  hour : Nat
  /-- The minute. -/
  minute : Nat
  /-- The second; 60 is a leap second. -/
  second : Nat
  /-- The fraction of the second. -/
  nanos : Nat

/-- The moment at which a clock with the given offset shows the fields, if they make sense. -/
def Fields.moment? (f : Fields) (offset : Int) : Option Moment :=
  if f.date.isValid && f.hour ≤ 23 && f.minute ≤ 59 && f.second ≤ 60 then
    let seconds := f.date.toDays * daySeconds + f.hour * 3600 + f.minute * 60 + min f.second 59
    Moment.ofLocal? seconds (if f.second == 60 then secondNanos + f.nanos else f.nanos) offset
  else none

/-- From `least` to `most` digits as a number, and the rest. -/
def readDigits? (least most : Nat) (cs : List Char) : Option (Nat × List Char) :=
  let digits := (cs.take most).takeWhile Decimal.isDigit
  if digits.length < least then none
  else some (Decimal.digitsValue digits, cs.drop digits.length)

/-- The rest of a text after a character it starts with. -/
def readMark? (mark : Char) : List Char → Option (List Char)
  | [] => none
  | c :: cs => if c == mark then some cs else none

/-- Digits after a point as nanoseconds, and the rest; without a point, none. Digits past the
ninth are dropped. -/
def readFraction? : List Char → Option (Nat × List Char)
  | '.' :: cs => do
    let (value, rest) ← readDigits? 1 9 cs
    let count := cs.length - rest.length
    some (value * Nat.pow 10 (9 - count), rest.dropWhile Decimal.isDigit)
  | cs => some (0, cs)

/-- An offset as RFC 3339 has it, which may use the true minus sign. -/
def readStrictOffset? (cs : List Char) : Option Int :=
  match cs with
  | ['Z'] => some 0
  | ['z'] => some 0
  | sign :: cs => do
    let sign : Int ←
      if sign == '+' then some 1
      else if sign == '-' || sign.toNat == 0x2212 then some (-1)
      else none
    let (hours, cs) ← readDigits? 2 2 cs
    let cs ← readMark? ':' cs
    let (minutes, cs) ← readDigits? 2 2 cs
    let offset := sign * (hours * 3600 + minutes * 60)
    if cs.isEmpty && minutes ≤ 59 && isOffset offset then some offset else none
  | [] => none

/-- A date and time in the form of RFC 3339. -/
def readStrict? (cs : List Char) : Option Moment := do
  let (year, cs) ← readDigits? 4 4 cs
  let cs ← readMark? '-' cs
  let (month, cs) ← readDigits? 2 2 cs
  let cs ← readMark? '-' cs
  let (day, cs) ← readDigits? 2 2 cs
  let cs ← match cs with
    | c :: cs => if c == 'T' || c == 't' || c == ' ' then some cs else none
    | [] => none
  let (hour, cs) ← readDigits? 2 2 cs
  let cs ← readMark? ':' cs
  let (minute, cs) ← readDigits? 2 2 cs
  let cs ← readMark? ':' cs
  let (second, cs) ← readDigits? 2 2 cs
  let (nanos, cs) ← readFraction? cs
  let offset ← readStrictOffset? cs
  Fields.moment? ⟨⟨year, month, day⟩, hour, minute, second, nanos⟩ offset

/-- A field of one or two digits after any blanks. -/
def readField? (cs : List Char) : Option (Nat × List Char) := readDigits? 1 2 (Text.trimStart cs)

/-- A year after any blanks: up to four digits, or a sign and any number of digits. -/
def readYear? (cs : List Char) : Option (Int × List Char) :=
  match Text.trimStart cs with
  | '-' :: cs => (readDigits? 1 cs.length cs).map fun (n, rest) => (-(n : Int), rest)
  | '+' :: cs => (readDigits? 1 cs.length cs).map fun (n, rest) => ((n : Int), rest)
  | cs => (readDigits? 1 4 cs).map fun (n, rest) => ((n : Int), rest)

/-- A loosely written date, and the rest. -/
def readCivil? (cs : List Char) : Option (Civil × List Char) := do
  let (year, cs) ← readYear? cs
  let cs ← readMark? '-' cs
  let (month, cs) ← readField? cs
  let cs ← readMark? '-' cs
  let (day, cs) ← readField? cs
  some (⟨year, month, day⟩, cs)

/-- A loosely written time of a date, which ends the text. -/
def readClock? (date : Civil) (cs : List Char) : Option Fields := do
  let (hour, cs) ← readField? cs
  let cs ← readMark? ':' cs
  let (minute, cs) ← readField? cs
  let cs ← readMark? ':' cs
  let (second, cs) ← readField? cs
  let (nanos, cs) ← readFraction? cs
  if cs.isEmpty then some ⟨date, hour, minute, second, nanos⟩ else none

/-- A loosely written date and time without offset. -/
def readLoose? (cs : List Char) : Option Moment := do
  let (date, cs) ← readCivil? cs
  let cs ← readMark? 'T' cs
  let fields ← readClock? date cs
  fields.moment? 0

/-- A date and time. -/
def readDateTime? (cs : List Char) : Option Moment := (readStrict? cs).or (readLoose? cs)

/-- The characters that take up exactly `size` octets at the start of a text, and the rest. -/
def cutOctets? (size : Nat) : List Char → Option (List Char × List Char)
  | [] => if size = 0 then some ([], []) else none
  | c :: cs =>
    if size = 0 then some ([], c :: cs)
    else if c.utf8Size ≤ size then
      (cutOctets? (size - c.utf8Size) cs).map fun (taken, rest) => (c :: taken, rest)
    else none

/-- A date: ten octets and an offset. -/
def readDate? (cs : List Char) : Option Moment := do
  let (written, rest) ← cutOctets? 10 cs
  let (date, left) ← readCivil? written
  if left.isEmpty && date.isValid then
    let offset ← readOffset? rest
    Fields.moment? ⟨date, 0, 0, 0, 0⟩ offset
  else none

/-- A time: a clock and an offset, which starts past the eighth character. -/
def readTime? (cs : List Char) : Option Moment := do
  let tail := (cs.drop 8).dropWhile fun c => !(c == 'Z' || c == '+' || c == '-')
  let fields ← readClock? ⟨1970, 1, 1⟩ (cs.take (cs.length - tail.length))
  let offset ← readOffset? tail
  fields.moment? offset

/-- The moment a duration after the start of 1970. -/
def readDurationMoment? (cs : List Char) : Option Moment := do
  let millis ← readDuration? cs
  Moment.ofMillis? (← Decimal.nearestInt? millis) 0

end SolutionAlgebra.Calendar
