/-!
# Dates

Seconds since the start of 1970 as a date and a time of day in the proleptic Gregorian calendar.
The count of days is split into eras of 400 years, which all have the same length; within an era
the year starts in March, so that the leap day comes last. The calendar covers the years -262143
to 262142.
-/
namespace ChannelLedger

/-- A day of the calendar. -/
structure Date where
  year : Int
  month : Nat
  day : Nat
  deriving DecidableEq, Repr

/-- A day and a time of that day. -/
structure DateTime where
  date : Date
  hour : Nat
  minute : Nat
  second : Nat
  deriving DecidableEq, Repr

namespace Date

/-- The days of an era of 400 years. -/
def daysPerEra : Nat := 146097

/-- The days from the first of March of the year 0 to the start of 1970. -/
def epoch : Int := 719468

/-- The year of an era, counted from March, that a day of the era falls in. -/
def yearOfEra (dayOfEra : Nat) : Nat :=
  (dayOfEra - dayOfEra / 1460 + dayOfEra / 36524 - dayOfEra / 146096) / 365

/-- The days of an era before a year of it. -/
def daysBeforeYear (year : Nat) : Nat :=
  365 * year + year / 4 - year / 100

/-- The days of a year that started in March before a month of it; March is month 0. -/
def daysBeforeMonth (month : Nat) : Nat :=
  (153 * month + 2) / 5

/-- The date that lies the given number of days after the start of 1970. -/
def ofDays (days : Int) : Date :=
  let era := (days + epoch) / daysPerEra
  let dayOfEra := ((days + epoch) % daysPerEra).toNat
  let year := yearOfEra dayOfEra
  let dayOfYear := dayOfEra - daysBeforeYear year
  let month := (5 * dayOfYear + 2) / 153
  let day := dayOfYear - daysBeforeMonth month + 1
  if month < 10 then ⟨year + era * 400, month + 3, day⟩ else ⟨year + era * 400 + 1, month - 9, day⟩

/-- How many days after the start of 1970 a date lies. -/
def toDays (date : Date) : Int :=
  let month := if 2 < date.month then date.month - 3 else date.month + 9
  let year := if 2 < date.month then date.year else date.year - 1
  let yearOfEra := (year % 400).toNat
  year / 400 * daysPerEra + (daysBeforeYear yearOfEra + daysBeforeMonth month + (date.day - 1))
    - epoch

end Date

namespace DateTime

/-- The moment the given number of seconds after the start of 1970. -/
def ofSeconds (seconds : Int) : DateTime :=
  let second := (seconds % 86400).toNat
  ⟨.ofDays (seconds / 86400), second / 3600, second / 60 % 60, second % 60⟩

/-- How many seconds after the start of 1970 a moment lies. -/
def toSeconds (t : DateTime) : Int :=
  t.date.toDays * 86400 + (t.hour * 3600 + t.minute * 60 + t.second)

/-- The calendar covers the year. -/
def inRange (t : DateTime) : Bool :=
  -262143 ≤ t.date.year && t.date.year ≤ 262142

/-- A number with zeros in front up to the given width. -/
def padded (width n : Nat) : String :=
  let digits := Nat.toDigits 10 n
  String.ofList (List.replicate (width - digits.length) '0' ++ digits)

/-- A year in at least four digits; outside 0 to 9999 it carries its sign. -/
def yearText (year : Int) : String :=
  if year < 0 then "-" ++ padded 4 year.natAbs
  else if 9999 < year then "+" ++ padded 4 year.natAbs
  else padded 4 year.natAbs

/-- Date and time of day, as in `2023-11-14 22:13:20`. -/
def text (t : DateTime) : String :=
  yearText t.date.year ++ "-" ++ padded 2 t.date.month ++ "-" ++ padded 2 t.date.day ++ " "
    ++ padded 2 t.hour ++ ":" ++ padded 2 t.minute ++ ":" ++ padded 2 t.second

end DateTime

end ChannelLedger
