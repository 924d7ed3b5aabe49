import EntrySearch.Decimal.Digits

/-!
# The calendar

Dates of the proleptic Gregorian calendar and wall-clock times, counted from the start of 1970.
-/

namespace EntrySearch.Time

/-- A day of the calendar. -/
structure Date where
  /-- Year, counted from one. -/
  year : Nat
  /-- Month, counted from one. -/
  month : Nat
  /-- Day of the month, counted from one. -/
  day : Nat
  deriving DecidableEq, Repr

/-- A year with a twenty-ninth of February. -/
def isLeap (year : Int) : Bool :=
  year % 4 == 0 && (year % 100 != 0 || year % 400 == 0)

/-- Number of days of a month, zero for no month. -/
def daysInMonth (year : Int) : Nat → Nat
  | 1 | 3 | 5 | 7 | 8 | 10 | 12 => 31
  | 4 | 6 | 9 | 11 => 30
  | 2 => if isLeap year then 29 else 28
  | _ => 0

/-- Number of days of a year before a month. -/
def daysBeforeMonth (year : Int) : Nat → Nat
  | 0 => 0
  | month + 1 => daysBeforeMonth year month + daysInMonth year month

/-- Number of days from the start of year one to the start of a year. -/
def daysBeforeYear (year : Int) : Int :=
  let past := year - 1
  365 * past + past / 4 - past / 100 + past / 400

/-- Days from the start of year one to the start of 1970. -/
def epochDay : Int :=
  719162

/-- The first day of a month, counted from the start of 1970. -/
def firstOfMonth (year : Int) (month : Nat) : Int :=
  daysBeforeYear year + daysBeforeMonth year month - epochDay

/-- The year of a day that is counted from the start of 1970. -/
def yearOfDay (day : Int) : Int :=
  let count := day + epochDay
  let guess := 400 * count / 146097 + 1
  if count < daysBeforeYear guess then guess - 1
  else if daysBeforeYear (guess + 1) ≤ count then guess + 1
  else guess

/-- The day of the week of a day that is counted from the start of 1970, Sunday being zero. -/
def weekday (day : Int) : Int :=
  (day + 4) % 7

/-- What is wrong with a date. -/
inductive DateFault where
  /-- The year is zero. -/
  | year
  /-- The month is not one of the twelve. -/
  | month
  /-- The month has no such day. -/
  | day
  deriving DecidableEq, Repr

/-- What is said about a faulty date. -/
def DateFault.message (fault : DateFault) (year : Nat) : String :=
  match fault with
  | .year => s!"year {year} is out of range"
  | .month => "month must be in 1..12"
  | .day => "day is out of range for month"

/-- Build a date of the calendar. -/
def Date.of (year month day : Nat) : Except DateFault Date :=
  if year = 0 then .error .year
  else if month = 0 ∨ 12 < month then .error .month
  else if day = 0 ∨ daysInMonth year month < day then .error .day
  else .ok ⟨year, month, day⟩

/-- The day counted from the start of 1970. -/
def Date.dayNumber (date : Date) : Int :=
  firstOfMonth date.year date.month + (date.day - 1)

/-- A date as `yyyy-MM-dd`. -/
def Date.chars (date : Date) : List Char :=
  Decimal.paddedDigits 4 date.year ++ '-' :: Decimal.paddedDigits 2 date.month ++
    '-' :: Decimal.paddedDigits 2 date.day

/-- A date as `yyyy-MM-dd`. -/
def Date.text (date : Date) : String :=
  String.ofList date.chars

/-- A time on a clock with a calendar, in no particular zone. -/
structure WallTime where
  /-- Day. -/
  date : Date
  /-- Hour, counted from zero. -/
  hour : Nat
  /-- Minute. -/
  minute : Nat
  /-- Second. -/
  second : Nat
  /-- Microsecond. -/
  micro : Nat
  deriving DecidableEq, Repr

/-- Seconds from the start of 1970 on the same clock. -/
def WallTime.seconds (wall : WallTime) : Int :=
  86400 * wall.date.dayNumber + (3600 * wall.hour + 60 * wall.minute + wall.second : Nat)

/-- Microseconds from the start of 1970 on the same clock. -/
def WallTime.micros (wall : WallTime) : Int :=
  1000000 * wall.seconds + wall.micro

/-- A wall time as `yyyy-MM-dd HH:mm:ss`, with six digits of a fraction that is not zero. -/
def WallTime.chars (wall : WallTime) : List Char :=
  wall.date.chars ++ ' ' :: Decimal.paddedDigits 2 wall.hour ++
    ':' :: Decimal.paddedDigits 2 wall.minute ++ ':' :: Decimal.paddedDigits 2 wall.second ++
    (if wall.micro = 0 then [] else '.' :: Decimal.paddedDigits 6 wall.micro)

end EntrySearch.Time
