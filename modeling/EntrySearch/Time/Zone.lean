import EntrySearch.Time.Calendar

/-!
# Local time zones

A zone has a standard offset and possibly a daylight time that begins and ends every year on a
given weekday of a given month. A wall time that the clock shows twice is taken as the daylight
one, and so is a wall time that the clock skips.
-/

namespace EntrySearch.Time

/-- A yearly change of the clock. -/
structure Transition where
  /-- Month of the change. -/
  month : Nat
  /-- Which of the weekdays of the month, the fifth standing for the last. -/
  week : Nat
  /-- Day of the week, Sunday being zero. -/
  weekday : Nat
  /-- Seconds after midnight on the clock that is left. -/
  time : Int
  deriving DecidableEq, Repr

/-- The day of a change in a year, counted from the start of 1970. -/
def Transition.day (change : Transition) (year : Int) : Int :=
  let first := firstOfMonth year change.month
  let ahead := ((change.weekday : Int) - EntrySearch.Time.weekday first) % 7 + 7 * (change.week - 1)
  if daysInMonth year change.month ≤ ahead then first + ahead - 7 else first + ahead

/-- The second of a change in a year, on the clock that is left. -/
def Transition.seconds (change : Transition) (year : Int) : Int :=
  86400 * change.day year + change.time

/-- A daylight time. -/
structure Daylight where
  /-- Seconds ahead of universal time. -/
  offset : Int
  /-- Change from standard time. -/
  begins : Transition
  /-- Change back to standard time. -/
  ends : Transition
  deriving DecidableEq, Repr

/-- A time zone. -/
structure Zone where
  /-- Seconds of standard time ahead of universal time. -/
  standard : Int
  /-- Daylight time, if there is one. -/
  daylight : Option Daylight
  deriving DecidableEq, Repr

/-- Universal time. -/
def Zone.utc : Zone :=
  ⟨0, none⟩

/-- Whether a second on the standard clock falls into the daylight time of its year. -/
def Zone.inDaylight (zone : Zone) (seconds : Int) : Bool :=
  match zone.daylight with
  | none => false
  | some rule =>
    let year := yearOfDay (seconds / 86400)
    let first := rule.begins.seconds year
    let last := rule.ends.seconds year - (rule.offset - zone.standard)
    if first ≤ last then first ≤ seconds && seconds < last
    else seconds < last || first ≤ seconds

/-- The offset in force at a wall time: daylight time if the standard clock is in it now, or was
when it lagged by the difference of the two clocks. -/
def Zone.offsetAt (zone : Zone) (wallSeconds : Int) : Int :=
  match zone.daylight with
  | none => zone.standard
  | some rule =>
    if zone.inDaylight wallSeconds || zone.inDaylight (wallSeconds - (rule.offset - zone.standard))
    then rule.offset
    else zone.standard

/-- A wall time with the offset of its clock from universal time. -/
structure Moment where
  /-- What the clock shows. -/
  wall : WallTime
  /-- Seconds ahead of universal time. -/
  offset : Int
  deriving DecidableEq, Repr

/-- A wall time of a zone. -/
def Zone.moment (zone : Zone) (wall : WallTime) : Moment :=
  ⟨wall, zone.offsetAt wall.seconds⟩

/-- Microseconds from the start of 1970 in universal time. -/
def Moment.micros (moment : Moment) : Int :=
  moment.wall.micros - 1000000 * moment.offset

/-- Whole milliseconds from the start of 1970 in universal time, rounded down. -/
def Moment.millis (moment : Moment) : Int :=
  moment.micros / 1000

/-- The start of 1970 in universal time. -/
def Moment.epoch : Moment :=
  ⟨⟨⟨1970, 1, 1⟩, 0, 0, 0, 0⟩, 0⟩

/-- Strictly earlier as instants. -/
def Moment.before (first second : Moment) : Bool :=
  first.micros < second.micros

/-- An offset as `+HH:mm`, with seconds when there are any. -/
def offsetChars (offset : Int) : List Char :=
  let n := offset.natAbs
  (if offset < 0 then '-' else '+') :: Decimal.paddedDigits 2 (n / 3600) ++
    ':' :: Decimal.paddedDigits 2 (n / 60 % 60) ++
    (if n % 60 = 0 then [] else ':' :: Decimal.paddedDigits 2 (n % 60))

/-- A moment as wall time and offset. -/
def Moment.text (moment : Moment) : String :=
  String.ofList (moment.wall.chars ++ offsetChars moment.offset)

end EntrySearch.Time
