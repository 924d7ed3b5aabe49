import EntrySearch.Text.Quoted
import EntrySearch.Time.Zone

/-!
# Timestamps

Times in search parameters are written as `yyyy-MM-dd HH:mm:ss.SSS` and are local wall times.
-/

namespace EntrySearch.Timestamp

/-- Why a text is no timestamp. -/
inductive Fault where
  /-- The text does not have the shape of a timestamp. -/
  | shape
  /-- The month, day, hour, minute or second is never shown by a clock. -/
  | field (text : String)
  /-- The year is zero. -/
  | year
  /-- The month has no such day. -/
  | day
  /-- The second is a leap second. -/
  | second
  deriving DecidableEq, Repr

/-- What is said about a text that is no timestamp. -/
def Fault.message : Fault → String
  | .shape => "expected yyyy-MM-dd HH:mm:ss.SSS"
  | .field text =>
    s!"time data {Text.quoted text} does not match format '%Y-%m-%d %H:%M:%S.%f'"
  | .year => "year 0 is out of range"
  | .day => "day is out of range for month"
  | .second => "second must be in 0..59"

/-- The numbers of a timestamp. -/
structure Fields where
  /-- Year. -/
  year : Nat
  /-- Month. -/
  month : Nat
  /-- Day. -/
  day : Nat
  /-- Hour. -/
  hour : Nat
  /-- Minute. -/
  minute : Nat
  /-- Second. -/
  second : Nat
  /-- Millisecond. -/
  milli : Nat
  deriving DecidableEq, Repr

/-- The shape of a timestamp; a zero stands for any digit. -/
def shape : List Char :=
  "0000-00-00 00:00:00.000".toList

/-- Whether a text has a shape. -/
def fits : List Char → List Char → Bool
  | [], [] => true
  | mark :: marks, c :: rest => (if mark = '0' then c.isDigit else c == mark) && fits marks rest
  | _, _ => false

/-- The number written by the digits at a place. -/
def numberAt (cs : List Char) (start count : Nat) : Nat :=
  Decimal.ofDigits ((cs.drop start).take count)

/-- The numbers of a text that has the shape of a timestamp. -/
def Fields.ofShaped (cs : List Char) : Fields where
  year := numberAt cs 0 4
  month := numberAt cs 5 2
  day := numberAt cs 8 2
  hour := numberAt cs 11 2
  minute := numberAt cs 14 2
  second := numberAt cs 17 2
  milli := numberAt cs 20 3

/-- Read the numbers of a timestamp. -/
def Fields.ofChars? (cs : List Char) : Option Fields :=
  if fits shape cs then some (Fields.ofShaped cs) else none

/-- Numbers that some clock with a calendar shows, leap seconds included. -/
def Fields.isShown (fields : Fields) : Bool :=
  1 ≤ fields.month && fields.month ≤ 12 && 1 ≤ fields.day && fields.day ≤ 31 &&
    fields.hour ≤ 23 && fields.minute ≤ 59 && fields.second ≤ 61

/-- The wall time of a timestamp. -/
def Fields.wall (fields : Fields) : Time.WallTime :=
  ⟨⟨fields.year, fields.month, fields.day⟩, fields.hour, fields.minute, fields.second,
    1000 * fields.milli⟩

/-- Read a timestamp as a wall time. -/
def read (text : String) : Except Fault Time.WallTime :=
  match Fields.ofChars? text.toList with
  | none => .error .shape
  | some fields =>
    if !fields.isShown then .error (.field text)
    else if fields.year = 0 then .error .year
    else if Time.daysInMonth fields.year fields.month < fields.day then .error .day
    else if 59 < fields.second then .error .second
    else .ok fields.wall

end EntrySearch.Timestamp
