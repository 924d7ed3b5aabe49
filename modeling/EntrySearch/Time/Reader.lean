import EntrySearch.Time.Zone

/-!
# Reading zones

Zones are written as `CET-1CEST,M3.5.0,M10.5.0/3`: names with offsets that count westwards, then
the two yearly changes.
-/

namespace EntrySearch.Time

/-- Split off the digits at the front and their number. -/
def takeNumber (cs : List Char) : Option (Nat × List Char) :=
  let ds := cs.takeWhile Char.isDigit
  if ds.isEmpty then none else some (Decimal.ofDigits ds, cs.dropWhile Char.isDigit)

/-- Split off a given character. -/
def takeChar (c : Char) : List Char → Option (List Char)
  | [] => none
  | d :: rest => if d = c then some rest else none

/-- Split off a zone name: letters, or anything between angle brackets. -/
def takeName (cs : List Char) : Option (List Char) :=
  match cs with
  | '<' :: rest => takeChar '>' (rest.dropWhile (· ≠ '>'))
  | _ => if (cs.takeWhile Char.isAlpha).isEmpty then none else some (cs.dropWhile Char.isAlpha)

/-- Split off `:` and a number, zero when there is none. -/
def takePart (cs : List Char) : Nat × List Char :=
  match takeChar ':' cs with
  | none => (0, cs)
  | some rest => (takeNumber rest).getD (0, cs)

/-- Split off a signed time of day `h`, `h:mm` or `h:mm:ss` in seconds. -/
def takeTime (cs : List Char) : Option (Int × List Char) := do
  let (negative, unsigned) := Decimal.splitSign cs
  let (hours, rest) ← takeNumber unsigned
  let (minutes, rest) := takePart rest
  let (seconds, rest) := takePart rest
  return (Decimal.signed negative (3600 * hours + 60 * minutes + seconds), rest)

/-- Split off a yearly change `,Mm.w.d` with an optional `/time`, two o'clock by default. -/
def takeTransition (cs : List Char) : Option (Transition × List Char) := do
  let rest ← takeChar ',' cs
  let rest ← takeChar 'M' rest
  let (month, rest) ← takeNumber rest
  let rest ← takeChar '.' rest
  let (week, rest) ← takeNumber rest
  let rest ← takeChar '.' rest
  let (weekday, rest) ← takeNumber rest
  match takeChar '/' rest with
  | none => return (⟨month, week, weekday, 7200⟩, rest)
  | some rest =>
    let (time, rest) ← takeTime rest
    return (⟨month, week, weekday, time⟩, rest)

/-- Read a daylight time that follows a standard offset. -/
def readDaylight (standard : Int) (cs : List Char) : Option Daylight := do
  let rest ← takeName cs
  let (offset, rest) :=
    match takeTime rest with
    | some (westward, rest) => (-westward, rest)
    | none => (standard + 3600, rest)
  let (begins, rest) ← takeTransition rest
  let (ends, rest) ← takeTransition rest
  if rest.isEmpty then some ⟨offset, begins, ends⟩ else none

/-- Read a zone. -/
def Zone.ofText? (text : String) : Option Zone := do
  let rest ← takeName text.toList
  let (westward, rest) ← takeTime rest
  let standard := -westward
  if rest.isEmpty then return ⟨standard, none⟩
  return ⟨standard, some (← readDaylight standard rest)⟩

end EntrySearch.Time
