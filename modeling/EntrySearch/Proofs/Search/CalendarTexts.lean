import EntrySearch.Proofs.Search.TimestampOrder
import Mathlib.Data.List.Forall2
import Mathlib.Tactic.IntervalCases

/-!
# Which texts are on the calendar

A text is read as a timestamp if and only if its characters stand where those of
`yyyy-MM-dd HH:mm:ss.SSS` do and its numbers are a day of the proleptic Gregorian calendar and a time
of that day. The wall time that is read, written down again, is the text itself.
-/

namespace EntrySearch

open Decimal

namespace Time

/-- A day of the proleptic Gregorian calendar, told by the rules that an almanac gives: which months
are short, and which Februaries have a twenty-ninth day. -/
structure IsDay (year month day : Nat) : Prop where
  counted : 1 ≤ year
  named : 1 ≤ month ∧ month ≤ 12
  within : 1 ≤ day ∧ day ≤ 31
  short : month = 4 ∨ month = 6 ∨ month = 9 ∨ month = 11 → day ≤ 30
  february : month = 2 → day ≤ 29
  leap : month = 2 ∧ day = 29 → 4 ∣ year ∧ (100 ∣ year → 400 ∣ year)

theorem isLeap_iff {year : Nat} : isLeap year = true ↔ 4 ∣ year ∧ (100 ∣ year → 400 ∣ year) := by
  simp only [isLeap, Bool.and_eq_true, Bool.or_eq_true, beq_iff_eq, bne_iff_ne]
  omega

theorem le_daysInMonth_february (year day : Nat) :
    day ≤ daysInMonth year 2 ↔ day ≤ 29 ∧ (day = 29 → 4 ∣ year ∧ (100 ∣ year → 400 ∣ year)) := by
  rw [← isLeap_iff, daysInMonth]
  cases isLeap year
  · simp only [Bool.false_eq_true, if_false, imp_false]
    omega
  · simp

theorem isDay_iff (date : Date) :
    IsDay date.year date.month date.day ↔ 1 ≤ date.year ∧ date.InCalendar := by
  obtain ⟨year, month, day⟩ := date
  have days := le_daysInMonth_february year day
  constructor
  · rintro ⟨counted, named, within, short, february, leap⟩
    refine ⟨counted, named, within.1, ?_⟩
    simp only at *
    obtain ⟨least, most⟩ := named
    interval_cases month
    all_goals first
      | exact within.2
      | exact short (by decide)
      | exact days.mpr ⟨february rfl, fun last => leap ⟨rfl, last⟩⟩
  · rintro ⟨counted, named, least, most⟩
    simp only at *
    refine ⟨counted, named, ⟨least, most.trans (Timestamp.daysInMonth_le year month)⟩, ?_, ?_, ?_⟩
    · rintro (rfl | rfl | rfl | rfl) <;> exact most
    · rintro rfl
      exact (days.mp most).1
    · rintro ⟨rfl, last⟩
      exact (days.mp most).2 last

/-- A wall time as `yyyy-MM-dd HH:mm:ss.SSS`. -/
def WallTime.stamp (wall : WallTime) : String :=
  String.ofList (wall.date.chars ++ ' ' :: (paddedDigits 2 wall.hour ++
    ':' :: (paddedDigits 2 wall.minute ++ ':' :: (paddedDigits 2 wall.second ++
      '.' :: paddedDigits 3 (wall.micro / 1000)))))

end Time

namespace Timestamp

/-- A character stands where a mark does: any ASCII digit for a zero, and otherwise the mark. -/
def StandsFor (mark c : Char) : Prop :=
  if mark = '0' then '0' ≤ c ∧ c ≤ '9' else c = mark

/-- The text has the twenty-three characters of a timestamp, and its numbers are on the calendar. -/
structure IsOnCalendar (text : String) : Prop where
  shape : List.Forall₂ StandsFor "0000-00-00 00:00:00.000".toList text.toList
  date : Time.IsDay (numberAt text.toList 0 4) (numberAt text.toList 5 2) (numberAt text.toList 8 2)
  hour : numberAt text.toList 11 2 ≤ 23
  minute : numberAt text.toList 14 2 ≤ 59
  second : numberAt text.toList 17 2 ≤ 59

theorem isDigit_iff_le {c : Char} : c.isDigit = true ↔ '0' ≤ c ∧ c ≤ '9' := by
  rw [isDigit_iff_toNat]
  rfl

theorem fits_iff_forall₂ {marks cs : List Char} :
    fits marks cs = true ↔ List.Forall₂ StandsFor marks cs := by
  induction marks generalizing cs with
  | nil => cases cs <;> simp [fits]
  | cons mark marks ih =>
      cases cs with
      | nil => simp [fits]
      | cons c rest =>
          rw [List.forall₂_cons, ← ih, fits, Bool.and_eq_true, StandsFor, ← isDigit_iff_le]
          split <;> simp

/-- A text is a time of the calendar written down if and only if it has the shape of one and the
numbers at the places of the shape are a time of the calendar. -/
theorem isTimestamp_iff {text : String} :
    IsTimestamp text ↔
      fits shape text.toList = true ∧ (Fields.ofShaped text.toList).IsTime := by
  constructor
  · rintro ⟨fields, time, written⟩
    have found := ofChars?_eq_some_iff.mpr ⟨time.hasRoom, written⟩
    rw [Fields.ofChars?, Option.ite_none_right_eq_some, Option.some_inj] at found
    obtain ⟨fitting, rfl⟩ := found
    exact ⟨fitting, time⟩
  · rintro ⟨fitting, time⟩
    have found : Fields.ofChars? text.toList = some (Fields.ofShaped text.toList) := if_pos fitting
    exact ⟨_, time, (ofChars?_eq_some_iff.mp found).2⟩

theorem isTimestamp_iff_isOnCalendar {text : String} : IsTimestamp text ↔ IsOnCalendar text := by
  rw [isTimestamp_iff]
  constructor
  · rintro ⟨fitting, ⟨⟨counted, _⟩, month, day, hour, minute, second, _⟩⟩
    exact ⟨fits_iff_forall₂.mp fitting,
      (Time.isDay_iff (Fields.ofShaped text.toList).wall.date).mpr ⟨counted, month, day⟩,
      hour, minute, second⟩
  · rintro ⟨standing, date, hour, minute, second⟩
    have fitting : fits shape text.toList = true := fits_iff_forall₂.mpr standing
    obtain ⟨counted, month, day⟩ :=
      (Time.isDay_iff (Fields.ofShaped text.toList).wall.date).mp date
    have room : (Fields.ofShaped text.toList).HasRoom :=
      (ofChars?_eq_some_iff.mp (if_pos fitting)).1
    exact ⟨fitting, ⟨counted, Nat.le_of_lt_succ room.year⟩, month, day, hour, minute, second,
      Nat.le_of_lt_succ room.milli⟩

theorem Fields.stamp_wall (fields : Fields) : fields.wall.stamp = String.ofList fields.chars := by
  simp only [Time.WallTime.stamp, wall, chars, layout, Time.Date.chars, List.append_assoc,
    List.cons_append, Nat.mul_div_cancel_left _ (show 0 < 1000 by decide)]

/-- In every zone a text is read if and only if it is on the calendar. The wall time of what is read
is written as the text was and has nothing below a millisecond, and a text that is not read is
returned with the name of its parameter. -/
theorem moment_on_calendar (zone : Time.Zone) (key text : String) :
    ((∃ moment, Timestamp.moment zone key text = .ok moment) ↔ IsOnCalendar text) ∧
      (∀ moment, Timestamp.moment zone key text = .ok moment →
        moment.wall.stamp = text ∧ 1000 ∣ moment.wall.micro) ∧
      ∀ fault, Timestamp.moment zone key text = .error fault →
        fault.key = key ∧ fault.value = text := by
  refine ⟨?_, ?_, ?_⟩
  · rw [← isTimestamp_iff_isOnCalendar, ← exists_read_eq_ok_iff]
    constructor
    · rintro ⟨moment, taken⟩
      obtain ⟨wall, reading, _⟩ := moment_eq_ok_iff.mp taken
      exact ⟨wall, reading⟩
    · rintro ⟨wall, reading⟩
      exact ⟨zone.moment wall, moment_eq_ok_iff.mpr ⟨wall, reading, rfl⟩⟩
  · intro moment taken
    obtain ⟨wall, reading, rfl⟩ := moment_eq_ok_iff.mp taken
    obtain ⟨fields, _, written, rfl⟩ := read_eq_ok_iff.mp reading
    refine ⟨?_, Nat.dvd_mul_right 1000 fields.milli⟩
    show fields.wall.stamp = text
    rw [fields.stamp_wall, written, String.ofList_toList]
  · intro fault refused
    unfold Timestamp.moment at refused
    split at refused
    · contradiction
    · cases refused
      exact ⟨rfl, rfl⟩

/-- The year 2000 has a twenty-ninth of February, and the year 1900 has none. -/
theorem moment_on_calendar_centuries :
    (∃ moment, Timestamp.moment southern "start" "2000-02-29 23:59:59.999" = .ok moment ∧
        moment.wall.stamp = "2000-02-29 23:59:59.999" ∧ 1000 ∣ moment.wall.micro) ∧
      ∃ fault, Timestamp.moment southern "end" "1900-02-29 00:00:00.000" = .error fault ∧
        fault.key = "end" ∧ fault.value = "1900-02-29 00:00:00.000" ∧
        ¬IsOnCalendar "1900-02-29 00:00:00.000" := by
  obtain ⟨_, kept, _⟩ := moment_on_calendar southern "start" "2000-02-29 23:59:59.999"
  obtain ⟨accepted, _, named⟩ := moment_on_calendar southern "end" "1900-02-29 00:00:00.000"
  have read_one : Timestamp.moment southern "start" "2000-02-29 23:59:59.999" =
      .ok ⟨⟨⟨2000, 2, 29⟩, 23, 59, 59, 999000⟩, 39600⟩ := by
    decide +kernel
  have read_other : Timestamp.moment southern "end" "1900-02-29 00:00:00.000" =
      .error ⟨"end", "1900-02-29 00:00:00.000", .day⟩ := by
    decide +kernel
  obtain ⟨key, value⟩ := named _ read_other
  refine ⟨⟨_, read_one, kept _ read_one⟩, _, read_other, key, value, fun on_calendar => ?_⟩
  obtain ⟨moment, taken⟩ := accepted.mpr on_calendar
  rw [read_other] at taken
  contradiction

end Timestamp

end EntrySearch
