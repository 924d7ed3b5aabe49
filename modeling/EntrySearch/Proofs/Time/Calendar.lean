import EntrySearch.Time.Calendar
import Mathlib.Algebra.Order.Group.Int

/-!
# The course of the calendar

Months and years follow each other without gaps, every day lies in the year that is found for it, and
later dates have greater day numbers.
-/

namespace EntrySearch.Time

variable {year day : Int} {month later : Nat}

/-- The first day of a year, counted from the start of 1970. -/
def newYear (year : Int) : Int :=
  daysBeforeYear year - epochDay

theorem firstOfMonth_one (year : Int) : firstOfMonth year 1 = newYear year := by
  simp [firstOfMonth, newYear, daysBeforeMonth, daysInMonth]

theorem firstOfMonth_succ (year : Int) (month : Nat) :
    firstOfMonth year (month + 1) = firstOfMonth year month + daysInMonth year month := by
  rw [firstOfMonth, firstOfMonth, daysBeforeMonth]
  push_cast
  omega

/-- A year has as many days as its twelve months. -/
theorem firstOfMonth_thirteen (year : Int) : firstOfMonth year 13 = newYear (year + 1) := by
  simp only [firstOfMonth, newYear, daysBeforeMonth, daysInMonth, daysBeforeYear, isLeap,
    Bool.and_eq_true, Bool.or_eq_true, beq_iff_eq, bne_iff_ne]
  split <;> omega

theorem daysInMonth_ge (year : Int) (shown : 1 ≤ month ∧ month ≤ 12) :
    28 ≤ daysInMonth year month := by
  unfold daysInMonth
  split
  any_goals omega
  · split <;> omega
  · grind

theorem firstOfMonth_mono (year : Int) (ordered : month ≤ later) :
    firstOfMonth year month ≤ firstOfMonth year later := by
  induction later, ordered using Nat.le_induction with
  | base => exact le_rfl
  | succ next _ ih =>
      rw [firstOfMonth_succ]
      omega

/-- All days of a month lie before a later one. -/
theorem firstOfMonth_add_daysInMonth_le (year : Int) (before : month < later) :
    firstOfMonth year month + daysInMonth year month ≤ firstOfMonth year later := by
  rw [← firstOfMonth_succ]
  exact firstOfMonth_mono year before

theorem newYear_mono {next : Int} (ordered : year ≤ next) : newYear year ≤ newYear next := by
  simp only [newYear, daysBeforeYear]
  omega

/-- A day lies in the year that is found for it. -/
theorem yearOfDay_bounds (day : Int) :
    newYear (yearOfDay day) ≤ day ∧ day < newYear (yearOfDay day + 1) := by
  simp only [yearOfDay, newYear]
  generalize count_eq : day + epochDay = count
  split
  · simp only [daysBeforeYear] at *
    omega
  · split
    · simp only [daysBeforeYear] at *
      omega
    · simp only [daysBeforeYear] at *
      omega

/-- The year that is found is the only one with the day. -/
theorem yearOfDay_eq (since : newYear year ≤ day) (until_next : day < newYear (year + 1)) :
    yearOfDay day = year := by
  obtain ⟨least, most⟩ := yearOfDay_bounds day
  rcases Int.lt_trichotomy (yearOfDay day) year with earlier | same | later
  · have := newYear_mono (show yearOfDay day + 1 ≤ year by omega)
    omega
  · exact same
  · have := newYear_mono (show year + 1 ≤ yearOfDay day by omega)
    omega

namespace Date

variable {date other : Date}

/-- The day belongs to a month of the calendar. -/
structure InCalendar (date : Date) : Prop where
  /-- The month is one of the twelve. -/
  month : 1 ≤ date.month ∧ date.month ≤ 12
  /-- The month has such a day. -/
  day : 1 ≤ date.day ∧ date.day ≤ daysInMonth date.year date.month

/-- Before another date in the order of years, months and days. -/
def Before (date other : Date) : Prop :=
  date.year < other.year ∨ date.year = other.year ∧
    (date.month < other.month ∨ date.month = other.month ∧ date.day < other.day)

theorem dayNumber_bounds (real : date.InCalendar) :
    newYear date.year ≤ date.dayNumber ∧ date.dayNumber < newYear (date.year + 1) := by
  have first := firstOfMonth_mono date.year real.month.1
  have last := firstOfMonth_add_daysInMonth_le date.year
    (show date.month < 13 by have := real.month; omega)
  rw [firstOfMonth_one] at first
  rw [firstOfMonth_thirteen] at last
  have := real.day
  rw [dayNumber]
  omega

/-- Later dates have greater day numbers. -/
theorem dayNumber_lt (real : date.InCalendar) (other_real : other.InCalendar)
    (before : date.Before other) : date.dayNumber < other.dayNumber := by
  rcases before with earlier | ⟨same_year, earlier | ⟨same_month, earlier⟩⟩
  · calc date.dayNumber < newYear (date.year + 1) := (dayNumber_bounds real).2
      _ ≤ newYear other.year := newYear_mono (by omega)
      _ ≤ other.dayNumber := (dayNumber_bounds other_real).1
  · have months := firstOfMonth_add_daysInMonth_le date.year earlier
    have last := real.day
    have first := other_real.day
    rw [dayNumber, dayNumber, ← same_year]
    omega
  · rw [dayNumber, dayNumber, same_year, same_month]
    omega

end Date

end EntrySearch.Time
