import EntrySearch.Proofs.Decimal.Padding
import EntrySearch.Search.Timestamp
import Mathlib.Data.List.Basic

/-!
# Texts of timestamps

The texts that are read as timestamps are exactly the times of the calendar from the years 1 to 9999
written as `yyyy-MM-dd HH:mm:ss.SSS`.
-/

namespace EntrySearch.Timestamp

open Decimal

/-- The parts of a timestamp with what stands between them. -/
def layout (year month day hour minute second milli : List Char) : List Char :=
  year ++ '-' :: (month ++ '-' :: (day ++ ' ' :: (hour ++ ':' :: (minute ++ ':' ::
    (second ++ '.' :: milli)))))

/-- Digits, as many as told. -/
def IsNumber (width : Nat) (ds : List Char) : Prop :=
  ds.length = width ∧ ∀ c ∈ ds, c.isDigit = true

namespace Fields

/-- The numbers as `yyyy-MM-dd HH:mm:ss.SSS`. -/
def chars (fields : Fields) : List Char :=
  layout (paddedDigits 4 fields.year) (paddedDigits 2 fields.month) (paddedDigits 2 fields.day)
    (paddedDigits 2 fields.hour) (paddedDigits 2 fields.minute) (paddedDigits 2 fields.second)
    (paddedDigits 3 fields.milli)

/-- The numbers have no more digits than there is room for. -/
structure HasRoom (fields : Fields) : Prop where
  year : fields.year < 10 ^ 4
  month : fields.month < 10 ^ 2
  day : fields.day < 10 ^ 2
  hour : fields.hour < 10 ^ 2
  minute : fields.minute < 10 ^ 2
  second : fields.second < 10 ^ 2
  milli : fields.milli < 10 ^ 3

/-- The numbers are a time of the calendar. -/
structure IsTime (fields : Fields) : Prop where
  year : 1 ≤ fields.year ∧ fields.year ≤ 9999
  month : 1 ≤ fields.month ∧ fields.month ≤ 12
  day : 1 ≤ fields.day ∧ fields.day ≤ Time.daysInMonth fields.year fields.month
  hour : fields.hour ≤ 23
  minute : fields.minute ≤ 59
  second : fields.second ≤ 59
  milli : fields.milli ≤ 999

end Fields

/-- A text is a time of the calendar written as `yyyy-MM-dd HH:mm:ss.SSS`. -/
def IsTimestamp (text : String) : Prop :=
  ∃ fields : Fields, fields.IsTime ∧ fields.chars = text.toList

theorem isNumber_paddedDigits {width n : Nat} (positive : 0 < width) (small : n < 10 ^ width) :
    IsNumber width (paddedDigits width n) :=
  ⟨length_paddedDigits positive small, isDigit_of_mem_paddedDigits⟩

theorem IsNumber.ofDigits_lt {width : Nat} {ds : List Char} (number : IsNumber width ds) :
    ofDigits ds < 10 ^ width := by
  obtain ⟨rfl, digits⟩ := number
  exact Decimal.ofDigits_lt digits

theorem IsNumber.paddedDigits_ofDigits {width : Nat} {ds : List Char}
    (number : IsNumber width ds) (positive : 0 < width) :
    paddedDigits width (ofDigits ds) = ds := by
  obtain ⟨rfl, digits⟩ := number
  exact Decimal.paddedDigits_ofDigits (List.length_pos_iff.mp positive) digits

theorem fits_zeros_iff (width : Nat) (marks cs : List Char) :
    fits (List.replicate width '0' ++ marks) cs = true ↔
      ∃ ds rest, cs = ds ++ rest ∧ IsNumber width ds ∧ fits marks rest = true := by
  induction width generalizing cs with
  | zero =>
      constructor
      · intro fitting
        exact ⟨[], cs, rfl, ⟨rfl, by simp⟩, fitting⟩
      · rintro ⟨ds, rest, rfl, ⟨empty, _⟩, fitting⟩
        rw [List.length_eq_zero_iff.mp empty]
        exact fitting
  | succ width ih =>
      rw [List.replicate_succ, List.cons_append]
      constructor
      · intro fitting
        cases cs with
        | nil => exact absurd fitting (by simp [fits])
        | cons c cs =>
            obtain ⟨digit, fitting⟩ : c.isDigit = true ∧ _ := by simpa [fits] using fitting
            obtain ⟨ds, rest, rfl, ⟨count, digits⟩, fitting⟩ := (ih cs).mp fitting
            refine ⟨c :: ds, rest, rfl, ⟨by simp [count], ?_⟩, fitting⟩
            simpa [digit] using digits
      · rintro ⟨ds, rest, rfl, ⟨count, digits⟩, fitting⟩
        obtain ⟨c, ds, rfl⟩ := List.exists_cons_of_length_eq_add_one count
        have shorter : ds.length = width := by simpa using count
        obtain ⟨digit, digits⟩ : c.isDigit = true ∧ ∀ d ∈ ds, d.isDigit = true := by
          simpa using digits
        have later := (ih (ds ++ rest)).mpr ⟨ds, rest, rfl, ⟨shorter, digits⟩, fitting⟩
        simp [fits, digit, later]

/-- A number and what ends it. -/
theorem fits_field_iff (width : Nat) {mark : Char} (other : mark ≠ '0') (marks cs : List Char) :
    fits (List.replicate width '0' ++ mark :: marks) cs = true ↔
      ∃ ds rest, cs = ds ++ mark :: rest ∧ IsNumber width ds ∧ fits marks rest = true := by
  rw [fits_zeros_iff]
  constructor
  · rintro ⟨ds, rest, rfl, number, fitting⟩
    cases rest with
    | nil => exact absurd fitting (by simp [fits])
    | cons c rest =>
        obtain ⟨rfl, later⟩ : c = mark ∧ fits marks rest = true := by
          simpa [fits, other] using fitting
        exact ⟨ds, rest, rfl, number, later⟩
  · rintro ⟨ds, rest, rfl, number, fitting⟩
    exact ⟨ds, mark :: rest, rfl, number, by simp [fits, other, fitting]⟩

theorem fits_last_iff (width : Nat) (cs : List Char) :
    fits (List.replicate width '0') cs = true ↔ IsNumber width cs := by
  rw [← List.append_nil (List.replicate width '0'), fits_zeros_iff]
  constructor
  · rintro ⟨ds, rest, rfl, number, fitting⟩
    have at_end : rest = [] := by cases rest <;> simp_all [fits]
    rwa [at_end, List.append_nil]
  · intro number
    exact ⟨cs, [], (List.append_nil cs).symm, number, rfl⟩

theorem shape_eq_layout :
    shape = layout (List.replicate 4 '0') (List.replicate 2 '0') (List.replicate 2 '0')
      (List.replicate 2 '0') (List.replicate 2 '0') (List.replicate 2 '0')
      (List.replicate 3 '0') := by
  decide

theorem fits_shape_iff (cs : List Char) :
    fits shape cs = true ↔ ∃ year month day hour minute second milli : List Char,
      cs = layout year month day hour minute second milli ∧
        IsNumber 4 year ∧ IsNumber 2 month ∧ IsNumber 2 day ∧ IsNumber 2 hour ∧
        IsNumber 2 minute ∧ IsNumber 2 second ∧ IsNumber 3 milli := by
  rw [shape_eq_layout, layout]
  constructor
  · intro fitting
    obtain ⟨year, _, rfl, is_year, fitting⟩ := (fits_field_iff 4 (by decide) _ _).mp fitting
    obtain ⟨month, _, rfl, is_month, fitting⟩ := (fits_field_iff 2 (by decide) _ _).mp fitting
    obtain ⟨day, _, rfl, is_day, fitting⟩ := (fits_field_iff 2 (by decide) _ _).mp fitting
    obtain ⟨hour, _, rfl, is_hour, fitting⟩ := (fits_field_iff 2 (by decide) _ _).mp fitting
    obtain ⟨minute, _, rfl, is_minute, fitting⟩ := (fits_field_iff 2 (by decide) _ _).mp fitting
    obtain ⟨second, milli, rfl, is_second, fitting⟩ := (fits_field_iff 2 (by decide) _ _).mp fitting
    exact ⟨year, month, day, hour, minute, second, milli, rfl, is_year, is_month, is_day, is_hour,
      is_minute, is_second, (fits_last_iff 3 milli).mp fitting⟩
  · rintro ⟨year, month, day, hour, minute, second, milli, rfl, is_year, is_month, is_day,
      is_hour, is_minute, is_second, is_milli⟩
    refine (fits_field_iff 4 (by decide) _ _).mpr ⟨year, _, rfl, is_year, ?_⟩
    refine (fits_field_iff 2 (by decide) _ _).mpr ⟨month, _, rfl, is_month, ?_⟩
    refine (fits_field_iff 2 (by decide) _ _).mpr ⟨day, _, rfl, is_day, ?_⟩
    refine (fits_field_iff 2 (by decide) _ _).mpr ⟨hour, _, rfl, is_hour, ?_⟩
    refine (fits_field_iff 2 (by decide) _ _).mpr ⟨minute, _, rfl, is_minute, ?_⟩
    refine (fits_field_iff 2 (by decide) _ _).mpr ⟨second, _, rfl, is_second, ?_⟩
    exact (fits_last_iff 3 milli).mpr is_milli

theorem ofShaped_layout {year month day hour minute second milli : List Char}
    (is_year : IsNumber 4 year) (is_month : IsNumber 2 month) (is_day : IsNumber 2 day)
    (is_hour : IsNumber 2 hour) (is_minute : IsNumber 2 minute) (is_second : IsNumber 2 second)
    (is_milli : IsNumber 3 milli) :
    Fields.ofShaped (layout year month day hour minute second milli) =
      ⟨ofDigits year, ofDigits month, ofDigits day, ofDigits hour, ofDigits minute,
        ofDigits second, ofDigits milli⟩ := by
  obtain ⟨_, _, _, _, rfl⟩ := List.length_eq_four.mp is_year.1
  obtain ⟨_, _, rfl⟩ := List.length_eq_two.mp is_month.1
  obtain ⟨_, _, rfl⟩ := List.length_eq_two.mp is_day.1
  obtain ⟨_, _, rfl⟩ := List.length_eq_two.mp is_hour.1
  obtain ⟨_, _, rfl⟩ := List.length_eq_two.mp is_minute.1
  obtain ⟨_, _, rfl⟩ := List.length_eq_two.mp is_second.1
  obtain ⟨_, _, _, rfl⟩ := List.length_eq_three.mp is_milli.1
  rfl

/-- The texts of the right shape are the written numbers that there is room for, and these numbers
are read back. -/
theorem ofChars?_eq_some_iff {cs : List Char} {fields : Fields} :
    Fields.ofChars? cs = some fields ↔ fields.HasRoom ∧ fields.chars = cs := by
  rw [Fields.ofChars?, Option.ite_none_right_eq_some, fits_shape_iff, Option.some_inj]
  constructor
  · rintro ⟨⟨year, month, day, hour, minute, second, milli, rfl, is_year, is_month, is_day,
      is_hour, is_minute, is_second, is_milli⟩, rfl⟩
    rw [ofShaped_layout is_year is_month is_day is_hour is_minute is_second is_milli]
    refine ⟨⟨is_year.ofDigits_lt, is_month.ofDigits_lt, is_day.ofDigits_lt, is_hour.ofDigits_lt,
      is_minute.ofDigits_lt, is_second.ofDigits_lt, is_milli.ofDigits_lt⟩, ?_⟩
    simp only [Fields.chars, is_year.paddedDigits_ofDigits, is_month.paddedDigits_ofDigits,
      is_day.paddedDigits_ofDigits, is_hour.paddedDigits_ofDigits,
      is_minute.paddedDigits_ofDigits, is_second.paddedDigits_ofDigits,
      is_milli.paddedDigits_ofDigits, Nat.zero_lt_succ]
  · rintro ⟨room, rfl⟩
    have is_year := isNumber_paddedDigits (by decide) room.year
    have is_month := isNumber_paddedDigits (by decide) room.month
    have is_day := isNumber_paddedDigits (by decide) room.day
    have is_hour := isNumber_paddedDigits (by decide) room.hour
    have is_minute := isNumber_paddedDigits (by decide) room.minute
    have is_second := isNumber_paddedDigits (by decide) room.second
    have is_milli := isNumber_paddedDigits (by decide) room.milli
    refine ⟨⟨_, _, _, _, _, _, _, rfl, is_year, is_month, is_day, is_hour, is_minute, is_second,
      is_milli⟩, ?_⟩
    rw [Fields.chars,
      ofShaped_layout is_year is_month is_day is_hour is_minute is_second is_milli]
    simp only [ofDigits_paddedDigits]

theorem daysInMonth_le (year : Int) (month : Nat) : Time.daysInMonth year month ≤ 31 := by
  unfold Time.daysInMonth
  split
  any_goals decide
  split <;> decide

theorem Fields.IsTime.hasRoom {fields : Fields} (time : fields.IsTime) : fields.HasRoom := by
  obtain ⟨year, month, day, hour, minute, second, milli⟩ := time
  have short := daysInMonth_le fields.year fields.month
  exact ⟨by omega, by omega, by omega, by omega, by omega, by omega, by omega⟩

theorem Fields.isTime_iff {fields : Fields} (room : fields.HasRoom) :
    fields.IsTime ↔ fields.isShown = true ∧ fields.year ≠ 0 ∧
      fields.day ≤ Time.daysInMonth fields.year fields.month ∧ fields.second ≤ 59 := by
  have short := daysInMonth_le fields.year fields.month
  have year := room.year
  have milli := room.milli
  simp only [isShown, Bool.and_eq_true, decide_eq_true_iff]
  constructor
  · rintro ⟨_, _, _, _, _, _, _⟩
    omega
  · intro checked
    exact ⟨by omega, by omega, by omega, by omega, by omega, by omega, by omega⟩

/-- A text is read as a timestamp if and only if it is a time of the calendar written down. -/
theorem read_eq_ok_iff {text : String} {wall : Time.WallTime} :
    read text = .ok wall ↔
      ∃ fields : Fields, fields.IsTime ∧ fields.chars = text.toList ∧ fields.wall = wall := by
  constructor
  · intro reading
    unfold read at reading
    split at reading
    · contradiction
    · rename_i fields found
      obtain ⟨room, written⟩ := ofChars?_eq_some_iff.mp found
      refine ⟨fields, (Fields.isTime_iff room).mpr ?_, written, ?_⟩
      · grind
      · grind
  · rintro ⟨fields, time, written, rfl⟩
    have found := ofChars?_eq_some_iff.mpr ⟨time.hasRoom, written⟩
    obtain ⟨shown, year, day, second⟩ := (Fields.isTime_iff time.hasRoom).mp time
    simp only [read, found, shown, Bool.not_true, Bool.false_eq_true, if_false, if_neg year,
      if_neg (Nat.not_lt_of_le day), if_neg (Nat.not_lt_of_le second)]

theorem exists_read_eq_ok_iff {text : String} :
    (∃ wall, read text = .ok wall) ↔ IsTimestamp text := by
  simp only [read_eq_ok_iff, IsTimestamp]
  constructor
  · rintro ⟨_, fields, time, written, _⟩
    exact ⟨fields, time, written⟩
  · rintro ⟨fields, time, written⟩
    exact ⟨_, fields, time, written, rfl⟩

end EntrySearch.Timestamp
