import EntrySearch.Proofs.Time.Calendar
import EntrySearch.Time.Reader

/-!
# Daylight time

In every year, and across the turn of the year, daylight time lasts longer than the hour by which the
clock is moved. So a later wall time is a later instant, unless the clock skips it.
-/

namespace EntrySearch.Time

namespace Transition

variable {change later : Transition}

/-- A change by day, neither in the first nor in the last month of the year. -/
structure IsRegular (change : Transition) : Prop where
  /-- The year has begun and does not end. -/
  month : 2 ≤ change.month ∧ change.month ≤ 11
  /-- One of the weekdays of the month, or the last. -/
  week : 1 ≤ change.week ∧ change.week ≤ 5
  /-- An hour or more from midnight. -/
  time : 3600 ≤ change.time ∧ change.time ≤ 82800

/-- The day of a change belongs to its month. -/
theorem day_bounds (shown : 1 ≤ change.month ∧ change.month ≤ 12)
    (week : 1 ≤ change.week ∧ change.week ≤ 5) (year : Int) :
    firstOfMonth year change.month ≤ change.day year ∧
      change.day year < firstOfMonth year (change.month + 1) := by
  have long := daysInMonth_ge year shown
  rw [firstOfMonth_succ, day]
  split <;> omega

/-- A change is more than a day away from the turn of the year. -/
theorem seconds_bounds (regular : change.IsRegular) (year : Int) :
    86400 * newYear year + 86400 ≤ change.seconds year ∧
      change.seconds year + 86400 ≤ 86400 * newYear (year + 1) := by
  obtain ⟨⟨second, eleventh⟩, week, time⟩ := regular
  obtain ⟨since, until_next⟩ := day_bounds (by omega) week year
  have first := firstOfMonth_add_daysInMonth_le year (show 1 < change.month by omega)
  have last := firstOfMonth_add_daysInMonth_le year (show 12 < 13 by decide)
  have rest := firstOfMonth_mono year (show change.month + 1 ≤ 12 by omega)
  have january := daysInMonth_ge year (show 1 ≤ 1 ∧ 1 ≤ 12 by decide)
  have december := daysInMonth_ge year (show 1 ≤ 12 ∧ 12 ≤ 12 by decide)
  rw [firstOfMonth_one] at first
  rw [firstOfMonth_thirteen] at last
  rw [seconds]
  omega

/-- Changes in different months are two hours or more apart. -/
theorem seconds_add_le (regular : change.IsRegular) (later_regular : later.IsRegular)
    (before : change.month < later.month) (year : Int) :
    change.seconds year + 7200 ≤ later.seconds year := by
  have between := firstOfMonth_mono year (show change.month + 1 ≤ later.month from before)
  obtain ⟨_, until_next⟩ := day_bounds (by have := regular.month; omega) regular.week year
  obtain ⟨since, _⟩ := day_bounds (by have := later_regular.month; omega) later_regular.week year
  have time := regular.time
  have later_time := later_regular.time
  rw [seconds, seconds]
  omega

end Transition

/-- A daylight time of one hour with two regular changes in different months. -/
structure Daylight.IsRegular (rule : Daylight) (standard : Int) : Prop where
  /-- The clock is moved by an hour. -/
  offset : rule.offset = standard + 3600
  /-- The change from standard time. -/
  begins : rule.begins.IsRegular
  /-- The change back. -/
  ends : rule.ends.IsRegular
  /-- The changes are in different months. -/
  apart : rule.begins.month ≠ rule.ends.month

namespace Zone

/-- A zone without daylight time, or with a regular one. -/
def IsRegular (zone : Zone) : Prop :=
  ∀ rule, zone.daylight = some rule → rule.IsRegular zone.standard

/-- The clock is put forward past a wall time. -/
def Skips (zone : Zone) (wall : WallTime) : Prop :=
  zone.inDaylight wall.seconds = true ∧ zone.inDaylight (wall.seconds - 3600) = false

instance (zone : Zone) (wall : WallTime) : Decidable (zone.Skips wall) :=
  inferInstanceAs (Decidable (_ ∧ _))

variable {zone : Zone} {rule : Daylight} {seconds : Int}

theorem inDaylight_eq (found : zone.daylight = some rule) (regular : rule.IsRegular zone.standard)
    (year : Int) (since : 86400 * newYear year ≤ seconds)
    (until_next : seconds < 86400 * newYear (year + 1)) :
    zone.inDaylight seconds = true ↔
      if rule.begins.seconds year ≤ rule.ends.seconds year - 3600 then
        rule.begins.seconds year ≤ seconds ∧ seconds < rule.ends.seconds year - 3600
      else seconds < rule.ends.seconds year - 3600 ∨ rule.begins.seconds year ≤ seconds := by
  have same_year : yearOfDay (seconds / 86400) = year := yearOfDay_eq (by omega) (by omega)
  have hour : rule.offset - zone.standard = 3600 := by
    rw [regular.offset]
    omega
  simp only [inDaylight, found, same_year, hour]
  split <;> simp

/-- Where daylight time begins before it ends, it is the time between the two changes. -/
theorem inDaylight_iff_between (found : zone.daylight = some rule)
    (regular : rule.IsRegular zone.standard) (north : rule.begins.month < rule.ends.month)
    (year : Int) (since : 86400 * newYear year ≤ seconds)
    (until_next : seconds < 86400 * newYear (year + 1)) :
    zone.inDaylight seconds = true ↔
      rule.begins.seconds year ≤ seconds ∧ seconds < rule.ends.seconds year - 3600 := by
  have apart := Transition.seconds_add_le regular.begins regular.ends north year
  rw [inDaylight_eq found regular year since until_next, if_pos (by omega)]

/-- Where daylight time ends before it begins, it is the time up to the one change and from the
other. -/
theorem inDaylight_iff_outside (found : zone.daylight = some rule)
    (regular : rule.IsRegular zone.standard) (south : rule.ends.month < rule.begins.month)
    (year : Int) (since : 86400 * newYear year ≤ seconds)
    (until_next : seconds < 86400 * newYear (year + 1)) :
    zone.inDaylight seconds = true ↔
      seconds < rule.ends.seconds year - 3600 ∨ rule.begins.seconds year ≤ seconds := by
  have apart := Transition.seconds_add_le regular.ends regular.begins south year
  rw [inDaylight_eq found regular year since until_next, if_neg (by omega)]

theorem exists_year (seconds : Int) :
    ∃ year, 86400 * newYear year ≤ seconds ∧ seconds < 86400 * newYear (year + 1) := by
  have bounds := yearOfDay_bounds (seconds / 86400)
  exact ⟨yearOfDay (seconds / 86400), by omega, by omega⟩

theorem inDaylight_around_of_between (found : zone.daylight = some rule)
    (regular : rule.IsRegular zone.standard) (north : rule.begins.month < rule.ends.month)
    {start : Int} (daylight : zone.inDaylight seconds = true) (after_start : start ≤ seconds)
    (within : seconds ≤ start + 3600) :
    zone.inDaylight start = true ∨ zone.inDaylight (start + 3600) = true := by
  obtain ⟨year, since, until_next⟩ := exists_year seconds
  have begins := Transition.seconds_bounds regular.begins year
  have ends := Transition.seconds_bounds regular.ends year
  have apart := Transition.seconds_add_le regular.begins regular.ends north year
  rw [inDaylight_iff_between found regular north year since until_next] at daylight
  by_cases still : start + 3600 < rule.ends.seconds year - 3600
  · refine .inr ?_
    rw [inDaylight_iff_between found regular north year (by omega) (by omega)]
    omega
  · refine .inl ?_
    rw [inDaylight_iff_between found regular north year (by omega) (by omega)]
    omega

theorem inDaylight_around_of_outside (found : zone.daylight = some rule)
    (regular : rule.IsRegular zone.standard) (south : rule.ends.month < rule.begins.month)
    {start : Int} (daylight : zone.inDaylight seconds = true) (after_start : start ≤ seconds)
    (within : seconds ≤ start + 3600) :
    zone.inDaylight start = true ∨ zone.inDaylight (start + 3600) = true := by
  obtain ⟨year, since, until_next⟩ := exists_year seconds
  have begins := Transition.seconds_bounds regular.begins year
  have ends := Transition.seconds_bounds regular.ends year
  rw [inDaylight_iff_outside found regular south year since until_next] at daylight
  rcases daylight with before_change | after_change
  · refine .inl ?_
    by_cases same_year : 86400 * newYear year ≤ start
    · rw [inDaylight_iff_outside found regular south year same_year (by omega)]
      omega
    · have last := Transition.seconds_bounds regular.begins (year - 1)
      rw [Int.sub_add_cancel] at last
      rw [inDaylight_iff_outside found regular south (year - 1) (by omega)
        (by rw [Int.sub_add_cancel]; omega)]
      omega
  · refine .inr ?_
    by_cases same_year : start + 3600 < 86400 * newYear (year + 1)
    · rw [inDaylight_iff_outside found regular south year (by omega) same_year]
      omega
    · have next := Transition.seconds_bounds regular.ends (year + 1)
      rw [inDaylight_iff_outside found regular south (year + 1) (by omega) (by omega)]
      omega

/-- Daylight time lasts longer than an hour: an hour around one of its seconds begins or ends in
it. -/
theorem inDaylight_around (regular : zone.IsRegular) (start : Int)
    (daylight : zone.inDaylight seconds = true) (after_start : start ≤ seconds)
    (within : seconds ≤ start + 3600) :
    zone.inDaylight start = true ∨ zone.inDaylight (start + 3600) = true := by
  cases found : zone.daylight with
  | none => simp [inDaylight, found] at daylight
  | some rule =>
      have regular := regular rule found
      rcases Nat.lt_or_gt_of_ne regular.apart with north | south
      · exact inDaylight_around_of_between found regular north daylight after_start within
      · exact inDaylight_around_of_outside found regular south daylight after_start within

/-- The clock is an hour ahead of standard time in daylight time and in the hour that is shown
again. -/
theorem offsetAt_eq (regular : zone.IsRegular) (seconds : Int) :
    zone.offsetAt seconds =
      if zone.inDaylight seconds = true ∨ zone.inDaylight (seconds - 3600) = true then
        zone.standard + 3600
      else zone.standard := by
  cases found : zone.daylight with
  | none => simp [offsetAt, inDaylight, found]
  | some rule =>
      have offset := (regular rule found).offset
      have hour : rule.offset - zone.standard = 3600 := by omega
      simp only [offsetAt, found, hour, Bool.or_eq_true]
      rw [offset]

/-- A later wall time is a later instant, unless the clock skips it. -/
theorem micros_moment_lt (regular : zone.IsRegular) {wall later : WallTime}
    (part : wall.micro < 1000000) (later_part : later.micro < 1000000)
    (before : wall.micros < later.micros) (shown : ¬zone.Skips later) :
    (zone.moment wall).micros < (zone.moment later).micros := by
  simp only [Moment.micros, moment, offsetAt_eq regular]
  simp only [WallTime.micros] at before ⊢
  by_cases standard : zone.inDaylight wall.seconds = true ∨
      zone.inDaylight (wall.seconds - 3600) = true
  · rw [if_pos standard]
    split <;> omega
  · rw [if_neg standard]
    split
    · rename_i daylight
      have earlier_daylight : zone.inDaylight (later.seconds - 3600) = true := by
        rcases daylight with now | hour_before
        · by_contra standard_before
          exact shown ⟨now, by simpa using standard_before⟩
        · exact hour_before
      by_contra reversed
      refine standard ((inDaylight_around regular (wall.seconds - 3600) earlier_daylight
        (by omega) (by omega)).symm.imp_left fun now => ?_)
      rwa [Int.sub_add_cancel] at now
    · omega

/-- The rules of the local zones with daylight time. -/
def localRules : List String :=
  ["EST5EDT,M3.2.0,M11.1.0", "CET-1CEST,M3.5.0,M10.5.0/3", "AEST-10AEDT,M10.1.0,M4.1.0/3"]

/-- A zone that times are local to. -/
inductive IsLocal : Zone → Prop
  /-- A fixed offset. -/
  | fixed (offset : Int) : IsLocal ⟨offset, none⟩
  /-- One of the rules with daylight time. -/
  | daylight {text : String} {zone : Zone} :
      text ∈ localRules → Zone.ofText? text = some zone → IsLocal zone

theorem map_ofText?_localRules : localRules.map Zone.ofText? =
    [some ⟨-18000, some ⟨-14400, ⟨3, 2, 0, 7200⟩, ⟨11, 1, 0, 7200⟩⟩⟩,
      some ⟨3600, some ⟨7200, ⟨3, 5, 0, 7200⟩, ⟨10, 5, 0, 10800⟩⟩⟩,
      some ⟨36000, some ⟨39600, ⟨10, 1, 0, 7200⟩, ⟨4, 1, 0, 10800⟩⟩⟩] := by
  decide

theorem IsLocal.isRegular (home : zone.IsLocal) : zone.IsRegular := by
  intro rule found
  cases home with
  | fixed offset => cases found
  | daylight known read =>
      have among := List.mem_map.mpr ⟨_, known, read⟩
      rw [map_ofText?_localRules] at among
      simp only [List.mem_cons, Option.some.injEq, List.not_mem_nil, or_false] at among
      rcases among with rfl | rfl | rfl
      all_goals
        obtain rfl := Option.some.inj found
        exact ⟨by decide, ⟨by decide, by decide, by decide⟩, ⟨by decide, by decide, by decide⟩,
          by decide⟩

end Zone

end EntrySearch.Time
