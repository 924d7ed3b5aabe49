import EntrySearch.Proofs.Search.Permissiveness
import EntrySearch.Proofs.Search.Window
import EntrySearch.Proofs.Time.Daylight

/-!
# The order of timestamps

Timestamps that come first in the order of texts are earlier instants, in every zone that times are
local to, unless the clock skips the later one. So the bounds of a search can be told by their texts.
-/

namespace EntrySearch

open Decimal

namespace Timestamp

theorem append_lt_append {first other rest later : List Char} (count : first.length = other.length)
    (smaller : first ++ rest < other ++ later) : first < other ∨ first = other ∧ rest < later := by
  induction first generalizing other with
  | nil =>
      obtain rfl := List.length_eq_zero_iff.mp count.symm
      exact .inr ⟨rfl, smaller⟩
  | cons c first ih =>
      cases other with
      | nil => exact absurd count (by simp)
      | cons d other =>
          rcases List.cons_lt_cons_iff.mp smaller with less | ⟨rfl, rest_less⟩
          · exact .inl (List.cons_lt_cons_iff.mpr (.inl less))
          · rcases ih (by simpa using count) rest_less with less | ⟨rfl, less⟩
            · exact .inl (List.cons_lt_cons_iff.mpr (.inr ⟨rfl, less⟩))
            · exact .inr ⟨rfl, less⟩

/-- A number in front decides about the order of texts, and where it is the same, what follows. -/
theorem lt_of_field_lt {width m n : Nat} {rest later : List Char} (positive : 0 < width)
    (small : m < 10 ^ width) (other_small : n < 10 ^ width)
    (smaller : paddedDigits width m ++ rest < paddedDigits width n ++ later) :
    m < n ∨ m = n ∧ rest < later := by
  have count : (paddedDigits width m).length = (paddedDigits width n).length := by
    rw [length_paddedDigits positive small, length_paddedDigits positive other_small]
  rcases append_lt_append count smaller with less | ⟨same, less⟩
  · exact .inl (lt_of_paddedDigits_lt positive small other_small less)
  · refine .inr ⟨?_, less⟩
    rw [← ofDigits_paddedDigits width m, same, ofDigits_paddedDigits]

theorem lt_of_mark_lt {mark : Char} {rest later : List Char}
    (smaller : mark :: rest < mark :: later) : rest < later := by
  simpa using smaller

namespace Fields

variable {fields other : Fields}

/-- Milliseconds since midnight. -/
def clock (fields : Fields) : Nat :=
  1000 * (3600 * fields.hour + 60 * fields.minute + fields.second) + fields.milli

theorem clock_lt (time : fields.IsTime) : fields.clock < 86400000 := by
  obtain ⟨-, -, -, hour, minute, second, milli⟩ := time
  rw [clock]
  omega

theorem inCalendar (time : fields.IsTime) : fields.wall.date.InCalendar :=
  ⟨time.month, time.day⟩

theorem micros_wall (fields : Fields) :
    fields.wall.micros = 1000 * (86400000 * fields.wall.date.dayNumber + fields.clock) := by
  rw [Time.WallTime.micros, Time.WallTime.seconds, clock]
  simp only [wall]
  omega

theorem before_of_chars_lt (time : fields.IsTime) (other_time : other.IsTime)
    (smaller : fields.chars < other.chars) :
    fields.wall.date.Before other.wall.date ∨
      fields.wall.date = other.wall.date ∧ fields.clock < other.clock := by
  have room := time.hasRoom
  have other_room := other_time.hasRoom
  rw [chars, chars, layout, layout] at smaller
  rcases lt_of_field_lt (by decide) room.year other_room.year smaller with less | ⟨year, smaller⟩
  · exact .inl (.inl less)
  rcases lt_of_field_lt (by decide) room.month other_room.month (lt_of_mark_lt smaller) with
    less | ⟨month, smaller⟩
  · exact .inl (.inr ⟨year, .inl less⟩)
  rcases lt_of_field_lt (by decide) room.day other_room.day (lt_of_mark_lt smaller) with
    less | ⟨day, smaller⟩
  · exact .inl (.inr ⟨year, .inr ⟨month, less⟩⟩)
  refine .inr ⟨by simp only [wall, year, month, day], ?_⟩
  obtain ⟨-, -, -, hour_le, minute_le, second_le, milli_le⟩ := time
  rw [clock, clock]
  rcases lt_of_field_lt (by decide) room.hour other_room.hour (lt_of_mark_lt smaller) with
    less | ⟨hour, smaller⟩
  · omega
  rcases lt_of_field_lt (by decide) room.minute other_room.minute (lt_of_mark_lt smaller) with
    less | ⟨minute, smaller⟩
  · omega
  rcases lt_of_field_lt (by decide) room.second other_room.second (lt_of_mark_lt smaller) with
    less | ⟨second, smaller⟩
  · omega
  have milli := lt_of_paddedDigits_lt (by decide) room.milli other_room.milli
    (lt_of_mark_lt smaller)
  omega

/-- The text that comes first shows the earlier wall time. -/
theorem micros_wall_lt (time : fields.IsTime) (other_time : other.IsTime)
    (smaller : fields.chars < other.chars) : fields.wall.micros < other.wall.micros := by
  have clock := clock_lt time
  rw [micros_wall, micros_wall]
  rcases before_of_chars_lt time other_time smaller with earlier | ⟨same, earlier⟩
  · have days := Time.Date.dayNumber_lt (inCalendar time) (inCalendar other_time) earlier
    omega
  · rw [same]
    omega

end Fields

variable {zone : Time.Zone} {key later_key a b : String} {first second : Time.Moment}

theorem moment_eq_ok_iff :
    moment zone key a = .ok first ↔ ∃ wall, read a = .ok wall ∧ zone.moment wall = first := by
  unfold moment
  cases read a <;> simp

theorem moment?_eq_some_iff :
    moment? zone a = some first ↔ ∃ wall, read a = .ok wall ∧ zone.moment wall = first := by
  unfold moment?
  cases read a <;> simp [Except.toOption]

theorem moment?_of_moment (named : moment zone key a = .ok first) : moment? zone a = some first :=
  moment?_eq_some_iff.mpr (moment_eq_ok_iff.mp named)

theorem moment_of_moment? (key : String) (named : moment? zone a = some first) :
    moment zone key a = .ok first :=
  moment_eq_ok_iff.mpr (moment?_eq_some_iff.mp named)

theorem isTimestamp_of_moment? (named : moment? zone a = some first) : IsTimestamp a := by
  obtain ⟨wall, reading, _⟩ := moment?_eq_some_iff.mp named
  exact exists_read_eq_ok_iff.mp ⟨wall, reading⟩

/-- Of two timestamps the one that comes first in the order of texts is the earlier instant, unless
the clock skips the other. -/
theorem micros_lt_of_text_lt (regular : zone.IsRegular) (first_named : moment? zone a = some first)
    (second_named : moment? zone b = some second) (before : a < b)
    (shown : ¬zone.Skips second.wall) : first.micros < second.micros := by
  obtain ⟨_, reading, rfl⟩ := moment?_eq_some_iff.mp first_named
  obtain ⟨_, later_reading, rfl⟩ := moment?_eq_some_iff.mp second_named
  obtain ⟨fields, time, written, rfl⟩ := read_eq_ok_iff.mp reading
  obtain ⟨later, later_time, later_written, rfl⟩ := read_eq_ok_iff.mp later_reading
  have texts : fields.chars < later.chars := by
    rw [written, later_written]
    exact before
  have milli := time.milli
  have later_milli := later_time.milli
  refine Time.Zone.micros_moment_lt regular ?_ ?_ (Fields.micros_wall_lt time later_time texts) shown
  · show 1000 * fields.milli < 1000000
    omega
  · show 1000 * later.milli < 1000000
    omega

theorem exists_micros_eq (named : moment? zone a = some first) : ∃ n, first.micros = 1000 * n := by
  obtain ⟨_, reading, rfl⟩ := moment?_eq_some_iff.mp named
  obtain ⟨fields, -, -, rfl⟩ := read_eq_ok_iff.mp reading
  refine ⟨86400000 * fields.wall.date.dayNumber + fields.clock -
    1000 * zone.offsetAt fields.wall.seconds, ?_⟩
  simp only [Time.Moment.micros, Time.Zone.moment, Fields.micros_wall]
  omega

theorem fdiv_lt_of_micros_lt (first_named : moment? zone a = some first)
    (second_named : moment? zone b = some second) (before : first.micros < second.micros) :
    first.micros.fdiv 1000 < second.micros.fdiv 1000 := by
  obtain ⟨n, first_eq⟩ := exists_micros_eq first_named
  obtain ⟨m, second_eq⟩ := exists_micros_eq second_named
  rw [first_eq, second_eq, Int.mul_fdiv_cancel_left _ (by decide),
    Int.mul_fdiv_cancel_left _ (by decide)]
  omega

/-- A text is a timestamp of a wall time that the clock of a zone does not skip. -/
def ShownIn (zone : Time.Zone) (text : String) : Prop :=
  ∃ moment, moment? zone text = some moment ∧ ¬zone.Skips moment.wall

end Timestamp

namespace Bound

theorem foldl_outer_mem (bound : Bound) (first : Time.Moment) (others : List Time.Moment) :
    others.foldl bound.outer first ∈ first :: others := by
  induction others generalizing first with
  | nil => exact List.mem_singleton_self first
  | cons next others ih =>
      have one_of : bound.outer first next = first ∨ bound.outer first next = next := by
        cases bound <;> simp only [outer] <;> split <;> simp
      rw [List.foldl_cons]
      rcases List.mem_cons.mp (ih (bound.outer first next)) with same | later
      · rw [same]
        rcases one_of with same | same <;> simp [same]
      · exact List.mem_cons_of_mem _ (List.mem_cons_of_mem _ later)

theorem mem_of_outermost? {bound : Bound} {moments : List Time.Moment} {moment : Time.Moment}
    (found : bound.outermost? moments = some moment) : moment ∈ moments := by
  cases moments with
  | nil => cases found
  | cons first others =>
      obtain rfl := Option.some.inj found
      exact foldl_outer_mem bound first others

theorem le_of_outermost?_earliest {moments : List Time.Moment} {moment : Time.Moment}
    (found : earliest.outermost? moments = some moment) :
    ∀ other ∈ moments, moment.micros ≤ other.micros := by
  have least := micros_outermost?_earliest moments
  rw [found, Option.map_some] at least
  intro other member
  exact (List.min?_eq_some_iff.mp least.symm).2 _ (List.mem_map_of_mem member)

theorem le_of_outermost?_latest {moments : List Time.Moment} {moment : Time.Moment}
    (found : latest.outermost? moments = some moment) :
    ∀ other ∈ moments, other.micros ≤ moment.micros := by
  have greatest := micros_outermost?_latest moments
  rw [found, Option.map_some] at greatest
  intro other member
  exact (List.max?_eq_some_iff.mp greatest.symm).2 _ (List.mem_map_of_mem member)

end Bound

namespace Criteria

variable {zone : Time.Zone} {texts : List String}

/-- Timestamps for a bound of a time give the moment of one of them, and no other lies further
out. -/
theorem exists_timeOf_eq (bound : Bound) (key : String) (filled : texts ≠ [])
    (named : ∀ text ∈ texts, Timestamp.ShownIn zone text) :
    ∃ outer ∈ texts, ∃ moment, Timestamp.moment? zone outer = some moment ∧
      ¬zone.Skips moment.wall ∧ timeOf zone bound key none texts = .ok moment ∧
        bound.outermost? (momentsOf zone texts) = some moment := by
  have accepted : texts.findSome? (Timestamp.malformed? key) = none := by
    rw [List.findSome?_eq_none_iff]
    intro text member
    obtain ⟨_, found, _⟩ := named text member
    exact Timestamp.malformed?_eq_none_iff.mpr (Timestamp.isTimestamp_of_moment? found)
  have closed := timeOf_eq_barring zone bound key none filled
  rw [accepted, Option.map_none, Outcome.barring_none, Option.toList_none, List.append_nil]
    at closed
  cases result : timeOf zone bound key none texts with
  | error fault =>
      rw [result] at closed
      cases closed
  | ok moment =>
      rw [result] at closed
      have found : bound.outermost? (momentsOf zone texts) = some moment :=
        (Except.ok.inj closed).symm
      obtain ⟨outer, member, is_named⟩ := List.mem_filterMap.mp (Bound.mem_of_outermost? found)
      obtain ⟨same, at_outer, shown⟩ := named outer member
      obtain rfl : same = moment := Option.some.inj (at_outer.symm.trans is_named)
      exact ⟨outer, member, same, is_named, shown, rfl, found⟩

theorem timeOf_earliest (regular : zone.IsRegular) (key : String) (filled : texts ≠ [])
    (named : ∀ text ∈ texts, Timestamp.ShownIn zone text) :
    ∃ least ∈ texts, (∀ text ∈ texts, least ≤ text) ∧ ∃ moment,
      Timestamp.moment zone key least = .ok moment ∧
        timeOf zone .earliest key none texts = .ok moment := by
  obtain ⟨least, member, moment, is_named, shown, result, found⟩ :=
    exists_timeOf_eq .earliest key filled named
  refine ⟨least, member, fun text among smaller => ?_, moment,
    Timestamp.moment_of_moment? key is_named, result⟩
  obtain ⟨other, at_text, _⟩ := named text among
  have earlier := Timestamp.micros_lt_of_text_lt regular at_text is_named smaller shown
  have := Bound.le_of_outermost?_earliest found other
    (List.mem_filterMap.mpr ⟨text, among, at_text⟩)
  omega

theorem timeOf_latest (regular : zone.IsRegular) (key : String) (filled : texts ≠ [])
    (named : ∀ text ∈ texts, Timestamp.ShownIn zone text) :
    ∃ greatest ∈ texts, (∀ text ∈ texts, text ≤ greatest) ∧ ∃ moment,
      Timestamp.moment zone key greatest = .ok moment ∧
        timeOf zone .latest key none texts = .ok moment := by
  obtain ⟨greatest, member, moment, is_named, shown, result, found⟩ :=
    exists_timeOf_eq .latest key filled named
  refine ⟨greatest, member, fun text among smaller => ?_, moment,
    Timestamp.moment_of_moment? key is_named, result⟩
  obtain ⟨other, at_text, other_shown⟩ := named text among
  have later := Timestamp.micros_lt_of_text_lt regular is_named at_text smaller other_shown
  have := Bound.le_of_outermost?_latest found other
    (List.mem_filterMap.mpr ⟨text, among, at_text⟩)
  omega

theorem refused?_eq_none {raw : Parameters} (unlimited : raw.valuesOf "limit" = [])
    (timely : ∀ key ∈ Parameters.boundKeys, ∀ text ∈ raw.valuesOf key,
      Timestamp.IsTimestamp text) : refused? raw = none := by
  rw [refused?_eq, List.findSome?_eq_none_iff]
  intro key known
  by_cases bound : key ∈ Parameters.boundKeys
  · rw [refusalAt?_bound_eq_none_iff bound]
    intro text member
    exact Timestamp.malformed?_eq_none_iff.mpr (timely key bound text member)
  · refine refusalAt?_other bound ?_ _
    rintro rfl
    exact Parameters.mem_firstKeys_iff.mp known unlimited

end Criteria

namespace Parameters

variable {zone : Time.Zone} {raw : Parameters} {a b : String} {first second : Time.Moment}

theorem instants_singleton {key : String} (given : raw.valuesOf key = [a])
    (named : Timestamp.moment? zone a = some first) : raw.instants zone key = [first.micros] := by
  simp [instants, given, Criteria.momentsOf, named]

theorem window_of_start_and_end (start : raw.valuesOf "start" = [a])
    (finish : raw.valuesOf "end" = [b]) (first_named : Timestamp.moment? zone a = some first)
    (second_named : Timestamp.moment? zone b = some second) (now : Time.Moment)
    (before : first.micros < second.micros) :
    raw.HasWindow zone now ∧ raw.windowStart zone = first.micros ∧
      raw.windowEnd zone now = second.micros := by
  have starts := instants_singleton start first_named
  have ends := instants_singleton finish second_named
  simp [HasWindow, windowStart, windowEnd, starts, ends, before]

end Parameters

namespace Timestamp

/-- In a zone that times are local to, timestamps are as instants in the order of their texts, unless
the clock skips the later one; one start before one end gives a clause about time whose bounds are in
this order; and the earliest start and the latest end are the first and the last text. -/
theorem instants_in_order_of_texts (zone : Time.Zone) (home : zone.IsLocal) :
    (∀ (key later_key a b : String) (first second : Time.Moment),
      moment zone key a = .ok first → moment zone later_key b = .ok second → a < b →
        ¬zone.Skips second.wall → first.micros < second.micros) ∧
      (∀ (policy : Policy) (now : Time.Moment) (given : GivenParameters) (a b : String)
        (first second : Time.Moment),
        given.texts.valuesOf "start" = [a] → given.texts.valuesOf "end" = [b] →
          moment zone "start" a = .ok first → moment zone "end" b = .ok second → a < b →
            ¬zone.Skips second.wall →
              first.micros.fdiv 1000 < second.micros.fdiv 1000 ∧
                (∀ request, (policy.compileRaw zone now given.toRaw).outcome = .ok request →
                  ∃ others, request.query = .all
                    (.inWindow given.texts.WithEvents first.micros second.micros :: others)) ∧
                (given.texts.valuesOf "limit" = [] →
                  ∃ request, (policy.compileRaw zone now given.toRaw).outcome = .ok request)) ∧
      ∀ texts : List String, texts ≠ [] → (∀ text ∈ texts, ShownIn zone text) →
        (∃ least ∈ texts, (∀ text ∈ texts, least ≤ text) ∧ ∃ moment,
          Timestamp.moment zone "start" least = .ok moment ∧
            Criteria.timeOf zone .earliest "start" none texts = .ok moment) ∧
          ∃ greatest ∈ texts, (∀ text ∈ texts, text ≤ greatest) ∧ ∃ moment,
            Timestamp.moment zone "end" greatest = .ok moment ∧
              Criteria.timeOf zone .latest "end" none texts = .ok moment := by
  have regular := home.isRegular
  refine ⟨?_, ?_, fun texts filled named =>
    ⟨Criteria.timeOf_earliest regular "start" filled named,
      Criteria.timeOf_latest regular "end" filled named⟩⟩
  · intro key later_key a b first second first_read second_read before shown
    exact micros_lt_of_text_lt regular (moment?_of_moment first_read)
      (moment?_of_moment second_read) before shown
  · intro policy now given a b first second start finish first_read second_read before shown
    have first_named := moment?_of_moment first_read
    have second_named := moment?_of_moment second_read
    have earlier := micros_lt_of_text_lt regular first_named second_named before shown
    obtain ⟨window, from_start, to_end⟩ :=
      Parameters.window_of_start_and_end start finish first_named second_named now earlier
    refine ⟨fdiv_lt_of_micros_lt first_named second_named earlier, fun request compiled => ?_,
      fun unlimited => ?_⟩
    · obtain ⟨_, rfl⟩ := Policy.compileRaw_eq_ok_iff.mp compiled
      rw [Criteria.assembled, Criteria.clauses, Criteria.activeClause_asked, if_pos window,
        from_start, to_end]
      exact ⟨_, rfl⟩
    · refine ⟨_, Policy.compileRaw_eq_ok_iff.mpr ⟨Criteria.refused?_eq_none unlimited ?_, rfl⟩⟩
      intro key bound text member
      obtain rfl | rfl : key = "start" ∨ key = "end" := by
        simpa [Parameters.boundKeys] using bound
      · rw [start, List.mem_singleton] at member
        exact member ▸ isTimestamp_of_moment? first_named
      · rw [finish, List.mem_singleton] at member
        exact member ▸ isTimestamp_of_moment? second_named

/-- A zone whose daylight time lasts over the turn of the year. -/
def southern : Time.Zone :=
  ⟨36000, some ⟨39600, ⟨10, 1, 0, 7200⟩, ⟨4, 1, 0, 10800⟩⟩⟩

theorem instants_in_order_southern :
    let first : Time.Moment := ⟨⟨⟨2024, 4, 7⟩, 2, 59, 59, 999000⟩, 39600⟩
    let second : Time.Moment := ⟨⟨⟨2024, 4, 7⟩, 3, 0, 0, 0⟩, 36000⟩
    let given : GivenParameters :=
      [("start", .text "2024-04-07 02:59:59.999"), ("end", .text "2024-04-07 03:00:00.000")]
    moment southern "start" "2024-04-07 02:59:59.999" = .ok first ∧
      moment southern "end" "2024-04-07 03:00:00.000" = .ok second ∧
      first.micros < second.micros ∧
      ∃ request others,
        (({} : Policy).compileRaw southern Time.Moment.epoch given.toRaw).outcome = .ok request ∧
          request.query =
            .all (.range "createdDate" 1712419199999 1712422800000 :: others) := by
  intro first second given
  have first_read : moment southern "start" "2024-04-07 02:59:59.999" = .ok first := by
    decide +kernel
  have second_read : moment southern "end" "2024-04-07 03:00:00.000" = .ok second := by
    decide +kernel
  have before : "2024-04-07 02:59:59.999" < "2024-04-07 03:00:00.000" := by decide
  have shown : ¬southern.Skips second.wall := by decide +kernel
  obtain ⟨order, window, _⟩ := instants_in_order_of_texts southern
    (.daylight (show "AEST-10AEDT,M10.1.0,M4.1.0/3" ∈ _ by decide) (by decide))
  obtain ⟨_, clauses, returned⟩ := window {} Time.Moment.epoch given _ _ first second
    (by decide +kernel) (by decide +kernel) first_read second_read before shown
  obtain ⟨request, compiled⟩ := returned (by decide +kernel)
  obtain ⟨others, query_eq⟩ := clauses request compiled
  have clause_eq : Query.inWindow given.texts.WithEvents first.micros second.micros =
      .range "createdDate" 1712419199999 1712422800000 := by
    have least : first.micros.fdiv 1000 = 1712419199999 := by decide +kernel
    have greatest : second.micros.fdiv 1000 = 1712422800000 := by decide +kernel
    have alone : ¬given.texts.WithEvents := by decide +kernel
    simp only [Query.inWindow, least, greatest, alone, decide_false, Bool.false_eq_true, if_false]
  rw [clause_eq] at query_eq
  exact ⟨first_read, second_read, order _ _ _ _ _ _ first_read second_read before shown, request,
    others, compiled, query_eq⟩

example : (southern.moment ⟨⟨2024, 10, 6⟩, 2, 0, 0, 0⟩).micros <
    (southern.moment ⟨⟨2024, 10, 6⟩, 1, 59, 59, 999000⟩).micros := by
  decide +kernel

end Timestamp

end EntrySearch
