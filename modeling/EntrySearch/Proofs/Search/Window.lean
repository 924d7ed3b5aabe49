import EntrySearch.Proofs.Search.Compilation

/-!
# The window of a search

The instants that are asked for, counted in microseconds, decide alone about the clause of a search
that is about time: the window reaches from the least of the starts to the greatest of the ends, and
is bounded by whole milliseconds.
-/

namespace EntrySearch

theorem Time.Moment.micros_epoch : Time.Moment.epoch.micros = 0 := by
  decide

theorem Time.Moment.millis_eq_fdiv (moment : Time.Moment) :
    moment.millis = moment.micros.fdiv 1000 :=
  (Int.fdiv_eq_ediv_of_nonneg moment.micros (by decide)).symm

namespace Bound

/-- The one of two instants that lies further out. -/
def weigh : Bound → Int → Int → Int
  | .earliest => min
  | .latest => max

theorem micros_outer (bound : Bound) (first second : Time.Moment) :
    (bound.outer first second).micros = bound.weigh first.micros second.micros := by
  cases bound with
  | earliest | latest =>
      simp only [outer, weigh, Time.Moment.before, decide_eq_true_iff]
      split <;> omega

/-- The instant of the outermost of moments. -/
def instant? (bound : Bound) (moments : List Time.Moment) : Option Int :=
  (bound.outermost? moments).map Time.Moment.micros

theorem instant?_cons (bound : Bound) (first : Time.Moment) (others : List Time.Moment) :
    bound.instant? (first :: others) =
      some ((others.map Time.Moment.micros).foldl bound.weigh first.micros) := by
  rw [instant?, outermost?, Option.map_some, List.foldl_map]
  exact congrArg some (List.foldl_hom Time.Moment.micros fun known next =>
    (bound.micros_outer known next).symm).symm

/-- The earliest moment has the least instant. -/
theorem micros_outermost?_earliest (moments : List Time.Moment) :
    (earliest.outermost? moments).map Time.Moment.micros =
      (moments.map Time.Moment.micros).min? := by
  cases moments with
  | nil => rfl
  | cons first others =>
      rw [List.map_cons, List.min?_cons']
      exact earliest.instant?_cons first others

/-- The latest moment has the greatest instant. -/
theorem micros_outermost?_latest (moments : List Time.Moment) :
    (latest.outermost? moments).map Time.Moment.micros =
      (moments.map Time.Moment.micros).max? := by
  cases moments with
  | nil => rfl
  | cons first others =>
      rw [List.map_cons, List.max?_cons']
      exact latest.instant?_cons first others

end Bound

namespace Parameters

/-- The instants, in microseconds, of the timestamps given under a key. -/
def instants (zone : Time.Zone) (key : String) (raw : Parameters) : List Int :=
  (Criteria.momentsOf zone (raw.valuesOf key)).map Time.Moment.micros

/-- The instant at which the window begins: the least start, 1970 without one. -/
def windowStart (zone : Time.Zone) (raw : Parameters) : Int :=
  (raw.instants zone "start").min?.getD 0

/-- The instant at which the window ends: the greatest end, the present without one. -/
def windowEnd (zone : Time.Zone) (now : Time.Moment) (raw : Parameters) : Int :=
  (raw.instants zone "end").max?.getD now.micros

/-- A time is asked for, and the window is not empty. -/
def HasWindow (zone : Time.Zone) (now : Time.Moment) (raw : Parameters) : Prop :=
  (raw.instants zone "start" ≠ [] ∨ raw.instants zone "end" ≠ []) ∧
    raw.windowStart zone < raw.windowEnd zone now

instance (zone : Time.Zone) (now : Time.Moment) (raw : Parameters) :
    Decidable (raw.HasWindow zone now) :=
  inferInstanceAs (Decidable (_ ∧ _))

/-- The times of events count too. -/
def WithEvents (raw : Parameters) : Prop :=
  "includeevents" ∈ raw.givenKeys ∨ "includeevent" ∈ raw.givenKeys

instance (raw : Parameters) : Decidable raw.WithEvents :=
  inferInstanceAs (Decidable (_ ∨ _))

end Parameters

/-- A query about a time that lies in a window, or about an event with such a time. Its bounds are
whole milliseconds, rounded down. -/
def Query.inWindow (withEvents : Bool) (start finish : Int) : Query :=
  let created := Query.range "createdDate" (start.fdiv 1000) (finish.fdiv 1000)
  let events := Query.range "events.instant" (start.fdiv 1000) (finish.fdiv 1000)
  if withEvents then .any [created, .nested "events" events "none"] else created

namespace Criteria

variable (zone : Time.Zone) (now : Time.Moment) (raw : Parameters)

theorem start_asked :
    (asked zone raw).start = Bound.earliest.outermost? (momentsOf zone (raw.valuesOf "start")) := by
  rw [asked_eq]

theorem finish_asked :
    (asked zone raw).finish = Bound.latest.outermost? (momentsOf zone (raw.valuesOf "end")) := by
  rw [asked_eq]

theorem includeEvents_asked : (asked zone raw).includeEvents = decide raw.WithEvents := by
  rw [asked_eq]
  rfl

theorem isTemporal_asked :
    (asked zone raw).isTemporal = true ↔
      raw.instants zone "start" ≠ [] ∨ raw.instants zone "end" ≠ [] := by
  simp [isTemporal, start_asked, finish_asked, Parameters.instants, Option.isSome_iff_ne_none,
    outermost?_eq_none_iff]

theorem micros_start_span :
    ((asked zone raw).span now).start.micros = raw.windowStart zone := by
  have least := Bound.micros_outermost?_earliest (momentsOf zone (raw.valuesOf "start"))
  rw [span, start_asked, Parameters.windowStart, Parameters.instants, ← least]
  cases Bound.earliest.outermost? (momentsOf zone (raw.valuesOf "start")) with
  | none => exact Time.Moment.micros_epoch
  | some moment => rfl

theorem micros_finish_span :
    ((asked zone raw).span now).finish.micros = raw.windowEnd zone now := by
  have greatest := Bound.micros_outermost?_latest (momentsOf zone (raw.valuesOf "end"))
  rw [span, finish_asked, Parameters.windowEnd, Parameters.instants, ← greatest]
  cases Bound.latest.outermost? (momentsOf zone (raw.valuesOf "end")) with
  | none => rfl
  | some moment => rfl

/-- The parameters have a window if and only if a time is asked for and its span is not empty. -/
theorem hasWindow_iff :
    raw.HasWindow zone now ↔
      (asked zone raw).isTemporal = true ∧ ((asked zone raw).span now).isOrdered = true := by
  rw [Parameters.HasWindow, isTemporal_asked, Span.isOrdered, Time.Moment.before,
    decide_eq_true_iff, micros_start_span, micros_finish_span]

/-- The clause about time is the one about the window. -/
theorem activeClause_asked :
    (asked zone raw).activeClause now =
      if raw.HasWindow zone now then
        [.inWindow (raw.WithEvents) (raw.windowStart zone) (raw.windowEnd zone now)]
      else [] := by
  have clause_eq : spanClause (asked zone raw).includeEvents ((asked zone raw).span now) =
      .inWindow raw.WithEvents (raw.windowStart zone) (raw.windowEnd zone now) := by
    simp only [spanClause, Query.inWindow, Time.Moment.millis_eq_fdiv, micros_start_span,
      micros_finish_span, includeEvents_asked, createdField, Query.within]
  rw [activeClause, clause_eq, if_congr (hasWindow_iff zone now raw).symm rfl rfl]

end Criteria

end EntrySearch
