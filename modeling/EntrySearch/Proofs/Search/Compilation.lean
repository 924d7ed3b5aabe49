import EntrySearch.Proofs.Search.Arguments
import EntrySearch.Proofs.Search.Gathering

/-!
# Compiled requests

Compiling parameters gives the request for the criteria that they ask for, unless they are refused.
The clause about time is described by instants alone, counted in microseconds.
-/

namespace EntrySearch

open Outcome

namespace Criteria

/-- The clause about time, if a time is asked for and the span is not empty. -/
def activeClause (criteria : Criteria) (now : Time.Moment) : List Query :=
  if criteria.isTemporal ∧ (criteria.span now).isOrdered then
    [spanClause criteria.includeEvents (criteria.span now)]
  else []

/-- All clauses in the order of the categories. -/
def clauses (criteria : Criteria) (now : Time.Moment) : List Query :=
  criteria.activeClause now ++ criteria.timelessClauses

/-- The request that criteria are turned into. -/
def assembled (criteria : Criteria) (policy : Policy) (now : Time.Moment) : Request where
  index := policy.index ++ "*"
  query := .all (criteria.clauses now)
  sort := [⟨createdField, .descending⟩]
  offset := 0
  size := criteria.size policy
  seconds := searchSeconds

theorem outcome_temporalClause (criteria : Criteria) (now : Time.Moment) :
    (criteria.temporalClause now).outcome = .ok (criteria.activeClause now) := by
  unfold temporalClause activeClause
  by_cases temporal : criteria.isTemporal
  · by_cases ordered : (criteria.span now).isOrdered
    · simp [temporal, ordered]
    · simp [temporal, ordered, Traced.outcome_note_bind]
  · simp [temporal]

theorem outcome_request (criteria : Criteria) (policy : Policy) (now : Time.Moment) :
    (criteria.request policy now).outcome = .ok (criteria.assembled policy now) := by
  rw [request, Traced.outcome_bind, outcome_temporalClause]
  rfl

end Criteria

/-- Compiling parameters gives the request for the criteria asked for, unless they are refused. -/
theorem Policy.outcome_compile (policy : Policy) (zone : Time.Zone) (now : Time.Moment)
    (raw : Parameters) :
    (policy.compile zone now raw).outcome =
      barring (Criteria.refused? raw) ((Criteria.asked zone raw).assembled policy now) := by
  rw [Policy.compile, Traced.outcome_bind, Criteria.outcome_gather]
  cases Criteria.refused? raw with
  | some fault => rfl
  | none => exact Criteria.outcome_request _ policy now

/-- Compiling parameters is reading their values and compiling the texts. -/
theorem Policy.outcome_compileRaw (policy : Policy) (zone : Time.Zone) (now : Time.Moment)
    (raw : RawParameters) :
    (policy.compileRaw zone now raw).outcome =
      (Parameters.ofRaw raw).mapError .notIterable >>= fun parameters =>
        barring (Criteria.refused? parameters)
          ((Criteria.asked zone parameters).assembled policy now) := by
  rw [Policy.compileRaw]
  cases Parameters.ofRaw raw with
  | error fault => rfl
  | ok parameters => exact Policy.outcome_compile policy zone now parameters

/-- Parameters are compiled if and only if all values are read and no text is refused. -/
theorem Policy.outcome_compileRaw_eq_ok_iff {policy : Policy} {zone : Time.Zone}
    {now : Time.Moment} {given : RawParameters} {request : Request} :
    (policy.compileRaw zone now given).outcome = .ok request ↔
      ∃ raw, Parameters.ofRaw given = .ok raw ∧ Criteria.refused? raw = none ∧
        (Criteria.asked zone raw).assembled policy now = request := by
  simp only [Policy.outcome_compileRaw, bind_eq_ok_iff, mapError_eq_ok_iff, barring_eq_ok_iff]

/-- What a compiled request says about the parameters. -/
theorem Policy.compileRaw_eq_ok_iff {policy : Policy} {zone : Time.Zone} {now : Time.Moment}
    {given : GivenParameters} {request : Request} :
    (policy.compileRaw zone now given.toRaw).outcome = .ok request ↔
      Criteria.refused? given.texts = none ∧
        (Criteria.asked zone given.texts).assembled policy now = request := by
  rw [GivenParameters.compileRaw_toRaw, Policy.outcome_compile, barring_eq_ok_iff]

end EntrySearch
