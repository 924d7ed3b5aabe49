import EntrySearch.Proofs.Search.TimestampOrder
import EntrySearch.Proofs.Search.Window
import EntrySearch.Proofs.Traces

/-!
# Texts in batches

A parameter other than the limit takes up texts in two batches as it takes them up at once: both are
refused or neither is, and they ask for the same, where the bounds of the time are compared as
instants. A parameter changes one field of the criteria, and what it makes of that field does not
depend on the others.
-/

namespace EntrySearch

open Outcome

namespace Bound

instance (bound : Bound) : Std.Associative bound.weigh :=
  ⟨by cases bound; exacts [Int.min_assoc, Int.max_assoc]⟩

instance (bound : Bound) : Std.Commutative bound.weigh :=
  ⟨by cases bound; exacts [Int.min_comm, Int.max_comm]⟩

/-- The outermost of moments is that of their parts, weighed against each other. -/
theorem instant?_append (bound : Bound) (left right : List Time.Moment) :
    bound.instant? (left ++ right) =
      Option.merge bound.weigh (bound.instant? left) (bound.instant? right) := by
  cases left with
  | nil => simp [instant?, outermost?]
  | cons first others =>
      cases right with
      | nil => simp [instant?, outermost?]
      | cons next later =>
          rw [List.cons_append, instant?_cons, instant?_cons, instant?_cons, Option.merge_some_some,
            List.map_append, List.foldl_append, List.map_cons, List.foldl_cons, List.foldl_assoc]

theorem instant?_weighed (bound : Bound) (first second known : List Time.Moment) :
    bound.instant? (second ++ (bound.outermost? (first ++ known)).toList) =
      bound.instant? (first ++ second ++ known) := by
  have stands : bound.instant? (bound.outermost? (first ++ known)).toList =
      bound.instant? (first ++ known) := by
    rw [instant?, Criteria.outermost?_toList, instant?]
  rw [instant?_append, stands, instant?_append, instant?_append, instant?_append]
  ac_rfl

end Bound

namespace Criteria

/-- Criteria that ask for the same, where the bounds of the time are compared as instants. -/
structure AsksAs (criteria other : Criteria) : Prop where
  /-- The earliest times are the same instant. -/
  start_eq : criteria.start.map Time.Moment.micros = other.start.map Time.Moment.micros
  /-- The latest times are the same instant. -/
  finish_eq : criteria.finish.map Time.Moment.micros = other.finish.map Time.Moment.micros
  /-- All else is the same. -/
  others_eq : { criteria with start := none, finish := none } =
    { other with start := none, finish := none }

theorem AsksAs.of_eq {criteria other : Criteria} (same : criteria = other) :
    criteria.AsksAs other := by
  subst same
  exact ⟨rfl, rfl, rfl⟩

/-- Criteria whose field for a parameter is as in others. -/
def withField (criteria : Criteria) (parameter : Parameter) (source : Criteria) : Criteria :=
  match parameter with
  | .description => { criteria with description := source.description }
  | .title => { criteria with title := source.title }
  | .level => { criteria with level := source.level }
  | .fuzzy => { criteria with mode := source.mode }
  | .phrase => { criteria with phrases := source.phrases }
  | .owner => { criteria with owners := source.owners }
  | .tags => { criteria with tags := source.tags }
  | .logbooks => { criteria with logbooks := source.logbooks }
  | .properties => { criteria with properties := source.properties }
  | .start => { criteria with start := source.start }
  | .finish => { criteria with finish := source.finish }
  | .includeEvents => { criteria with includeEvents := source.includeEvents }
  | .limit => { criteria with limit := source.limit }

@[simp]
theorem withField_self (criteria : Criteria) (parameter : Parameter) :
    criteria.withField parameter criteria = criteria := by
  cases parameter <;> rfl

variable (zone : Time.Zone) (criteria : Criteria)

theorem refusal?_append {parameter : Parameter} (unlimited : parameter ≠ .limit)
    (first second : List String) :
    refusal? (first ++ second) parameter =
      (refusal? first parameter).or (refusal? second parameter) := by
  cases parameter with
  | start | finish => simp only [refusal?, List.findSome?_append, Option.map_or]
  | limit => exact absurd rfl unlimited
  | _ => rfl

theorem asksAs_extend_only {parameter : Parameter} (unlimited : parameter ≠ .limit)
    (first second : List String) :
    ((criteria.extend zone (parameter.only first)).extend zone (parameter.only second)).AsksAs
      (criteria.extend zone (parameter.only (first ++ second))) := by
  cases singular : parameter.isSingular with
  | false =>
      have apart : ∀ other : Parameter, other.isSingular = true →
          parameter.only first other = [] ∨ parameter.only second other = [] := by
        intro other is_singular
        have distinct : other ≠ parameter := fun same => by
          rw [same, singular] at is_singular
          contradiction
        exact .inl (if_neg distinct)
      have joined : (fun other => parameter.only first other ++ parameter.only second other) =
          parameter.only (first ++ second) := by
        funext other
        by_cases same : other = parameter <;> simp [Parameter.only, same]
      refine .of_eq ?_
      rw [extend_extend zone criteria apart, joined]
  | true =>
      cases parameter with
      | start =>
          have weighed := Bound.earliest.instant?_weighed (momentsOf zone first)
            (momentsOf zone second) criteria.start.toList
          refine ⟨?_, ?_, ?_⟩
          · simpa [extend, Parameter.only, momentsOf, Bound.instant?] using weighed
          · simp [extend, Parameter.only]
          · simp [extend, Parameter.only]
      | finish =>
          have weighed := Bound.latest.instant?_weighed (momentsOf zone first)
            (momentsOf zone second) criteria.finish.toList
          refine ⟨?_, ?_, ?_⟩
          · simp [extend, Parameter.only]
          · simpa [extend, Parameter.only, momentsOf, Bound.instant?] using weighed
          · simp [extend, Parameter.only]
      | limit => exact absurd rfl unlimited
      | _ => exact absurd singular Bool.false_ne_true

theorem absorb_twice {parameter : Parameter} (unlimited : parameter ≠ .limit)
    {first second : List String} (first_filled : first ≠ []) (second_filled : second ≠ []) :
    (criteria.absorb zone parameter first >>= fun between =>
        between.absorb zone parameter second).outcome =
      barring (refusal? (first ++ second) parameter)
        ((criteria.extend zone (parameter.only first)).extend zone (parameter.only second)) := by
  rw [Traced.outcome_bind, outcome_absorb zone criteria parameter first_filled,
    refusal?_append unlimited]
  simp only [outcome_absorb zone _ parameter second_filled]
  exact barring_bind_barring _ _ _ _

/-- A parameter changes its own field as that field alone demands, and leaves the others as they
are. -/
theorem absorb_withField (other : Criteria) (parameter : Parameter) (values : List String) :
    (other.withField parameter criteria).absorb zone parameter values =
      criteria.absorb zone parameter values >>= fun result =>
        pure (other.withField parameter result) := by
  cases parameter with
  | start | finish =>
      simp only [absorb, Traced.bind_assoc]
      rfl
  | limit =>
      cases values with
      | nil => rfl
      | cons value rest =>
          simp only [absorb, Traced.bind_assoc]
          refine congrArg (limitOf value >>= ·) (funext fun asked => ?_)
          cases asked <;> rfl
  | _ => rfl

/-- A parameter other than the limit takes up texts in two batches as at once, and every parameter
changes nothing but its own field, in a way that depends on this field only. -/
theorem absorbKey_batches {key : String} {parameter : Parameter}
    (known : Parameter.ofKey? key = some parameter) :
    (key ≠ "limit" → ∀ first second : List String, first ≠ [] → second ≠ [] →
      let twice := (criteria.absorbKey zone key first >>= fun between =>
        between.absorbKey zone key second).outcome
      let once := (criteria.absorbKey zone key (first ++ second)).outcome
      (∃ fault, twice = .error fault ∧ once = .error fault) ∨
        ∃ result other, twice = .ok result ∧ once = .ok other ∧ result.AsksAs other) ∧
      ∀ values result, (criteria.absorbKey zone key values).outcome = .ok result →
        criteria.withField parameter result = result ∧
          ∀ other : Criteria,
            ((other.withField parameter criteria).absorbKey zone key values).outcome =
              .ok (other.withField parameter result) := by
  have taken (criteria : Criteria) (values : List String) :
      criteria.absorbKey zone key values = criteria.absorb zone parameter values := by
    rw [absorbKey, known]
  simp only [taken]
  refine ⟨fun other_key first second first_filled second_filled => ?_,
    fun values result absorbed => ?_⟩
  · have unlimited : parameter ≠ .limit := by
      rintro rfl
      exact other_key (Parameter.ofKey?_eq_limit_iff.mp known)
    have filled : first ++ second ≠ [] := fun nothing =>
      first_filled (List.append_eq_nil_iff.mp nothing).1
    rw [absorb_twice zone criteria unlimited first_filled second_filled,
      outcome_absorb zone criteria parameter filled]
    cases refusal? (first ++ second) parameter with
    | some fault => exact .inl ⟨fault, rfl, rfl⟩
    | none => exact .inr ⟨_, _, rfl, rfl, asksAs_extend_only zone criteria unlimited first second⟩
  · have framed (other : Criteria) :
        ((other.withField parameter criteria).absorb zone parameter values).outcome =
          .ok (other.withField parameter result) := by
      rw [absorb_withField, Traced.outcome_bind, absorbed]
      rfl
    have own := framed criteria
    rw [withField_self, absorbed] at own
    exact ⟨(Except.ok.inj own).symm, framed⟩

/-- Where the clock skips an hour, two batches may name one instant by different clock times. The
name that is kept is that of the batch taken up last, and the first one where both are one batch. -/
theorem absorbKey_batches_skippedHour :
    let skipped := ["2024-10-06 02:30:00.000"]
    let shown := ["2024-10-06 01:30:00.000"]
    let absorb (criteria : Criteria) := criteria.absorbKey Timestamp.southern "start"
    Parameter.ofKey? "start" = some .start ∧ ∃ result other : Criteria,
      (absorb {} skipped >>= fun between => absorb between shown).outcome = .ok result ∧
        (absorb {} (skipped ++ shown)).outcome = .ok other ∧
        result.AsksAs other ∧ result.start ≠ other.start := by
  intro skipped shown absorb
  have known : Parameter.ofKey? "start" = some .start := by decide
  obtain ⟨batches, -⟩ := absorbKey_batches Timestamp.southern {} known
  refine ⟨known, ?_⟩
  rcases batches (by decide) skipped shown (List.cons_ne_nil _ _) (List.cons_ne_nil _ _) with
    ⟨fault, twice, -⟩ | ⟨result, other, twice, once, same⟩
  · exact absurd twice nofun
  · refine ⟨result, other, twice, once, same, fun equal => ?_⟩
    have kept : (absorb {} skipped >>= fun between => absorb between shown).outcome.toOption.map
        Criteria.start = (absorb {} (skipped ++ shown)).outcome.toOption.map Criteria.start := by
      rw [twice, once]
      exact congrArg some equal
    exact absurd kept (by decide +kernel)

end Criteria

end EntrySearch
