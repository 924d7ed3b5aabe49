import EntrySearch.Proofs.Search.Refusal
import EntrySearch.Proofs.Search.Window

/-!
# The clause about time

A compiled request says something about time in at most one clause, its first one. It does so if and
only if the parameters ask for a window, and it depends on the present only through the end of a
window that is open at its end.
-/

namespace EntrySearch

namespace Query

mutual

/-- The fields and paths that a query mentions. -/
def names : Query → List String
  | .all clauses => namesOfAll clauses
  | .any queries => namesOfAll queries
  | .wildcard field _ => [field]
  | .fuzzy field _ => [field]
  | .phrase field _ => [field]
  | .range field _ _ => [field]
  | .nested path inner _ => path :: inner.names

/-- The fields and paths that queries mention. -/
def namesOfAll : List Query → List String
  | [] => []
  | query :: rest => query.names ++ namesOfAll rest

end

/-- A name begins with the field for the time of an entry or with the path of its events. -/
def isTimeName (name : String) : Bool :=
  ["createdDate", "events"].any fun start => start.toList.isPrefixOf name.toList

/-- A query mentions the time of an entry or its events. -/
def MentionsTime (query : Query) : Prop :=
  ∃ name ∈ query.names, isTimeName name = true

instance (query : Query) : Decidable query.MentionsTime :=
  inferInstanceAs (Decidable (∃ name ∈ query.names, _))

theorem namesOfAll_eq_flatMap (queries : List Query) :
    namesOfAll queries = queries.flatMap names := by
  induction queries with
  | nil => rfl
  | cons query rest ih => rw [namesOfAll, ih, List.flatMap_cons]

@[simp]
theorem names_all (clauses : List Query) : (all clauses).names = clauses.flatMap names := by
  rw [names, namesOfAll_eq_flatMap]

@[simp]
theorem names_any (queries : List Query) : (any queries).names = queries.flatMap names := by
  rw [names, namesOfAll_eq_flatMap]

@[simp]
theorem names_wildcard (field pattern : String) : (wildcard field pattern).names = [field] := by
  rw [names]

@[simp]
theorem names_fuzzy (field term : String) : (fuzzy field term).names = [field] := by
  rw [names]

@[simp]
theorem names_phrase (field words : String) : (phrase field words).names = [field] := by
  rw [names]

@[simp]
theorem names_range (field : String) (least greatest : Int) :
    (range field least greatest).names = [field] := by
  rw [names]

@[simp]
theorem names_within (path : String) (inner : Query) :
    (within path inner).names = path :: inner.names := by
  rw [within, names]

theorem mentionsTime_inWindow (withEvents : Bool) (start finish : Int) :
    (inWindow withEvents start finish).MentionsTime := by
  refine ⟨"createdDate", ?_, by decide⟩
  cases withEvents <;> simp [inWindow]

end Query

namespace Criteria

/-- The fields and paths that clauses mention when they are not about time. -/
def timelessNames : List String :=
  ["description", "title", "level", "owner", "tags", "tags.name", "logbooks", "logbooks.name",
    "properties", "properties.name", "properties.attributes", "properties.attributes.name",
    "properties.attributes.value"]

theorem not_isTimeName_of_mem_timelessNames :
    ∀ name ∈ timelessNames, Query.isTimeName name = false := by
  decide

/-- The clause for terms mentions what the queries for the terms mention, and what it is wrapped
in. -/
theorem names_clause_subset {α : Type} {wrap : Query → Query} {query : α → Query}
    {known : List String} (leaves : ∀ term, (query term).names ⊆ known)
    (wrapped : ∀ inner : Query, inner.names ⊆ known → (wrap inner).names ⊆ known)
    (terms : List α) : ∀ part ∈ clause wrap query terms, part.names ⊆ known := by
  intro part member
  rw [clause] at member
  split at member
  · exact absurd member List.not_mem_nil
  · rw [List.mem_singleton.mp member]
    refine wrapped _ fun name mentioned => ?_
    simp only [Query.names_any, List.flatMap_map, List.mem_flatMap] at mentioned
    obtain ⟨term, _, mentioned⟩ := mentioned
    exact leaves term mentioned

theorem names_labelClause_subset {path : String} (labels : List String)
    (known : path ∈ timelessNames) (named : path ++ ".name" ∈ timelessNames) :
    ∀ part ∈ labelClause path labels, part.names ⊆ timelessNames := by
  refine names_clause_subset (fun label => ?_) (fun inner subset => ?_) labels
  · simpa using named
  · simpa [known] using subset

theorem names_termQuery_subset {field : String} (mode : MatchMode) (term : String)
    (known : field ∈ timelessNames) : (termQuery mode field term).names ⊆ timelessNames := by
  cases mode <;> simpa [termQuery] using known

theorem names_propertyQuery_subset (pattern : PropertyPattern) :
    (propertyQuery pattern).names ⊆ timelessNames := by
  obtain ⟨name, attributeName, value⟩ := pattern
  cases name <;> cases attributeName <;> cases value <;> simp [propertyQuery, timelessNames]

theorem names_timelessClauses_subset (criteria : Criteria) :
    ∀ part ∈ criteria.timelessClauses, part.names ⊆ timelessNames := by
  have plain : ∀ inner : Query, inner.names ⊆ timelessNames → (id inner).names ⊆ timelessNames :=
    fun _ subset => subset
  simp only [timelessClauses, List.forall_mem_append]
  refine ⟨⟨⟨⟨⟨⟨⟨?_, ?_⟩, ?_⟩, ?_⟩, ?_⟩, ?_⟩, ?_⟩, ?_⟩
  · exact names_clause_subset (fun term => names_termQuery_subset _ term (by decide)) plain _
  · exact names_clause_subset (fun term => names_termQuery_subset _ term (by decide)) plain _
  · exact names_clause_subset (fun term => names_termQuery_subset _ term (by decide)) plain _
  · exact names_clause_subset (fun phrase => by simp [timelessNames]) plain _
  · exact names_clause_subset (fun owner => by simp [timelessNames]) plain _
  · exact names_labelClause_subset _ (by decide) (by decide)
  · exact names_labelClause_subset _ (by decide) (by decide)
  · exact names_clause_subset names_propertyQuery_subset plain _

/-- No clause but the one about time mentions a time. -/
theorem not_mentionsTime_of_mem_timelessClauses (criteria : Criteria) :
    ∀ part ∈ criteria.timelessClauses, ¬part.MentionsTime := by
  rintro part member ⟨name, mentioned, timely⟩
  have known := names_timelessClauses_subset criteria part member mentioned
  rw [not_isTimeName_of_mem_timelessNames name known] at timely
  exact Bool.false_ne_true timely

theorem temporalClause_eq (criteria : Criteria) (now later : Time.Moment)
    (closed : criteria.start = none ∨ criteria.finish ≠ none) :
    criteria.temporalClause later = criteria.temporalClause now := by
  cases finish_eq : criteria.finish with
  | some moment => simp only [temporalClause, span, finish_eq, Option.getD_some]
  | none =>
      have start_eq : criteria.start = none := closed.resolve_right (not_not_intro finish_eq)
      simp [temporalClause, isTemporal, start_eq, finish_eq]

end Criteria

namespace Criteria

variable (zone : Time.Zone) (now : Time.Moment) (raw : Parameters)

/-- A clause is about time if and only if the parameters ask for a window. -/
theorem exists_mentionsTime_iff :
    (∃ clause ∈ (asked zone raw).clauses now, clause.MentionsTime) ↔ raw.HasWindow zone now := by
  rw [clauses, activeClause_asked]
  constructor
  · rintro ⟨clause, member, timely⟩
    by_contra missing
    rw [if_neg missing, List.nil_append] at member
    exact not_mentionsTime_of_mem_timelessClauses _ clause member timely
  · intro window
    rw [if_pos window]
    exact ⟨_, List.mem_cons_self, Query.mentionsTime_inWindow _ _ _⟩

theorem clauses_of_hasWindow (window : raw.HasWindow zone now) :
    (asked zone raw).clauses now =
      .inWindow raw.WithEvents (raw.windowStart zone) (raw.windowEnd zone now) ::
        (asked zone raw).timelessClauses := by
  rw [clauses, activeClause_asked, if_pos window, List.singleton_append]

end Criteria

/-- The bounds of a window are in order even as whole milliseconds. -/
theorem Parameters.HasWindow.millis_le {zone : Time.Zone} {now : Time.Moment} {raw : Parameters}
    (window : raw.HasWindow zone now) :
    (raw.windowStart zone).fdiv 1000 ≤ (raw.windowEnd zone now).fdiv 1000 := by
  have ordered := window.2
  rw [Int.fdiv_eq_ediv_of_nonneg _ (by decide), Int.fdiv_eq_ediv_of_nonneg _ (by decide)]
  omega

theorem Policy.compile_eq (policy : Policy) (zone : Time.Zone) (now later : Time.Moment)
    (raw : Parameters)
    (closed : raw.instants zone "start" = [] ∨ raw.instants zone "end" ≠ []) :
    policy.compile zone later raw = policy.compile zone now raw := by
  refine Traced.bind_eq_of_outcome fun criteria gathered => ?_
  rw [Criteria.outcome_gather, Outcome.barring_eq_ok_iff] at gathered
  obtain ⟨_, rfl⟩ := gathered
  have clause_eq := Criteria.temporalClause_eq (Criteria.asked zone raw) now later (by
    simpa [Criteria.start_asked, Criteria.finish_asked, Criteria.outermost?_eq_none_iff,
      Parameters.instants] using closed)
  rw [Criteria.request, clause_eq, Criteria.request]

/-- A compiled request mentions a time in its first clause, and in no other one, if the parameters
ask for a window; otherwise it mentions none. The instants that the window is made of are those of
all values for its bounds, and the present counts only for a window that is open at its end. -/
theorem Policy.mentionsTime_iff_hasWindow (policy : Policy) (zone : Time.Zone) (now : Present)
    (given : GivenParameters) (request : Request)
    (compiled : (policy.compileRaw zone (now.resolve zone) given.toRaw).outcome = .ok request) :
    let raw := given.texts
    let start := raw.windowStart zone
    let finish := raw.windowEnd zone (now.resolve zone)
    (∀ key ∈ Parameters.boundKeys,
      (raw.valuesOf key).mapM (Timestamp.moment zone key) =
        .ok (Criteria.momentsOf zone (raw.valuesOf key))) ∧
      (∃ clauses, request.query = .all clauses ∧
        ((∃ clause ∈ clauses, clause.MentionsTime) ↔ raw.HasWindow zone (now.resolve zone)) ∧
        (raw.HasWindow zone (now.resolve zone) →
          clauses.head? = some (.inWindow raw.WithEvents start finish) ∧
            start.fdiv 1000 ≤ finish.fdiv 1000 ∧
            ∀ clause ∈ clauses.tail, ¬clause.MentionsTime)) ∧
      (raw.instants zone "start" = [] ∨ raw.instants zone "end" ≠ [] → ∀ later : Present,
        policy.compileRaw zone (later.resolve zone) given.toRaw =
          policy.compileRaw zone (now.resolve zone) given.toRaw) := by
  intro raw start finish
  obtain ⟨accepted, rfl⟩ := Policy.compileRaw_eq_ok_iff.mp compiled
  refine ⟨?_, ⟨_, rfl, Criteria.exists_mentionsTime_iff zone _ raw, ?_⟩, ?_⟩
  · intro key bound
    exact Criteria.mapM_moment_of_not_refused zone accepted bound
  · intro window
    rw [Criteria.clauses_of_hasWindow zone _ _ window]
    exact ⟨rfl, window.millis_le, Criteria.not_mentionsTime_of_mem_timelessClauses _⟩
  · intro closed later
    rw [GivenParameters.compileRaw_toRaw, GivenParameters.compileRaw_toRaw]
    exact Policy.compile_eq policy zone _ _ raw closed

/-- Parameters that ask for all that is later than the least of two starts. -/
def openParameters : GivenParameters :=
  [("Start", .text "1970-01-01 00:00:00.000"),
    ("start ", .list ["1969-12-31 23:59:59.999"]),
    ("includeEvent", .text "")]

theorem Policy.mentionsTime_openParameters :
    let now := Present.clock ⟨⟨1969, 12, 31⟩, 23, 59, 59, 999500⟩
    let created := Query.range "createdDate" (-1) (-1)
    let events := Query.range "events.instant" (-1) (-1)
    let request : Request :=
      { index := "olog_logs*"
        query := .all [.any [created, .nested "events" events "none"]]
        sort := [⟨"createdDate", .descending⟩]
        offset := 0
        size := 100
        seconds := 60 }
    (({} : Policy).compileRaw .utc (now.resolve .utc) openParameters.toRaw).outcome =
        .ok request ∧
      openParameters.texts.HasWindow .utc (now.resolve .utc) ∧
      ∃ clauses, request.query = .all clauses ∧
        clauses.head? = some (.inWindow true (-1000) (-500)) := by
  refine ⟨rfl, by decide, ?_⟩
  obtain ⟨_, ⟨clauses, query_eq, _, found⟩, _⟩ :=
    Policy.mentionsTime_iff_hasWindow {} .utc (.clock ⟨⟨1969, 12, 31⟩, 23, 59, 59, 999500⟩)
      openParameters _ rfl
  exact ⟨clauses, query_eq, (found (by decide)).1⟩

end EntrySearch
