import EntrySearch.Proofs.Search.Compilation

/-!
# What queries mean

A query holds of a document or not, whatever the conditions on single fields mean. The query that
criteria are turned into holds of exactly the documents that meet the criteria.
-/

namespace EntrySearch

/-- How documents are read: which parts their lists hold, and which conditions on single fields
they satisfy. A part of a document is read like a document. -/
structure Reading (δ : Type) where
  /-- The elements of the list at a path. -/
  elements : String → δ → List δ
  /-- A field matches a pattern with wildcards. -/
  wildcard : String → String → δ → Prop
  /-- A field holds a term up to misspellings. -/
  fuzzy : String → String → δ → Prop
  /-- A field holds a phrase. -/
  phrase : String → String → δ → Prop
  /-- A time lies between two bounds. -/
  range : String → Int → Int → δ → Prop

variable {δ : Type}

namespace Query

mutual

/-- A query holds of a document. -/
def Holds (reading : Reading δ) : Query → δ → Prop
  | .all clauses, document => AllHold reading clauses document
  | .any queries, document => SomeHolds reading queries document
  | .wildcard field pattern, document => reading.wildcard field pattern document
  | .fuzzy field term, document => reading.fuzzy field term document
  | .phrase field words, document => reading.phrase field words document
  | .range field least greatest, document => reading.range field least greatest document
  | .nested path inner _, document =>
    ∃ element ∈ reading.elements path document, inner.Holds reading element

/-- Every query of a list holds. -/
def AllHold (reading : Reading δ) : List Query → δ → Prop
  | [], _ => True
  | query :: rest, document => query.Holds reading document ∧ AllHold reading rest document

/-- Some query of a list holds. -/
def SomeHolds (reading : Reading δ) : List Query → δ → Prop
  | [], _ => False
  | query :: rest, document => query.Holds reading document ∨ SomeHolds reading rest document

end

variable (reading : Reading δ) (document : δ)

@[simp]
theorem holds_wildcard_iff (field pattern : String) :
    (wildcard field pattern).Holds reading document ↔ reading.wildcard field pattern document := by
  rw [Holds]

@[simp]
theorem holds_fuzzy_iff (field term : String) :
    (fuzzy field term).Holds reading document ↔ reading.fuzzy field term document := by
  rw [Holds]

@[simp]
theorem holds_phrase_iff (field words : String) :
    (phrase field words).Holds reading document ↔ reading.phrase field words document := by
  rw [Holds]

@[simp]
theorem holds_range_iff (field : String) (least greatest : Int) :
    (range field least greatest).Holds reading document ↔
      reading.range field least greatest document := by
  rw [Holds]

@[simp]
theorem holds_all_iff (clauses : List Query) :
    (all clauses).Holds reading document ↔
      ∀ clause ∈ clauses, clause.Holds reading document := by
  rw [Holds]
  induction clauses with
  | nil => simp [AllHold]
  | cons clause rest ih => simp [AllHold, ih]

@[simp]
theorem holds_any_iff (queries : List Query) :
    (any queries).Holds reading document ↔ ∃ query ∈ queries, query.Holds reading document := by
  rw [Holds]
  induction queries with
  | nil => simp [SomeHolds]
  | cons query rest ih => simp [SomeHolds, ih]

@[simp]
theorem holds_within_iff (path : String) (inner : Query) :
    (within path inner).Holds reading document ↔
      ∃ element ∈ reading.elements path document, inner.Holds reading element := by
  rw [within, Holds]

end Query

/-- A field matches a term in the mode of a search. -/
def Reading.matches (reading : Reading δ) (mode : MatchMode) (field term : String)
    (document : δ) : Prop :=
  match mode with
  | .wildcard => reading.wildcard field term document
  | .fuzzy => reading.fuzzy field term document

/-- A part of a document carries a name that matches one of the patterns, if there are any. -/
def Reading.HasLabel (reading : Reading δ) (path : String) (patterns : List String)
    (document : δ) : Prop :=
  patterns ≠ [] → ∃ pattern ∈ patterns, ∃ label ∈ reading.elements path document,
    reading.wildcard (path ++ ".name") pattern label

/-- A property has the name of a pattern, and one of its attributes has both the name and the value
of the pattern, as far as the pattern gives them. -/
def Reading.HasProperty (reading : Reading δ) (pattern : PropertyPattern) (property : δ) : Prop :=
  (∀ name ∈ pattern.name, reading.wildcard "properties.name" name property) ∧
    ∀ attributeName ∈ pattern.attributeName,
      ∃ part ∈ reading.elements "properties.attributes" property,
        reading.wildcard "properties.attributes.name" attributeName part ∧
          ∀ value ∈ pattern.value, reading.wildcard "properties.attributes.value" value part

/-- A document meets the criteria of a search that is made at a moment. -/
structure Criteria.MetBy (criteria : Criteria) (now : Time.Moment) (reading : Reading δ)
    (document : δ) : Prop where
  /-- If a time is asked for and the span is not empty, the document or, where events count too,
  one of its events lies in the span. -/
  time :
    let start := criteria.start.getD Time.Moment.epoch
    let finish := criteria.finish.getD now
    (criteria.start ≠ none ∨ criteria.finish ≠ none) → start.micros < finish.micros →
      reading.range "createdDate" start.millis finish.millis document ∨
        criteria.includeEvents = true ∧ ∃ event ∈ reading.elements "events" document,
          reading.range "events.instant" start.millis finish.millis event
  /-- Some term matches the description. -/
  description : criteria.description ≠ [] →
    ∃ term ∈ criteria.description, reading.matches criteria.mode "description" term document
  /-- Some term matches the title. -/
  title : criteria.title ≠ [] →
    ∃ term ∈ criteria.title, reading.matches criteria.mode "title" term document
  /-- Some term matches the level. -/
  level : criteria.level ≠ [] →
    ∃ term ∈ criteria.level, reading.matches criteria.mode "level" term document
  /-- The description holds some phrase. -/
  phrase : criteria.phrases ≠ [] →
    ∃ phrase ∈ criteria.phrases, reading.phrase "description" phrase document
  /-- Some pattern matches the owner. -/
  owner : criteria.owners ≠ [] →
    ∃ owner ∈ criteria.owners, reading.wildcard "owner" owner document
  /-- Some pattern matches the name of a tag. -/
  tag : reading.HasLabel "tags" criteria.tags document
  /-- Some pattern matches the name of a logbook. -/
  logbook : reading.HasLabel "logbooks" criteria.logbooks document
  /-- Some pattern matches a property. -/
  property : criteria.properties ≠ [] →
    ∃ pattern ∈ criteria.properties, ∃ property ∈ reading.elements "properties" document,
      reading.HasProperty pattern property

namespace Criteria

variable (reading : Reading δ) (document : δ)

theorem forall_mem_clause_iff {α : Type} (wrap : Query → Query) (query : α → Query)
    (terms : List α) :
    (∀ part ∈ clause wrap query terms, part.Holds reading document) ↔
      (terms ≠ [] → (wrap (.any (terms.map query))).Holds reading document) := by
  unfold clause
  cases terms <;> simp

theorem holds_any_map_iff {α : Type} (query : α → Query) (terms : List α) :
    (Query.any (terms.map query)).Holds reading document ↔
      ∃ term ∈ terms, (query term).Holds reading document := by
  simp

theorem holds_termQuery_iff (mode : MatchMode) (field term : String) :
    (termQuery mode field term).Holds reading document ↔
      reading.matches mode field term document := by
  cases mode <;> simp [termQuery, Reading.matches]

theorem forall_mem_labelClause_iff (path : String) (names : List String) :
    (∀ part ∈ labelClause path names, part.Holds reading document) ↔
      reading.HasLabel path names document := by
  rw [labelClause, forall_mem_clause_iff, Query.holds_within_iff, Reading.HasLabel]
  refine imp_congr_right fun _ => ?_
  constructor
  · rintro ⟨label, at_path, holds⟩
    obtain ⟨pattern, member, holds⟩ := (holds_any_map_iff reading label _ names).mp holds
    exact ⟨pattern, member, label, at_path, by simpa using holds⟩
  · rintro ⟨pattern, member, label, at_path, holds⟩
    refine ⟨label, at_path, (holds_any_map_iff reading label _ names).mpr ⟨pattern, member, ?_⟩⟩
    simpa using holds

theorem holds_propertyQuery_iff (pattern : PropertyPattern) :
    (propertyQuery pattern).Holds reading document ↔
      ∃ property ∈ reading.elements "properties" document,
        reading.HasProperty pattern property := by
  rw [propertyQuery, Query.holds_within_iff]
  refine exists_congr fun property => and_congr_right fun _ => ?_
  rw [Query.holds_all_iff, List.forall_mem_append, Reading.HasProperty]
  refine and_congr ?_ ?_
  · simp
  · simp

/-- The clause about time asks for a time in the span, if a time is asked for and the span is not
empty. -/
theorem forall_mem_activeClause_iff (criteria : Criteria) (now : Time.Moment) :
    (∀ part ∈ criteria.activeClause now, part.Holds reading document) ↔
      let start := criteria.start.getD Time.Moment.epoch
      let finish := criteria.finish.getD now
      (criteria.start ≠ none ∨ criteria.finish ≠ none) → start.micros < finish.micros →
        reading.range "createdDate" start.millis finish.millis document ∨
          criteria.includeEvents = true ∧ ∃ event ∈ reading.elements "events" document,
            reading.range "events.instant" start.millis finish.millis event := by
  have active : criteria.isTemporal ∧ (criteria.span now).isOrdered ↔
      (criteria.start ≠ none ∨ criteria.finish ≠ none) ∧
        (criteria.start.getD Time.Moment.epoch).micros < (criteria.finish.getD now).micros := by
    rw [isTemporal, Bool.or_eq_true, Option.isSome_iff_ne_none, Option.isSome_iff_ne_none,
      Span.isOrdered, Time.Moment.before, decide_eq_true_iff, span]
  rw [activeClause, if_congr active rfl rfl]
  split
  · rename_i holds
    obtain ⟨temporal, ordered⟩ := holds
    cases criteria.includeEvents with
    | false => simp [spanClause, span, createdField, temporal, ordered]
    | true => simp [spanClause, span, createdField, temporal, ordered]
  · rename_i fails
    simp only [List.not_mem_nil, false_imp_iff, implies_true, true_iff]
    exact fun temporal ordered => absurd ⟨temporal, ordered⟩ fails

/-- The clauses for criteria hold of exactly the documents that meet the criteria. -/
theorem holds_clauses_iff (criteria : Criteria) (now : Time.Moment) :
    (Query.all (criteria.clauses now)).Holds reading document ↔
      criteria.MetBy now reading document := by
  rw [Query.holds_all_iff]
  simp only [clauses, timelessClauses, List.forall_mem_append, forall_mem_activeClause_iff,
    forall_mem_labelClause_iff, forall_mem_clause_iff, id_eq, holds_any_map_iff,
    holds_termQuery_iff, holds_propertyQuery_iff, Query.holds_phrase_iff, Query.holds_wildcard_iff]
  constructor
  · rintro ⟨time, ⟨⟨⟨⟨⟨⟨⟨description, title⟩, level⟩, phrase⟩, owner⟩, tag⟩, logbook⟩, property⟩⟩
    exact ⟨time, description, title, level, phrase, owner, tag, logbook, property⟩
  · rintro ⟨time, description, title, level, phrase, owner, tag, logbook, property⟩
    exact ⟨time, ⟨⟨⟨⟨⟨⟨⟨description, title⟩, level⟩, phrase⟩, owner⟩, tag⟩, logbook⟩, property⟩⟩

end Criteria

/-- The query of a compiled request holds of exactly the documents that meet the criteria gathered
from the parameters, however the conditions on single fields are read. -/
theorem Policy.holds_query_iff_metBy (policy : Policy) (zone : Time.Zone) (now : Present)
    (given : GivenParameters) (request : Request)
    (compiled : (policy.compileRaw zone (now.resolve zone) given.toRaw).outcome = .ok request) :
    ∃ criteria, (Criteria.gather zone given.texts).outcome = .ok criteria ∧
      ∀ {δ : Type} (reading : Reading δ) (document : δ),
        request.query.Holds reading document ↔
          criteria.MetBy (now.resolve zone) reading document := by
  obtain ⟨accepted, rfl⟩ := Policy.compileRaw_eq_ok_iff.mp compiled
  refine ⟨Criteria.asked zone given.texts, ?_, ?_⟩
  · rw [Criteria.outcome_gather, accepted, Outcome.barring_none]
  · intro δ reading document
    exact Criteria.holds_clauses_iff reading document _ _

/-- Parameters that ask for an attribute of any property with a value, and for events of a year. -/
def attributeParameters : GivenParameters :=
  [("properties", .text ".Voltage.3 kV, Magnet"),
    ("start", .text "2024-01-01 00:00:00.000"),
    ("end", .text "2025-01-01 00:00:00.000"),
    ("includeEvent", .text "")]

theorem Policy.holds_attributeParameters_iff_metBy :
    let property := fun inner => Query.nested "properties" (.all [inner]) "none"
    let request : Request :=
      { index := "olog_logs*"
        query := .all
          [.any [.range "createdDate" 1704067200000 1735689600000,
            .nested "events" (.range "events.instant" 1704067200000 1735689600000) "none"],
            .any
              [property (.nested "properties.attributes"
                (.all [.wildcard "properties.attributes.name" "voltage",
                  .wildcard "properties.attributes.value" "3 kv"]) "none"),
                property (.wildcard "properties.name" "magnet")]]
        sort := [⟨"createdDate", .descending⟩]
        offset := 0
        size := 100
        seconds := 60 }
    (({} : Policy).compileRaw .utc Time.Moment.epoch attributeParameters.toRaw).outcome =
        .ok request ∧
      ∃ criteria, (Criteria.gather .utc attributeParameters.texts).outcome = .ok criteria ∧
        ∀ {δ : Type} (reading : Reading δ) (document : δ),
          request.query.Holds reading document ↔
            criteria.MetBy Time.Moment.epoch reading document :=
  ⟨rfl, Policy.holds_query_iff_metBy {} .utc (.moment Time.Moment.epoch) attributeParameters _ rfl⟩

end EntrySearch
