import EntrySearch.Search.Criteria
import EntrySearch.Search.Query

/-!
# Search requests

Criteria are turned into one query that holds when every category asked for does, and into a
request for one page of entries, latest first.
-/

namespace EntrySearch

/-- The direction of an ordering, as the search engine calls it. -/
structure Direction where
  /-- Word for it. -/
  word : String
  deriving DecidableEq, Repr

/-- Greatest first. -/
def Direction.descending : Direction :=
  ⟨"desc"⟩

/-- An ordering of entries by a field. -/
structure Ordered where
  /-- Field. -/
  field : String
  /-- Direction. -/
  direction : Direction
  deriving DecidableEq, Repr

/-- An ordering as a value. -/
def Ordered.toValue (ordered : Ordered) : Value :=
  .record [(ordered.field, .record [("order", .text ordered.direction.word)])]

/-- A request for one page of entries. -/
structure Request where
  /-- Pattern for the indices that are searched. -/
  index : String
  /-- What an entry has to satisfy. -/
  query : Query
  /-- Orderings, the first one deciding first. -/
  sort : List Ordered
  /-- Number of entries before the page. -/
  offset : Int
  /-- Greatest number of entries of the page. -/
  size : Int
  /-- Seconds that the search may take. -/
  seconds : Int

/-- The body of a request as a value. -/
def Request.body (request : Request) : Value :=
  .record
    [("query", request.query.toValue),
      ("sort", .list (request.sort.map Ordered.toValue)),
      ("from", .int request.offset),
      ("size", .int request.size),
      ("timeout", .text s!"{request.seconds}s")]

/-- A time span between two moments. -/
structure Span where
  /-- Earlier moment. -/
  start : Time.Moment
  /-- Later moment. -/
  finish : Time.Moment
  deriving DecidableEq, Repr

/-- The start of a span is strictly before its end. -/
def Span.isOrdered (span : Span) : Bool :=
  span.start.before span.finish

/-- Where a search looks and how many entries it gives. -/
structure Policy where
  /-- Name that the indices start with. -/
  index : String := "olog_logs"
  /-- Number of entries when no limit is given. -/
  defaultSize : Int := 100
  /-- Greatest number of entries. -/
  maxSize : Int := 1000
  deriving DecidableEq, Repr

namespace Criteria

/-- The time span asked for; it starts with 1970 and ends now unless told otherwise. -/
def span (criteria : Criteria) (now : Time.Moment) : Span :=
  ⟨criteria.start.getD Time.Moment.epoch, criteria.finish.getD now⟩

/-- The field with the time of an entry. -/
def createdField : String :=
  "createdDate"

/-- The entry, or one of its events if these count, lies in a span. -/
def spanClause (includeEvents : Bool) (span : Span) : Query :=
  let created := Query.range createdField span.start.millis span.finish.millis
  if includeEvents then
    .any [created, .within "events" (.range "events.instant" span.start.millis span.finish.millis)]
  else created

/-- The clause about time, if a time is asked for; a span that is empty or runs backwards asks for
nothing. -/
def temporalClause (criteria : Criteria) (now : Time.Moment) :
    Recorded SearchFault (List Query) :=
  let span := criteria.span now
  if !criteria.isTemporal then return []
  else if span.isOrdered then return [spanClause criteria.includeEvents span]
  else do
    Traced.note .debug
      s!"Dropping temporal filter: start={span.start.text} is not before end={span.finish.text}"
    return []

/-- One clause made of queries for the terms of a category, none without terms. -/
def clause {α : Type} (wrap : Query → Query) (query : α → Query) (terms : List α) : List Query :=
  if terms.isEmpty then [] else [wrap (.any (terms.map query))]

/-- The query for a term in the mode of the search. -/
def termQuery (mode : MatchMode) (field term : String) : Query :=
  match mode with
  | .wildcard => .wildcard field term
  | .fuzzy => .fuzzy field term

/-- The clause about the names of one kind of labels. -/
def labelClause (path : String) (names : List String) : List Query :=
  clause (.within path) (.wildcard (path ++ ".name")) names

/-- The query for one property pattern: attribute and value are those of one and the same attribute
of the property. -/
def propertyQuery (pattern : PropertyPattern) : Query :=
  let name := pattern.name.toList.map (.wildcard "properties.name")
  let value := pattern.value.toList.map (.wildcard "properties.attributes.value")
  let attributes := pattern.attributeName.toList.map fun attributeName =>
    .within "properties.attributes"
      (.all (.wildcard "properties.attributes.name" attributeName :: value))
  .within "properties" (.all (name ++ attributes))

/-- The clauses that do not depend on time, in the order of the categories. -/
def timelessClauses (criteria : Criteria) : List Query :=
  clause id (termQuery criteria.mode "description") criteria.description ++
    clause id (termQuery criteria.mode "title") criteria.title ++
    clause id (termQuery criteria.mode "level") criteria.level ++
    clause id (.phrase "description") criteria.phrases ++
    clause id (.wildcard "owner") criteria.owners ++
    labelClause "tags" criteria.tags ++
    labelClause "logbooks" criteria.logbooks ++
    clause id propertyQuery criteria.properties

/-- The number of entries of the page. -/
def size (criteria : Criteria) (policy : Policy) : Int :=
  min (criteria.limit.elim policy.defaultSize fun limit => limit) policy.maxSize

/-- Seconds that a search may take. -/
def searchSeconds : Int :=
  60

/-- The request for criteria. -/
def request (criteria : Criteria) (policy : Policy) (now : Time.Moment) :
    Recorded SearchFault Request := do
  let clauses := (← criteria.temporalClause now) ++ criteria.timelessClauses
  let size := criteria.size policy
  Traced.note .debug s!"Compiled search: clauses={clauses.length} size={size}"
  return {
    index := policy.index ++ "*"
    query := .all clauses
    sort := [⟨createdField, .descending⟩]
    offset := 0
    size
    seconds := searchSeconds }

end Criteria

/-- Turn search parameters into a request. -/
def Policy.compile (policy : Policy) (zone : Time.Zone) (now : Time.Moment)
    (parameters : Parameters) : Recorded SearchFault Request := do
  let criteria ← Criteria.gather zone parameters
  criteria.request policy now

/-- Turn search parameters with values of any kind into a request. -/
def Policy.compileRaw (policy : Policy) (zone : Time.Zone) (now : Time.Moment)
    (raw : RawParameters) : Recorded SearchFault Request := do
  let parameters ← Traced.ofExcept ((Parameters.ofRaw raw).mapError .notIterable)
  policy.compile zone now parameters

end EntrySearch
