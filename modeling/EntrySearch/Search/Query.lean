import EntrySearch.Value.Basic

/-!
# Queries

The queries of a search engine as trees, and their form as values.
-/

namespace EntrySearch

/-- A query. -/
inductive Query where
  /-- Every clause holds. -/
  | all (clauses : List Query)
  /-- Some query holds, the best one counting. -/
  | any (queries : List Query)
  /-- A field matches a pattern with wildcards. -/
  | wildcard (field pattern : String)
  /-- A field holds a term up to misspellings. -/
  | fuzzy (field term : String)
  /-- A field holds a phrase. -/
  | phrase (field words : String)
  /-- A time in milliseconds lies between two bounds, which are included. -/
  | range (field : String) (least greatest : Int)
  /-- One element of a list of parts satisfies a query. -/
  | nested (path : String) (inner : Query) (scoring : String)

instance : Inhabited Query :=
  ⟨.all []⟩

namespace Query

/-- A query about one element of a list that does not count for the ranking. -/
def within (path : String) (inner : Query) : Query :=
  .nested path inner "none"

/-- A condition on one field. -/
def leaf (kind field : String) (condition : List (String × Value)) : Value :=
  .record [(kind, .record [(field, .record condition)])]

mutual

/-- A query as a value. -/
def toValue : Query → Value
  | .all clauses => .record [("bool", .record [("must", .list (toValues clauses))])]
  | .any queries => .record [("dis_max", .record [("queries", .list (toValues queries))])]
  | .wildcard field pattern => leaf "wildcard" field [("value", .text pattern)]
  | .fuzzy field term => leaf "fuzzy" field [("value", .text term)]
  | .phrase field words => leaf "match_phrase" field [("query", .text words)]
  | .range field least greatest =>
    leaf "range" field [("gte", .int least), ("lte", .int greatest)]
  | .nested path inner scoring =>
    .record
      [("nested",
        .record [("path", .text path), ("query", inner.toValue), ("score_mode", .text scoring)])]

/-- Queries as values. -/
def toValues : List Query → List Value
  | [] => []
  | query :: rest => query.toValue :: toValues rest

end

end Query

end EntrySearch
