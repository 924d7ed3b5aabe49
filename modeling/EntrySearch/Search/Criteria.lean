import EntrySearch.Journal.Traced
import EntrySearch.Search.Fault
import EntrySearch.Search.Parameters
import EntrySearch.Search.PropertyPattern
import EntrySearch.Search.Term

/-!
# Search criteria

What a search asks for, gathered parameter by parameter. Parameters that are not known are passed
over, and so is a limit that is no number of entries.
-/

namespace EntrySearch

/-- How the terms of description, title and level are matched. -/
inductive MatchMode where
  /-- As patterns with wildcards. -/
  | wildcard
  /-- With tolerance for misspellings. -/
  | fuzzy
  deriving DecidableEq, Repr

/-- What a search asks for. -/
structure Criteria where
  /-- Terms for the description. -/
  description : List String := []
  /-- Terms for the title. -/
  title : List String := []
  /-- Terms for the level. -/
  level : List String := []
  /-- How those terms are matched. -/
  mode : MatchMode := .wildcard
  /-- Phrases for the description. -/
  phrases : List String := []
  /-- Patterns for the owner. -/
  owners : List String := []
  /-- Patterns for tags. -/
  tags : List String := []
  /-- Patterns for logbooks. -/
  logbooks : List String := []
  /-- Patterns for properties. -/
  properties : List PropertyPattern := []
  /-- Earliest time asked for. -/
  start : Option Time.Moment := none
  /-- Latest time asked for. -/
  finish : Option Time.Moment := none
  /-- Whether the times of events count too. -/
  includeEvents : Bool := false
  /-- Number of entries asked for. -/
  limit : Option Nat := none
  deriving DecidableEq, Repr

/-- A time was asked for. -/
def Criteria.isTemporal (criteria : Criteria) : Bool :=
  criteria.start.isSome || criteria.finish.isSome

/-- A parameter that a search understands. -/
inductive Parameter where
  /-- Words of the description. -/
  | description
  /-- Words of the title. -/
  | title
  /-- Words of the level. -/
  | level
  /-- Tolerate misspellings. -/
  | fuzzy
  /-- A phrase of the description. -/
  | phrase
  /-- Names of owners. -/
  | owner
  /-- Names of tags. -/
  | tags
  /-- Names of logbooks. -/
  | logbooks
  /-- Patterns for properties. -/
  | properties
  /-- Start of the time span. -/
  | start
  /-- End of the time span. -/
  | finish
  /-- Take the times of events too. -/
  | includeEvents
  /-- Number of entries. -/
  | limit
  deriving DecidableEq, Repr

namespace Parameter

/-- The keys of all parameters; two parameters have two keys. -/
def keys : List (String × Parameter) :=
  [("description", .description),
    ("desc", .description),
    ("title", .title),
    ("level", .level),
    ("fuzzy", .fuzzy),
    ("phrase", .phrase),
    ("owner", .owner),
    ("tags", .tags),
    ("logbooks", .logbooks),
    ("properties", .properties),
    ("start", .start),
    ("end", .finish),
    ("includeevents", .includeEvents),
    ("includeevent", .includeEvents),
    ("limit", .limit)]

/-- The parameter with a key. -/
def ofKey? (key : String) : Option Parameter :=
  Entries.get? key keys

/-- The keys that a search understands. -/
def supported : List String :=
  keys.map Prod.fst

end Parameter

/-- The one of two moments that lies further out; the first when they are the same instant. -/
def Bound.outer (bound : Bound) (first second : Time.Moment) : Time.Moment :=
  match bound with
  | .earliest => if second.before first then second else first
  | .latest => if first.before second then second else first

/-- The outermost of moments. -/
def Bound.outermost? (bound : Bound) : List Time.Moment → Option Time.Moment
  | [] => none
  | moment :: others => some (others.foldl bound.outer moment)

namespace Criteria

/-- Phrases are trimmed and in lower case, and empty ones are dropped. -/
def phrasesOf (values : List String) : List String :=
  Term.ofPieces (values.map String.toList)

/-- Patterns for properties among the names in texts. -/
def patternsOf (values : List String) : List PropertyPattern :=
  (values.flatMap Term.names).filterMap PropertyPattern.ofTerm?

/-- The moment of a bound: the outermost of those read and the one known so far. -/
def timeOf (zone : Time.Zone) (bound : Bound) (key : String) (known : Option Time.Moment)
    (values : List String) : Except SearchFault Time.Moment := do
  let moments ← (values.mapM (Timestamp.moment zone key)).mapError .malformed
  match bound.outermost? (moments ++ known.toList) with
  | some moment => return moment
  | none => throw (.noTime bound)

/-- The greatest number of entries that can be asked for. -/
def greatestLimit : Int :=
  2147483647

/-- The limit that a text asks for; what is no number of entries is passed over. -/
def limitOf (value : String) : Recorded SearchFault (Option Nat) := do
  if !Decimal.isSignedDigits value.toList then
    Traced.note .warning s!"Encountered unparsable 'limit' value: {Text.quoted value}"
    return none
  let n ← Traced.ofExcept ((Decimal.readInteger value.toList).mapError .digits)
  if n < 0 ∨ greatestLimit < n then
    Traced.note .warning s!"Encountered out-of-range 'limit' value: {value}"
    return none
  return some n.toNat

/-- Take up the texts of a parameter. -/
def absorb (zone : Time.Zone) (criteria : Criteria) (parameter : Parameter)
    (values : List String) : Recorded SearchFault Criteria :=
  match parameter with
  | .description =>
    return { criteria with description := criteria.description ++ values.flatMap Term.words }
  | .title => return { criteria with title := criteria.title ++ values.flatMap Term.words }
  | .level => return { criteria with level := criteria.level ++ values.flatMap Term.words }
  | .fuzzy => return { criteria with mode := .fuzzy }
  | .phrase => return { criteria with phrases := criteria.phrases ++ phrasesOf values }
  | .owner => return { criteria with owners := criteria.owners ++ values.flatMap Term.words }
  | .tags => return { criteria with tags := criteria.tags ++ values.flatMap Term.names }
  | .logbooks => return { criteria with logbooks := criteria.logbooks ++ values.flatMap Term.names }
  | .properties => return { criteria with properties := criteria.properties ++ patternsOf values }
  | .start => do
    let moment ← Traced.ofExcept (timeOf zone .earliest "start" criteria.start values)
    return { criteria with start := some moment }
  | .finish => do
    let moment ← Traced.ofExcept (timeOf zone .latest "end" criteria.finish values)
    return { criteria with finish := some moment }
  | .includeEvents => return { criteria with includeEvents := true }
  | .limit =>
    match values with
    | [] => .fail .noLimit
    | value :: _ => do
      match ← limitOf value with
      | some limit => return { criteria with limit := some limit }
      | none => return criteria

/-- Take up a parameter by its key; one that is not known is passed over. -/
def absorbKey (zone : Time.Zone) (criteria : Criteria) (key : String) (values : List String) :
    Recorded SearchFault Criteria :=
  match Parameter.ofKey? key with
  | some parameter => criteria.absorb zone parameter values
  | none => do
    Traced.note .debug s!"Ignoring unsupported search parameter: {key}"
    return criteria

/-- Take up normal parameters one after another. -/
def absorbAll (zone : Time.Zone) (criteria : Criteria) : Parameters → Recorded SearchFault Criteria
  | [] => return criteria
  | (key, values) :: rest => do
    let criteria ← criteria.absorbKey zone key values
    absorbAll zone criteria rest

/-- Gather the criteria of a search. -/
def gather (zone : Time.Zone) (parameters : Parameters) : Recorded SearchFault Criteria :=
  absorbAll zone {} parameters.normalize

end Criteria

end EntrySearch
