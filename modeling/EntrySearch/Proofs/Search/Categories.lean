import EntrySearch.Proofs.Search.Window
import Mathlib.Data.List.Basic

/-!
# Categories

Every category of a search contributes one clause or none, and reads nothing but the entries under
its own keys. The clauses of a compiled request are those of the categories in their fixed order.
-/

namespace EntrySearch

/-- What a clause of a search is about. -/
inductive Category where
  /-- Time. -/
  | temporal
  /-- Words of the description. -/
  | description
  /-- Words of the title. -/
  | title
  /-- Words of the level. -/
  | level
  /-- Phrases of the description. -/
  | phrase
  /-- Owners. -/
  | owner
  /-- Tags. -/
  | tags
  /-- Logbooks. -/
  | logbooks
  /-- Properties. -/
  | properties
  deriving DecidableEq, Repr

namespace Category

/-- All categories in the order of their clauses. -/
def all : List Category :=
  [.temporal, .description, .title, .level, .phrase, .owner, .tags, .logbooks, .properties]

/-- The keys that a category reads, those of the flags for it included. -/
def keys : Category → List String
  | .temporal => ["start", "end", "includeevents", "includeevent"]
  | .description => ["description", "desc", "fuzzy"]
  | .title => ["title", "fuzzy"]
  | .level => ["level", "fuzzy"]
  | .phrase => ["phrase"]
  | .owner => ["owner"]
  | .tags => ["tags"]
  | .logbooks => ["logbooks"]
  | .properties => ["properties"]

/-- The entries under the keys of a category. -/
def entries (category : Category) (raw : Parameters) : Parameters :=
  raw.filter fun entry => Parameters.normalKey entry.1 ∈ category.keys

/-- One query that holds if one of the leaves does, none without leaves. -/
def anyOf (leaves : List Query) : Option Query :=
  if leaves.isEmpty then none else some (.any leaves)

/-- A query for a word of a field, which tolerates misspellings if told so. -/
def wordLeaf (raw : Parameters) (field word : String) : Query :=
  if "fuzzy" ∈ raw.givenKeys then .fuzzy field word else .wildcard field word

/-- The clause of a category, if entries ask for one. -/
def clause? (zone : Time.Zone) (now : Time.Moment) (raw : Parameters) : Category → Option Query
  | .temporal =>
    if raw.HasWindow zone now then
      some (.inWindow raw.WithEvents (raw.windowStart zone) (raw.windowEnd zone now))
    else none
  | .description =>
    let words := (raw.valuesOfEither "description" "desc").flatMap Term.words
    anyOf (words.map (wordLeaf raw "description"))
  | .title => anyOf (((raw.valuesOf "title").flatMap Term.words).map (wordLeaf raw "title"))
  | .level => anyOf (((raw.valuesOf "level").flatMap Term.words).map (wordLeaf raw "level"))
  | .phrase => anyOf ((Criteria.phrasesOf (raw.valuesOf "phrase")).map (.phrase "description"))
  | .owner => anyOf (((raw.valuesOf "owner").flatMap Term.words).map (.wildcard "owner"))
  | .tags =>
    let names := (raw.valuesOf "tags").flatMap Term.names
    (anyOf (names.map (.wildcard "tags.name"))).map (.nested "tags" · "none")
  | .logbooks =>
    let names := (raw.valuesOf "logbooks").flatMap Term.names
    (anyOf (names.map (.wildcard "logbooks.name"))).map (.nested "logbooks" · "none")
  | .properties =>
    let names := (raw.valuesOf "properties").flatMap Term.names
    anyOf ((names.filterMap PropertyPattern.ofTerm?).map Criteria.propertyQuery)

end Category

namespace Category

variable (category : Category) (zone : Time.Zone) (now : Time.Moment) (raw : Parameters)

theorem valuesOf_entries {key : String} (own : key ∈ category.keys) :
    Parameters.valuesOf key (category.entries raw) = raw.valuesOf key :=
  Parameters.valuesOf_filter (· ∈ category.keys) (decide_eq_true own) raw

theorem givenKeys_entries :
    (category.entries raw).givenKeys = raw.givenKeys.filter (· ∈ category.keys) :=
  Parameters.givenKeys_filter (· ∈ category.keys) raw

theorem mem_givenKeys_entries {key : String} (own : key ∈ category.keys) :
    key ∈ (category.entries raw).givenKeys ↔ key ∈ raw.givenKeys := by
  simp [givenKeys_entries, own]

theorem valuesOfEither_entries {key other : String} (own : key ∈ category.keys)
    (other_own : other ∈ category.keys) :
    Parameters.valuesOfEither key other (category.entries raw) = raw.valuesOfEither key other :=
  Parameters.valuesOfEither_filter (· ∈ category.keys) (decide_eq_true own)
    (decide_eq_true other_own) raw

theorem window_entries :
    Parameters.windowStart zone (temporal.entries raw) = raw.windowStart zone ∧
      Parameters.windowEnd zone now (temporal.entries raw) = raw.windowEnd zone now ∧
      (Parameters.HasWindow zone now (temporal.entries raw) ↔ raw.HasWindow zone now) ∧
      (Parameters.WithEvents (temporal.entries raw) ↔ raw.WithEvents) := by
  have start := valuesOf_entries temporal raw (show "start" ∈ keys .temporal by decide)
  have finish := valuesOf_entries temporal raw (show "end" ∈ keys .temporal by decide)
  refine ⟨?_, ?_, ?_, ?_⟩
  · simp only [Parameters.windowStart, Parameters.instants, start]
  · simp only [Parameters.windowEnd, Parameters.instants, finish]
  · simp only [Parameters.HasWindow, Parameters.windowStart, Parameters.windowEnd,
      Parameters.instants, start, finish]
  · rw [Parameters.WithEvents, mem_givenKeys_entries temporal raw (by decide),
      mem_givenKeys_entries temporal raw (by decide), Parameters.WithEvents]

theorem wordLeaf_entries (own : "fuzzy" ∈ category.keys) :
    wordLeaf (category.entries raw) = wordLeaf raw := by
  funext field word
  simp only [wordLeaf, mem_givenKeys_entries category raw own]

theorem clause?_entries :
    category.clause? zone now (category.entries raw) = category.clause? zone now raw := by
  cases category with
  | temporal =>
      obtain ⟨start, finish, window, events⟩ := window_entries zone now raw
      simp only [clause?, start, finish, window, events]
  | description =>
      simp only [clause?, wordLeaf_entries description raw (by decide),
        valuesOfEither_entries description raw
          (show "description" ∈ keys .description by decide)
          (show "desc" ∈ keys .description by decide)]
  | title =>
      simp only [clause?, wordLeaf_entries title raw (by decide),
        valuesOf_entries title raw (show "title" ∈ keys .title by decide)]
  | level =>
      simp only [clause?, wordLeaf_entries level raw (by decide),
        valuesOf_entries level raw (show "level" ∈ keys .level by decide)]
  | phrase =>
      simp only [clause?, valuesOf_entries phrase raw (show "phrase" ∈ keys .phrase by decide)]
  | owner =>
      simp only [clause?, valuesOf_entries owner raw (show "owner" ∈ keys .owner by decide)]
  | tags =>
      simp only [clause?, valuesOf_entries tags raw (show "tags" ∈ keys .tags by decide)]
  | logbooks =>
      simp only [clause?,
        valuesOf_entries logbooks raw (show "logbooks" ∈ keys .logbooks by decide)]
  | properties =>
      simp only [clause?,
        valuesOf_entries properties raw (show "properties" ∈ keys .properties by decide)]

theorem clause_eq_toList {α : Type} (wrap : Query → Query) (query : α → Query) (terms : List α) :
    Criteria.clause wrap query terms = ((anyOf (terms.map query)).map wrap).toList := by
  cases terms <;> rfl

/-- The clauses of the criteria that are asked for are those of the categories. -/
theorem clauses_asked :
    (Criteria.asked zone raw).clauses now = all.filterMap (clause? zone now raw) := by
  have leaf_eq : Criteria.termQuery (if "fuzzy" ∈ raw.givenKeys then .fuzzy else .wildcard) =
      wordLeaf raw := by
    funext field word
    unfold wordLeaf
    split <;> rfl
  have temporal_eq : (Criteria.asked zone raw).activeClause now =
      (clause? zone now raw .temporal).toList := by
    rw [Criteria.activeClause_asked, clause?]
    split <;> rfl
  rw [Criteria.clauses, temporal_eq, Criteria.timelessClauses, Criteria.asked_eq]
  simp only [Criteria.labelClause, clause_eq_toList, leaf_eq]
  rw [List.filterMap_eq_flatMap_toList]
  simp only [all, List.flatMap_cons, List.flatMap_nil, List.append_nil, List.append_assoc, clause?,
    Option.map_id_fun, id_eq]
  rfl

end Category

/-- The clauses of a compiled request are those of the categories in their fixed order, each read
off the entries under its own keys. -/
theorem Policy.query_eq_all_categories (policy : Policy) (zone : Time.Zone) (now : Present)
    (given : GivenParameters) (request : Request)
    (compiled : (policy.compileRaw zone (now.resolve zone) given.toRaw).outcome = .ok request) :
    request.query = .all (Category.all.filterMap fun category =>
      category.clause? zone (now.resolve zone) (category.entries given.texts)) := by
  obtain ⟨_, rfl⟩ := Policy.compileRaw_eq_ok_iff.mp compiled
  have local_eq : (fun category => Category.clause? zone (now.resolve zone)
        (category.entries given.texts) category) =
      Category.clause? zone (now.resolve zone) given.texts := by
    funext category
    exact category.clause?_entries zone (now.resolve zone) given.texts
  rw [local_eq, ← Category.clauses_asked]
  rfl

/-- Parameters whose keys differ before they are trimmed and in lower case, or mean the same. -/
def collidingKeys : GivenParameters :=
  [("Tags", .list ["A|b"]),
    ("desc", .list []),
    ("DESCRIPTION", .text "beam  Loss"),
    (" tags ", .text "c d"),
    (" Desc", .text "rf"),
    ("Fuzzy", .text "")]

theorem Policy.query_collidingKeys :
    let request : Request :=
      { index := "olog_logs*"
        query := .all
          [.any [.fuzzy "description" "beam", .fuzzy "description" "loss",
            .fuzzy "description" "rf"],
            .nested "tags" (.any [.wildcard "tags.name" "a", .wildcard "tags.name" "b",
              .wildcard "tags.name" "c d"]) "none"]
        sort := [⟨"createdDate", .descending⟩]
        offset := 0
        size := 100
        seconds := 60 }
    (({} : Policy).compileRaw .utc Time.Moment.epoch collidingKeys.toRaw).outcome = .ok request ∧
      request.query = .all (Category.all.filterMap fun category =>
        category.clause? .utc Time.Moment.epoch (category.entries collidingKeys.texts)) :=
  ⟨rfl, Policy.query_eq_all_categories {} .utc (.moment Time.Moment.epoch) collidingKeys _ rfl⟩

end EntrySearch
