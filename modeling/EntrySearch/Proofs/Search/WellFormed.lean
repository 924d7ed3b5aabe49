import EntrySearch.Proofs.Search.Categories
import EntrySearch.Proofs.Search.CleanTerms
import EntrySearch.Proofs.Search.TimeClause

/-!
# Compiled queries are well formed

Whatever parameters are compiled, the query has at most one clause for each category, no part of it is
empty, parts are looked into only where they lie, and every text and every range in it is one that
something can match.
-/

namespace EntrySearch

namespace Query

/-- The queries that a query is made of. -/
def parts : Query → List Query
  | .all clauses => clauses
  | .any queries => queries
  | .nested _ inner _ => [inner]
  | .wildcard _ _ | .fuzzy _ _ | .phrase _ _ | .range _ _ _ => []

/-- A query stands inside of another one, below the queries `above`, the nearest one first. -/
inductive At (root : Query) : List Query → Query → Prop
  /-- The query itself. -/
  | root : root.At [] root
  /-- A part of a query that stands in it. -/
  | part {above : List Query} {parent node : Query} :
      root.At above parent → node ∈ parent.parts → root.At (parent :: above) node

/-- The nearest of the queries asks for the name of an attribute too. -/
def NamesAttribute (above : List Query) : Prop :=
  ∃ clauses name, above.head? = some (.all clauses) ∧
    .wildcard "properties.attributes.name" name ∈ clauses

/-- Some of the queries looks into properties. -/
def InProperty (above : List Query) : Prop :=
  ∃ inner scoring, .nested "properties" inner scoring ∈ above

/-- What has to hold of a query below the queries `above`, the nearest one first. -/
def Fits (above : List Query) : Query → Prop
  | .all clauses => above ≠ [] → clauses ≠ []
  | .any queries => queries ≠ []
  | .wildcard field pattern =>
    Term.IsClean pattern ∧ (field = "properties.attributes.value" → NamesAttribute above)
  | .fuzzy _ term => Term.IsClean term
  | .phrase _ words => Term.IsClean words
  | .range _ least greatest => least ≤ greatest
  | .nested path _ scoring =>
    scoring = "none" ∧ (path = "properties.attributes" → InProperty above)

/-- A condition holds of a query and of all that stands inside of it. -/
inductive Throughout (holds : List Query → Query → Prop) : List Query → Query → Prop
  /-- It holds here, and throughout the parts. -/
  | intro {above : List Query} {node : Query} :
      holds above node → (∀ part ∈ node.parts, Throughout holds (node :: above) part) →
        Throughout holds above node

variable {holds weaker : List Query → Query → Prop} {above : List Query} {root node : Query}

theorem Throughout.here (every : Throughout holds above node) : holds above node := by
  obtain ⟨here, -⟩ := every
  exact here

theorem Throughout.imp (implies : ∀ above node, holds above node → weaker above node)
    (every : Throughout holds above node) : Throughout weaker above node := by
  induction every with
  | intro here _ ih => exact .intro (implies _ _ here) ih

theorem Throughout.at (every : Throughout holds [] root) (place : root.At above node) :
    Throughout holds above node := by
  induction place with
  | root => exact every
  | part _ member ih =>
      obtain ⟨-, parts⟩ := ih
      exact parts _ member

end Query

namespace Category

open Query

/-- The fields that a category asks about. -/
def fields : Category → List String
  | .temporal => ["createdDate", "events.instant"]
  | .description | .phrase => ["description"]
  | .title => ["title"]
  | .level => ["level"]
  | .owner => ["owner"]
  | .tags => ["tags.name"]
  | .logbooks => ["logbooks.name"]
  | .properties =>
    ["properties.name", "properties.attributes.name", "properties.attributes.value"]

/-- The lists of parts that a category looks into. -/
def paths : Category → List String
  | .temporal => ["events"]
  | .tags => ["tags"]
  | .logbooks => ["logbooks"]
  | .properties => ["properties", "properties.attributes"]
  | .description | .title | .level | .phrase | .owner => []

/-- What the texts of a category are cut at, so that none of it is left in them. -/
def cuts : Category → Char → Bool
  | .description | .title | .level | .owner => Term.endsWord
  | .tags | .logbooks => Term.endsName
  | .properties => PropertyPattern.endsSegment
  | .temporal | .phrase => fun _ => false

/-- A text about a field that a category asks about, with nothing left that it is cut at. -/
def HasText (category : Category) (field text : String) : Prop :=
  field ∈ category.fields ∧ ∀ c ∈ text.toList, category.cuts c = false

/-- The queries that the clause of a category can be made of. -/
def Admits (category : Category) : Query → Prop
  | .all _ => category = .properties
  | .any _ => True
  | .wildcard field pattern =>
    category ≠ .temporal ∧ category ≠ .phrase ∧ category.HasText field pattern
  | .fuzzy field term =>
    category ∈ [.description, .title, .level] ∧ category.HasText field term
  | .phrase field words => category = .phrase ∧ category.HasText field words
  | .range field _ _ => category = .temporal ∧ field ∈ category.fields
  | .nested path _ _ => path ∈ category.paths

/-- A query that fits its place and belongs to a category. -/
def Suits (category : Category) (above : List Query) (node : Query) : Prop :=
  node.Fits above ∧ category.Admits node

variable {category : Category} {above : List Query} {leaves : List Query} {clause : Query}

theorem suits_nested {path : String} {inner : Query} (known : path ∈ category.paths)
    (placed : path = "properties.attributes" → InProperty above)
    (every : Throughout category.Suits (.nested path inner "none" :: above) inner) :
    Throughout category.Suits above (.nested path inner "none") := by
  refine .intro ⟨⟨rfl, placed⟩, known⟩ fun part member => ?_
  obtain rfl : part = inner := List.mem_singleton.mp member
  exact every

theorem suits_anyOf (posed : anyOf leaves = some clause)
    (each : ∀ leaf ∈ leaves, ∀ above, Throughout category.Suits above leaf) :
    Throughout category.Suits above clause := by
  cases leaves with
  | nil => cases posed
  | cons first others =>
      obtain rfl : .any (first :: others) = clause := Option.some.inj posed
      exact .intro ⟨by simp [Fits], trivial⟩ fun leaf member => each leaf member _

theorem suits_wildcard {field text : String} (clean : Term.IsClean text)
    (literal : category ≠ .temporal ∧ category ≠ .phrase) (has : category.HasText field text)
    (named : field = "properties.attributes.value" → NamesAttribute above) :
    Throughout category.Suits above (.wildcard field text) :=
  .intro ⟨⟨clean, named⟩, literal.1, literal.2, has⟩ fun _ member => absurd member List.not_mem_nil

theorem suits_wordLeaf (raw : Parameters) {field word : String} (clean : Term.IsClean word)
    (matched : category ∈ [.description, .title, .level]) (has : category.HasText field word)
    (other : field ≠ "properties.attributes.value") (above : List Query) :
    Throughout category.Suits above (wordLeaf raw field word) := by
  unfold wordLeaf
  split
  · exact .intro ⟨clean, matched, has⟩ fun _ member => absurd member List.not_mem_nil
  · refine suits_wildcard clean ?_ has fun same => absurd same other
    constructor
    · rintro rfl
      simp at matched
    · rintro rfl
      simp at matched

theorem suits_range {field : String} {least greatest : Int} (ordered : least ≤ greatest)
    (known : field ∈ fields .temporal) :
    Throughout temporal.Suits above (.range field least greatest) :=
  .intro ⟨ordered, rfl, known⟩ fun _ member => absurd member List.not_mem_nil

theorem suits_inWindow (withEvents : Bool) {start finish : Int}
    (ordered : start.fdiv 1000 ≤ finish.fdiv 1000) :
    Throughout temporal.Suits above (.inWindow withEvents start finish) := by
  unfold inWindow
  split
  · refine .intro ⟨by simp [Fits], trivial⟩ fun part member => ?_
    simp only [parts, List.mem_cons, List.not_mem_nil, or_false] at member
    rcases member with rfl | rfl
    · exact suits_range ordered (by decide)
    · exact suits_nested (by decide) (fun same => absurd same (by decide))
        (suits_range ordered (by decide))
  · exact suits_range ordered (by decide)

/-- The query for a property pattern that has a name or an attribute, if its segments are clean. -/
theorem suits_propertyQuery {pattern : PropertyPattern}
    (filled : pattern.name ≠ none ∨ pattern.attributeName ≠ none)
    (clean : ∀ segment ∈ pattern.segments, Term.IsClean segment ∧
      ∀ c ∈ segment.toList, PropertyPattern.endsSegment c = false) (above : List Query) :
    Throughout properties.Suits above (Criteria.propertyQuery pattern) := by
  have leaf {field segment : String} {above : List Query} (known : field ∈ fields .properties)
      (given : segment ∈ pattern.segments)
      (named : field = "properties.attributes.value" → NamesAttribute above) :
      Throughout properties.Suits above (.wildcard field segment) :=
    suits_wildcard (clean segment given).1 (by decide) ⟨known, (clean segment given).2⟩ named
  unfold Criteria.propertyQuery
  refine suits_nested (by decide) (fun same => absurd same (by decide)) ?_
  refine .intro ⟨fun _ => ?_, rfl⟩ fun level among => ?_
  · rcases filled with named | attributed
    · simp [named]
    · simp [attributed]
  simp only [parts, List.mem_append, List.mem_map, Option.mem_toList] at among
  rcases among with ⟨name, named, rfl⟩ | ⟨attributeName, attributed, rfl⟩
  · exact leaf (by decide) (by simp [PropertyPattern.segments, named])
      fun same => absurd same (by decide)
  · refine suits_nested (by decide)
      (fun _ => ⟨_, _, List.mem_cons_of_mem _ List.mem_cons_self⟩) ?_
    refine .intro ⟨fun _ => by simp, rfl⟩ fun level among => ?_
    simp only [parts, List.mem_cons, List.mem_map, Option.mem_toList] at among
    rcases among with rfl | ⟨value, given, rfl⟩
    · exact leaf (by decide) (by simp [PropertyPattern.segments, attributed])
        fun same => absurd same (by decide)
    · exact leaf (by decide) (by simp [PropertyPattern.segments, given])
        fun _ => ⟨_, _, rfl, List.mem_cons_self⟩

theorem suits_clause? {zone : Time.Zone} {now : Time.Moment} {raw : Parameters}
    (posed : category.clause? zone now raw = some clause) (above : List Query) :
    Throughout category.Suits above clause := by
  cases category with
  | temporal =>
      rw [clause?, Option.ite_none_right_eq_some] at posed
      obtain ⟨window, posed⟩ := posed
      obtain rfl := Option.some.inj posed
      exact suits_inWindow _ window.millis_le
  | description | title | level =>
      refine suits_anyOf posed fun leaf member => ?_
      obtain ⟨word, cut, rfl⟩ := List.mem_map.mp member
      obtain ⟨clean, apart⟩ := Term.of_mem_words cut
      exact suits_wordLeaf raw clean (by decide) ⟨by decide, apart⟩ (by decide)
  | phrase =>
      refine suits_anyOf posed fun leaf member above => ?_
      obtain ⟨words, cut, rfl⟩ := List.mem_map.mp member
      exact .intro ⟨Term.isClean_of_mem_ofPieces cut, rfl, by decide, fun _ _ => rfl⟩
        fun _ member => absurd member List.not_mem_nil
  | owner =>
      refine suits_anyOf posed fun leaf member above => ?_
      obtain ⟨word, cut, rfl⟩ := List.mem_map.mp member
      obtain ⟨clean, apart⟩ := Term.of_mem_words cut
      exact suits_wildcard clean (by decide) ⟨by decide, apart⟩ fun same => absurd same (by decide)
  | tags | logbooks =>
      obtain ⟨inner, asked, rfl⟩ := Option.map_eq_some_iff.mp posed
      refine suits_nested (by decide) (fun same => absurd same (by decide)) ?_
      refine suits_anyOf asked fun leaf member above => ?_
      obtain ⟨name, cut, rfl⟩ := List.mem_map.mp member
      obtain ⟨clean, apart⟩ := Term.of_mem_names cut
      exact suits_wildcard clean (by decide) ⟨by decide, apart⟩ fun same => absurd same (by decide)
  | properties =>
      refine suits_anyOf posed fun leaf member => ?_
      obtain ⟨pattern, read, rfl⟩ := List.mem_map.mp member
      obtain ⟨filled, clean⟩ := PropertyPattern.of_mem_filterMap_ofTerm? read
      exact suits_propertyQuery filled clean

end Category

/-- A query for entries: one clause for some of the categories, in their order, each made of what its
category admits, and every query in it fits its place. -/
structure Query.IsWellFormed (query : Query) : Prop where
  /-- The clauses and their categories. -/
  posed : ∃ posed : List (Category × Query),
    query = .all (posed.map Prod.snd) ∧ posed.length ≤ 10 ∧
      (posed.map Prod.fst).Sublist Category.all ∧
      ∀ entry ∈ posed, ∀ above node, entry.2.At above node → entry.1.Admits node
  /-- What stands in the query fits its place. -/
  fits : ∀ above node, query.At above node → node.Fits above

namespace Category

variable (zone : Time.Zone) (now : Time.Moment) (raw : Parameters)

/-- The clauses that are asked for, with their categories. -/
def posed : List (Category × Query) :=
  all.filterMap fun category => (category.clause? zone now raw).map (category, ·)

theorem mem_posed {entry : Category × Query} (member : entry ∈ posed zone now raw) :
    entry.1.clause? zone now raw = some entry.2 := by
  obtain ⟨category, -, asked⟩ := List.mem_filterMap.mp member
  obtain ⟨clause, found, rfl⟩ := Option.map_eq_some_iff.mp asked
  exact found

theorem map_snd_posed :
    (posed zone now raw).map Prod.snd = all.filterMap (clause? zone now raw) := by
  simp only [posed, List.map_filterMap, Option.map_map, Function.comp_def, Option.map_id']

theorem map_fst_posed :
    (posed zone now raw).map Prod.fst =
      all.filter fun category => (category.clause? zone now raw).isSome := by
  simp only [posed, List.map_filterMap, Option.map_map, Function.comp_def]
  rw [← List.filterMap_eq_filter]
  congr 1
  funext category
  cases found : category.clause? zone now raw <;> simp [Option.guard, found]

theorem isWellFormed_posed :
    Query.IsWellFormed (.all (all.filterMap (clause? zone now raw))) := by
  rw [← map_snd_posed]
  refine ⟨⟨posed zone now raw, rfl, ?_, ?_, fun entry member above node place => ?_⟩,
    fun above node place => ?_⟩
  · calc (posed zone now raw).length ≤ all.length := List.length_filterMap_le _ _
      _ ≤ 10 := by decide
  · rw [map_fst_posed]
    exact List.filter_sublist
  · exact ((suits_clause? (mem_posed zone now raw member) []).at place).here.2
  · have every : Query.Throughout (fun above node => node.Fits above) []
        (.all ((posed zone now raw).map Prod.snd)) := by
      refine .intro (fun top => absurd rfl top) fun clause member => ?_
      obtain ⟨entry, among, rfl⟩ := List.mem_map.mp member
      exact (suits_clause? (mem_posed zone now raw among) _).imp fun _ _ suits => suits.1
    exact (every.at place).here

end Category

/-- Every query that parameters are compiled to is well formed. -/
theorem Policy.isWellFormed_of_compileRaw (policy : Policy) (zone : Time.Zone) (now : Time.Moment)
    (raw : RawParameters) (request : Request)
    (compiled : (policy.compileRaw zone now raw).outcome = .ok request) :
    request.query.IsWellFormed := by
  rw [Policy.outcome_compileRaw] at compiled
  cases read : Parameters.ofRaw raw with
  | error fault =>
      rw [read] at compiled
      cases compiled
  | ok parameters =>
      rw [read] at compiled
      obtain ⟨-, rfl⟩ := Outcome.barring_eq_ok_iff.mp compiled
      rw [Criteria.assembled, Category.clauses_asked]
      exact Category.isWellFormed_posed zone now parameters

/-- Parameters with blank levels and phrases, separators without terms, and capitals that lower case
lengthens or reads by their neighbours. -/
def crowdedParameters : RawParameters :=
  [("Properties", .list [.text "\u0130.\u0391\u03A3.\u2003\u212A|..v, a. .v;;", .text ".."]),
    ("phrase", .list [.text "\u2003", .text " Beam | LOSS\u00A0"]),
    ("fuzzy", .list [.text ""]),
    ("title", .text "A|b;;C\u2028d"),
    ("tags", .text ",; ,"),
    ("start", .text "1970-01-01 00:00:00.000"),
    ("end", .text "1970-01-01 00:00:00.001"),
    ("includeEvents", .text "")]

set_option maxRecDepth 2000 in
theorem Policy.isWellFormed_crowdedParameters :
    let attributed : Query :=
      .all [.wildcard "properties.attributes.name" "\u03B1\u03C2",
        .wildcard "properties.attributes.value" "k"]
    let property : Query :=
      .all [.wildcard "properties.name" "i\u0307",
        .nested "properties.attributes" attributed "none"]
    let request : Request :=
      { index := "olog_logs*"
        query := .all
          [.inWindow true 0 1000,
            .any [.fuzzy "title" "a", .fuzzy "title" "b", .fuzzy "title" "c", .fuzzy "title" "d"],
            .any [.phrase "description" "beam | loss"],
            .any [.nested "properties" property "none",
              .nested "properties" (.all [.wildcard "properties.name" "a"]) "none"]]
        sort := [⟨"createdDate", .descending⟩]
        offset := 0
        size := 100
        seconds := 60 }
    (({} : Policy).compileRaw .utc Time.Moment.epoch crowdedParameters).outcome = .ok request ∧
      request.query.IsWellFormed :=
  ⟨rfl, Policy.isWellFormed_of_compileRaw {} .utc Time.Moment.epoch crowdedParameters _ rfl⟩

end EntrySearch
