import EntrySearch.Proofs.Search.JoinedTexts
import EntrySearch.Proofs.Search.Reordering
import EntrySearch.Proofs.Search.TimeClause

/-!
# Flags

Two parameters are flags, whatever their texts say. One of them lets the words of three categories
be misspelt, the other one lets the times of events count too. Wherever a flag stands among the
parameters, it rewrites the clauses that it is about and leaves the rest of the request as it is.
-/

namespace EntrySearch

open Outcome

namespace Query

/-- The fields whose words may be misspelt. -/
def wordFields : List String :=
  ["description", "title", "level"]

mutual

/-- A query in which the words of those fields may be misspelt. -/
def tolerant : Query → Query
  | .all clauses => .all (tolerantAll clauses)
  | .any queries => .any (tolerantAll queries)
  | .wildcard field pattern =>
    if field ∈ wordFields then .fuzzy field pattern else .wildcard field pattern
  | .fuzzy field term => .fuzzy field term
  | .phrase field words => .phrase field words
  | .range field least greatest => .range field least greatest
  | .nested path inner scoring => .nested path inner.tolerant scoring

/-- Queries in which the words of those fields may be misspelt. -/
def tolerantAll : List Query → List Query
  | [] => []
  | query :: rest => query.tolerant :: tolerantAll rest

end

theorem tolerantAll_eq_map (queries : List Query) : tolerantAll queries = queries.map tolerant := by
  induction queries with
  | nil => rfl
  | cons query rest ih => rw [tolerantAll, ih, List.map_cons]

@[simp]
theorem tolerant_all (clauses : List Query) :
    (all clauses).tolerant = .all (clauses.map tolerant) := by
  rw [tolerant, tolerantAll_eq_map]

@[simp]
theorem tolerant_any (queries : List Query) :
    (any queries).tolerant = .any (queries.map tolerant) := by
  rw [tolerant, tolerantAll_eq_map]

@[simp]
theorem tolerant_within (path : String) (inner : Query) :
    (within path inner).tolerant = .within path inner.tolerant := by
  rw [within, tolerant, within]

@[simp]
theorem tolerant_phrase (field words : String) :
    (phrase field words).tolerant = .phrase field words := by
  rw [tolerant]

@[simp]
theorem tolerant_range (field : String) (least greatest : Int) :
    (range field least greatest).tolerant = .range field least greatest := by
  rw [tolerant]

theorem tolerant_word {field : String} (worded : field ∈ wordFields) (pattern : String) :
    (wildcard field pattern).tolerant = .fuzzy field pattern := by
  rw [tolerant, if_pos worded]

theorem tolerant_name {field : String} (unworded : field ∉ wordFields) (pattern : String) :
    (wildcard field pattern).tolerant = .wildcard field pattern := by
  rw [tolerant, if_neg unworded]

/-- Clauses before and after the times of events count too: the clause about time, if there is one,
holds from then on for an entry or for one of its events. -/
inductive GainsEvents : List Query → List Query → Prop where
  /-- No clause is about time. -/
  | timeless {clauses : List Query} (timeless : ∀ clause ∈ clauses, ¬clause.MentionsTime) :
      GainsEvents clauses clauses
  /-- The first clause is about the time of an entry, and no other one is about time. -/
  | window {least greatest : Int} {rest : List Query}
      (timeless : ∀ clause ∈ rest, ¬clause.MentionsTime) :
      GainsEvents (.range "createdDate" least greatest :: rest)
        (.any [.range "createdDate" least greatest,
          .nested "events" (.range "events.instant" least greatest) "none"] :: rest)

theorem GainsEvents.eq_of_window {least greatest : Int} {rest gained : List Query}
    (gains : GainsEvents (.range "createdDate" least greatest :: rest) gained) :
    gained = .any [.range "createdDate" least greatest,
      .nested "events" (.range "events.instant" least greatest) "none"] :: rest := by
  cases gains with
  | timeless timeless =>
      exact absurd ⟨"createdDate", by simp, by decide⟩ (timeless _ List.mem_cons_self)
  | window _ => rfl

end Query

namespace Parameters

/-- The keys under which the times of events are asked for. -/
def eventKeys : List String :=
  ["includeevents", "includeevent"]

/-- The keys whose texts do not count. -/
def flagKeys : List String :=
  "fuzzy" :: eventKeys

section Middle

variable {before after : Parameters} {key : String} {texts : List String}

/-- An entry with a text gives its key besides those of the others. -/
theorem mem_givenKeys_middle (filled : texts ≠ []) (asked : String) :
    asked ∈ givenKeys (before ++ (key, texts) :: after) ↔
      asked = normalKey key ∨ asked ∈ givenKeys (before ++ after) := by
  have keys_eq : givenKeys (before ++ (key, texts) :: after) =
      givenKeys before ++ normalKey key :: givenKeys after := by
    simp [givenKeys, filled]
  have rest_eq : givenKeys (before ++ after) = givenKeys before ++ givenKeys after := by
    simp [givenKeys]
  rw [keys_eq, rest_eq, List.mem_append, List.mem_cons, List.mem_append, or_left_comm]

theorem valuesOf_middle_of_ne {asked : String} (other : normalKey key ≠ asked) :
    valuesOf asked (before ++ (key, texts) :: after) = valuesOf asked (before ++ after) := by
  rw [valuesOf_middle, if_neg other, List.nil_append, valuesOf_append]

theorem valuesOfEither_middle_of_ne {first second : String} (other_first : normalKey key ≠ first)
    (other_second : normalKey key ≠ second) :
    valuesOfEither first second (before ++ (key, texts) :: after) =
      valuesOfEither first second (before ++ after) := by
  have found : (givenKeys (before ++ (key, texts) :: after)).find?
        (fun k => k = first ∨ k = second) =
      (givenKeys (before ++ after)).find? fun k => k = first ∨ k = second := by
    unfold givenKeys
    cases texts <;> simp [other_first, other_second]
  rw [valuesOfEither, valuesOfEither, found, valuesOf_middle_of_ne other_first,
    valuesOf_middle_of_ne other_second]

end Middle

theorem exists_of_ofRaw_append {before after : RawParameters} {raw : Parameters}
    (read : ofRaw (before ++ after) = .ok raw) :
    ∃ front back, ofRaw before = .ok front ∧ ofRaw after = .ok back ∧ raw = front ++ back := by
  rw [ofRaw, List.mapM_append] at read
  obtain ⟨front, read_before, read⟩ := bind_eq_ok_iff.mp read
  obtain ⟨back, read_after, read⟩ := bind_eq_ok_iff.mp read
  exact ⟨front, back, read_before, read_after, (Except.ok.inj read).symm⟩

end Parameters

namespace Criteria

open Query

section Middle

variable {before after : Parameters} {key : String} {texts : List String}

theorem refused?_middle_of_flag (filled : texts ≠ [])
    (flag : Parameters.normalKey key ∈ Parameters.flagKeys)
    (accepted : refused? (before ++ after) = none) :
    refused? (before ++ (key, texts) :: after) = none := by
  have harmless : ∀ asked ∈ Parameters.flagKeys,
      asked ∉ Parameters.boundKeys ∧ asked ≠ "limit" := by
    decide
  obtain ⟨unbound, other⟩ := harmless _ flag
  rw [refused?_eq, List.findSome?_eq_none_iff] at accepted ⊢
  intro asked given
  by_cases same : Parameters.normalKey key = asked
  · subst same
    exact refusalAt?_other unbound other _
  · rw [Parameters.firstKeys, List.mem_eraseDups, Parameters.mem_givenKeys_middle filled] at given
    rw [Parameters.valuesOf_middle_of_ne same]
    refine accepted asked ?_
    rw [Parameters.firstKeys, List.mem_eraseDups]
    exact given.resolve_left (Ne.symm same)

variable (zone : Time.Zone)

theorem asked_middle_of_flag (flag : Parameters.normalKey key ∈ Parameters.flagKeys) :
    let raw := before ++ (key, texts) :: after
    asked zone raw =
      { asked zone (before ++ after) with
        mode := if "fuzzy" ∈ raw.givenKeys then .fuzzy else .wildcard
        includeEvents := "includeevents" ∈ raw.givenKeys ∨ "includeevent" ∈ raw.givenKeys } := by
  intro raw
  have apart {asked : String} (unflagged : asked ∉ Parameters.flagKeys) :
      Parameters.normalKey key ≠ asked := fun same => unflagged (same ▸ flag)
  have words : raw.valuesOfEither "description" "desc" =
      (before ++ after).valuesOfEither "description" "desc" :=
    Parameters.valuesOfEither_middle_of_ne (apart (by decide)) (apart (by decide))
  have values (asked : String) (unflagged : asked ∉ Parameters.flagKeys) :
      raw.valuesOf asked = (before ++ after).valuesOf asked :=
    Parameters.valuesOf_middle_of_ne (apart unflagged)
  simp only [asked_eq, words, values "title" (by decide), values "level" (by decide),
    values "phrase" (by decide), values "owner" (by decide), values "tags" (by decide),
    values "logbooks" (by decide), values "properties" (by decide), values "start" (by decide),
    values "end" (by decide), values "limit" (by decide)]

theorem asked_middle_fuzzy (filled : texts ≠ []) (flag : Parameters.normalKey key = "fuzzy") :
    asked zone (before ++ (key, texts) :: after) =
      { asked zone (before ++ after) with mode := .fuzzy } := by
  have given (asked : String) :
      asked ∈ (before ++ (key, texts) :: after).givenKeys ↔
        asked = "fuzzy" ∨ asked ∈ (before ++ after).givenKeys := by
    rw [Parameters.mem_givenKeys_middle filled, flag]
  rw [asked_middle_of_flag zone (by simp [flag, Parameters.flagKeys])]
  simp [given, asked_eq]

theorem asked_middle_events (filled : texts ≠ [])
    (flag : Parameters.normalKey key ∈ Parameters.eventKeys) :
    asked zone (before ++ (key, texts) :: after) =
      { asked zone (before ++ after) with includeEvents := true } := by
  have given (asked : String) :
      asked ∈ (before ++ (key, texts) :: after).givenKeys ↔
        asked = Parameters.normalKey key ∨ asked ∈ (before ++ after).givenKeys :=
    Parameters.mem_givenKeys_middle filled asked
  have named : Parameters.normalKey key = "includeevents" ∨
      Parameters.normalKey key = "includeevent" := by
    simpa [Parameters.eventKeys] using flag
  rw [asked_middle_of_flag zone (List.mem_cons_of_mem _ flag)]
  obtain named | named := named <;> simp [given, asked_eq, named]

end Middle

variable {criteria : Criteria}

theorem map_tolerant_clause {α : Type} {wrap : Query → Query} {query later : α → Query}
    (wrapped : ∀ inner, (wrap inner).tolerant = wrap inner.tolerant)
    (leaves : ∀ term, (query term).tolerant = later term) (terms : List α) :
    (clause wrap query terms).map tolerant = clause wrap later terms := by
  rw [clause, clause]
  split
  · rfl
  · rw [List.map_singleton, wrapped, tolerant_any, List.map_map]
    simp only [Function.comp_def, leaves]

theorem map_tolerant_plainClause {α : Type} {query later : α → Query}
    (leaves : ∀ term, (query term).tolerant = later term) (terms : List α) :
    (clause id query terms).map tolerant = clause id later terms :=
  map_tolerant_clause (fun _ => by simp only [id]) leaves terms

theorem map_tolerant_labelClause {path : String} (unworded : path ++ ".name" ∉ wordFields)
    (labels : List String) : (labelClause path labels).map tolerant = labelClause path labels :=
  map_tolerant_clause (tolerant_within path) (tolerant_name unworded) labels

theorem tolerant_propertyQuery (pattern : PropertyPattern) :
    (propertyQuery pattern).tolerant = propertyQuery pattern := by
  have unworded : ∀ field ∈ ["properties.name", "properties.attributes.name",
      "properties.attributes.value"], field ∉ wordFields := by
    decide
  obtain ⟨name, attributeName, value⟩ := pattern
  cases name <;> cases attributeName <;> cases value <;>
    simp [propertyQuery, tolerant_name (unworded _ _)]

theorem timelessClauses_fuzzy (strict : criteria.mode = .wildcard) :
    ({ criteria with mode := .fuzzy }).timelessClauses =
      criteria.timelessClauses.map tolerant := by
  have worded {field : String} (known : field ∈ wordFields) (terms : List String) :
      (clause id (termQuery criteria.mode field) terms).map tolerant =
        clause id (termQuery .fuzzy field) terms := by
    rw [strict]
    exact map_tolerant_plainClause (tolerant_word known) terms
  simp only [timelessClauses, List.map_append]
  rw [worded (by decide), worded (by decide), worded (by decide),
    map_tolerant_plainClause (tolerant_phrase "description"),
    map_tolerant_plainClause (tolerant_name (by decide)),
    map_tolerant_labelClause (by decide), map_tolerant_labelClause (by decide),
    map_tolerant_plainClause tolerant_propertyQuery]

theorem map_tolerant_activeClause (now : Time.Moment) :
    (criteria.activeClause now).map tolerant = criteria.activeClause now := by
  rw [activeClause]
  split
  · cases criteria.includeEvents <;> simp [spanClause]
  · rfl

theorem assembled_fuzzy (policy : Policy) (now : Time.Moment) (strict : criteria.mode = .wildcard) :
    let request := criteria.assembled policy now
    ({ criteria with mode := .fuzzy }).assembled policy now =
      { request with query := request.query.tolerant } := by
  intro request
  have clauses_eq : ({ criteria with mode := .fuzzy }).clauses now =
      (criteria.clauses now).map tolerant := by
    rw [clauses, timelessClauses_fuzzy strict, clauses, List.map_append, map_tolerant_activeClause]
    rfl
  rw [assembled, clauses_eq, ← tolerant_all]
  rfl

theorem clauses_of_active {now : Time.Moment}
    (active : criteria.isTemporal ∧ (criteria.span now).isOrdered) :
    criteria.clauses now =
      spanClause criteria.includeEvents (criteria.span now) :: criteria.timelessClauses := by
  rw [clauses, activeClause, if_pos active, List.singleton_append]

theorem clauses_of_inactive {now : Time.Moment}
    (inactive : ¬(criteria.isTemporal ∧ (criteria.span now).isOrdered)) :
    criteria.clauses now = criteria.timelessClauses := by
  rw [clauses, activeClause, if_neg inactive, List.nil_append]

/-- The clause about time, if there is one, is the only clause that the times of events change. -/
theorem gainsEvents_clauses (now : Time.Moment) (eventless : criteria.includeEvents = false) :
    GainsEvents (criteria.clauses now) (({ criteria with includeEvents := true }).clauses now) := by
  let gained : Criteria := { criteria with includeEvents := true }
  have timeless := not_mentionsTime_of_mem_timelessClauses criteria
  show GainsEvents (criteria.clauses now) (gained.clauses now)
  by_cases active : criteria.isTemporal ∧ (criteria.span now).isOrdered
  · have active_gained : gained.isTemporal ∧ (gained.span now).isOrdered := active
    rw [clauses_of_active active, clauses_of_active active_gained, eventless]
    exact .window timeless
  · have inactive_gained : ¬(gained.isTemporal ∧ (gained.span now).isOrdered) := active
    rw [clauses_of_inactive active, clauses_of_inactive inactive_gained]
    exact .timeless timeless

theorem mode_asked_of_notMem (zone : Time.Zone) {raw : Parameters}
    (missing : "fuzzy" ∉ Parameters.normalKeys raw) :
    (asked zone raw).mode = .wildcard := by
  have absent : "fuzzy" ∉ raw.givenKeys := fun given =>
    missing (Parameters.mem_normalKeys_of_mem_givenKeys given)
  rw [asked_eq, if_neg absent]

theorem includeEvents_asked_of_notMem (zone : Time.Zone) {raw : Parameters}
    (missing : ∀ key ∈ Parameters.eventKeys, key ∉ Parameters.normalKeys raw) :
    (asked zone raw).includeEvents = false := by
  have absent : ∀ key ∈ Parameters.eventKeys, key ∉ raw.givenKeys := fun key known given =>
    missing key known (Parameters.mem_normalKeys_of_mem_givenKeys given)
  rw [asked_eq, decide_eq_false_iff_not, not_or]
  exact ⟨absent _ (by decide), absent _ (by decide)⟩

end Criteria

/-- A flag may stand anywhere among parameters that are compiled, with any texts. The one for
misspellings turns the words of the description, the title and the level into ones that may be
misspelt, and nothing else; the one for events changes nothing but the clause about time, which then
holds for the times of events too. -/
theorem Policy.compileRaw_flagged (policy : Policy) (zone : Time.Zone) (now : Present)
    {before after : RawParameters} (key : String) {value : Value} {texts : List String}
    {request : Request} (read : Parameters.textsOf value = .ok texts) (filled : texts ≠ [])
    (compiled :
      (policy.compileRaw zone (now.resolve zone) (before ++ after)).outcome = .ok request) :
    let flag := Parameters.normalKey key
    let others := Parameters.normalKeys (before ++ after)
    let flagged :=
      (policy.compileRaw zone (now.resolve zone) (before ++ (key, value) :: after)).outcome
    (flag = "fuzzy" → "fuzzy" ∉ others →
      flagged = .ok { request with query := request.query.tolerant }) ∧
      (flag ∈ Parameters.eventKeys → (∀ other ∈ Parameters.eventKeys, other ∉ others) →
        ∃ clauses gained, request.query = .all clauses ∧ Query.GainsEvents clauses gained ∧
          flagged = .ok { request with query := .all gained }) := by
  intro flag others flagged
  obtain ⟨raw, read_others, accepted, rfl⟩ := Policy.outcome_compileRaw_eq_ok_iff.mp compiled
  obtain ⟨front, back, read_before, read_after, rfl⟩ :=
    Parameters.exists_of_ofRaw_append read_others
  have keys_eq : Parameters.normalKeys (front ++ back) = others :=
    Parameters.normalKeys_of_ofRaw read_others
  have read_flagged : Parameters.ofRaw (before ++ (key, value) :: after) =
      .ok (front ++ (key, texts) :: back) := by
    rw [Parameters.ofRaw_middle key before after read, read_before, read_after]
    rfl
  have flagged_eq (known : flag ∈ Parameters.flagKeys) :
      flagged = .ok ((Criteria.asked zone (front ++ (key, texts) :: back)).assembled policy
        (now.resolve zone)) :=
    Policy.outcome_compileRaw_eq_ok_iff.mpr
      ⟨_, read_flagged, Criteria.refused?_middle_of_flag filled known accepted, rfl⟩
  refine ⟨fun fuzzy missing => ?_, fun events missing => ?_⟩
  · have strict := Criteria.mode_asked_of_notMem zone (keys_eq ▸ missing)
    rw [flagged_eq (List.mem_cons.mpr (.inl fuzzy)), Criteria.asked_middle_fuzzy zone filled fuzzy,
      Criteria.assembled_fuzzy policy _ strict]
  · have eventless := Criteria.includeEvents_asked_of_notMem zone (keys_eq ▸ missing)
    refine ⟨_, _, rfl, Criteria.gainsEvents_clauses (now.resolve zone) eventless, ?_⟩
    rw [flagged_eq (List.mem_cons_of_mem _ events), Criteria.asked_middle_events zone filled events]
    rfl

theorem Policy.compileRaw_flagged_denied :
    let outcome (raw : RawParameters) :=
      (({} : Policy).compileRaw .utc ((Present.moment .epoch).resolve .utc) raw).outcome
    let before : RawParameters :=
      [("Desc", .text "Beam"), ("start", .text "1970-01-01 00:00:00.000")]
    let after : RawParameters :=
      [("tags", .list [.text "RF"]), ("end", .text "1970-01-02 00:00:00.000")]
    let created := Query.range "createdDate" 0 86400000
    let events := Query.nested "events" (.range "events.instant" 0 86400000) "none"
    let request (time word : Query) : Request :=
      { index := "olog_logs*"
        query := .all [time, .any [word], .within "tags" (.any [.wildcard "tags.name" "rf"])]
        sort := [⟨"createdDate", .descending⟩]
        offset := 0
        size := 100
        seconds := 60 }
    outcome (before ++ after) = .ok (request created (.wildcard "description" "beam")) ∧
      outcome (before ++ (" FUZZY", .text "no") :: after) =
        .ok (request created (.fuzzy "description" "beam")) ∧
      outcome (before ++ ("includeEvent", .text "false") :: after) =
        .ok (request (.any [created, events]) (.wildcard "description" "beam")) := by
  intro outcome before after created events request
  have compiled : outcome (before ++ after) =
      .ok (request created (.wildcard "description" "beam")) := rfl
  have denied (text : String) : Parameters.textsOf (.text text) = .ok [text] := rfl
  refine ⟨compiled, ?_, ?_⟩
  · exact (Policy.compileRaw_flagged {} .utc (.moment .epoch) " FUZZY" (denied "no") (by decide)
      compiled).1 (by decide) (by decide)
  · obtain ⟨clauses, gained, query_eq, gains, flagged⟩ :=
      (Policy.compileRaw_flagged {} .utc (.moment .epoch) "includeEvent" (denied "false")
        (by decide) compiled).2 (by decide) (by decide)
    obtain rfl := Query.all.inj query_eq
    obtain rfl := gains.eq_of_window
    exact flagged

end EntrySearch
