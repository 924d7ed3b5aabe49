import EntrySearch.Proofs.Search.Refusal

/-!
# The order of parameters

Where no two keys are the same once they are trimmed and in lower case, parameters may come in any
order: they are refused in every order or in none, and ask for the same. Only the words of the two
keys for the description follow the order of these keys.
-/

namespace EntrySearch

open Outcome

namespace Outcome

variable {ε α β : Type}

/-- Steps that are taken in another order fail in both orders, or give the same results in another
order. -/
theorem mapM_perm (step : α → Except ε β) {items other : List α} (perm : items.Perm other) :
    (∃ fault later, items.mapM step = .error fault ∧ other.mapM step = .error later) ∨
      ∃ results reordered, items.mapM step = .ok results ∧ other.mapM step = .ok reordered ∧
        results.Perm reordered := by
  rw [mapM_eq_barring, mapM_eq_barring]
  cases found : items.findSome? fun item => fault? (step item) with
  | none =>
      have faultless : (other.findSome? fun item => fault? (step item)) = none := by
        rw [List.findSome?_eq_none_iff] at found ⊢
        exact fun item member => found item (perm.mem_iff.mpr member)
      exact .inr ⟨_, _, rfl, by rw [faultless, barring_none], perm.filterMap _⟩
  | some fault =>
      have faulty : (other.findSome? fun item => fault? (step item)).isSome = true := by
        obtain ⟨item, member, at_item⟩ := List.exists_of_findSome?_eq_some found
        exact List.findSome?_isSome_iff.mpr
          ⟨item, perm.mem_iff.mp member, Option.isSome_of_eq_some at_item⟩
      obtain ⟨later, found_later⟩ := Option.isSome_iff_exists.mp faulty
      exact .inl ⟨fault, later, rfl, by rw [found_later, barring_some]⟩

end Outcome

namespace Parameters

variable {β : Type}

/-- The keys of entries as they are compared. -/
def normalKeys (entries : List (String × β)) : List String :=
  entries.map fun entry => normalKey entry.1

variable {raw other : Parameters}

theorem ofRaw_cons (entry : String × Value) (rest : RawParameters) :
    ofRaw (entry :: rest) = do
      let texts ← textsOf entry.2
      let others ← ofRaw rest
      return (entry.1, texts) :: others := by
  rw [ofRaw, List.mapM_cons]
  cases textsOf entry.2 <;> rfl

theorem ofRaw_cons_eq_ok_iff {entry : String × Value} {rest : RawParameters} :
    ofRaw (entry :: rest) = .ok raw ↔
      ∃ texts others, textsOf entry.2 = .ok texts ∧ ofRaw rest = .ok others ∧
        (entry.1, texts) :: others = raw := by
  simp only [ofRaw_cons, bind_eq_ok_iff, pure, Except.pure, Except.ok.injEq, exists_and_left]

/-- Reading the values of all keys leaves the keys as they are. -/
theorem normalKeys_of_ofRaw {given : RawParameters} (read : ofRaw given = .ok raw) :
    normalKeys raw = normalKeys given := by
  induction given generalizing raw with
  | nil =>
      obtain rfl : [] = raw := Except.ok.inj read
      rfl
  | cons entry rest ih =>
      obtain ⟨texts, others, -, read_rest, rfl⟩ := ofRaw_cons_eq_ok_iff.mp read
      exact congrArg (normalKey entry.1 :: ·) (ih read_rest)

/-- Entries with some keys only are read as before. -/
theorem ofRaw_filter (keep : String → Bool) {given : RawParameters} (read : ofRaw given = .ok raw) :
    ofRaw (given.filter fun entry => keep (normalKey entry.1)) =
      .ok (raw.filter fun entry => keep (normalKey entry.1)) := by
  induction given generalizing raw with
  | nil =>
      obtain rfl : [] = raw := Except.ok.inj read
      rfl
  | cons entry rest ih =>
      obtain ⟨texts, others, read_entry, read_rest, rfl⟩ := ofRaw_cons_eq_ok_iff.mp read
      by_cases kept : keep (normalKey entry.1) = true
      · simp only [List.filter_cons, kept, if_true]
        exact ofRaw_cons_eq_ok_iff.mpr ⟨texts, _, read_entry, ih read_rest, rfl⟩
      · simp only [List.filter_cons, kept, Bool.false_eq_true, if_false]
        exact ih read_rest

/-- Under each key one entry at most gives texts, so that their order does not change. -/
theorem valuesOf_perm (perm : raw.Perm other) (distinct : (normalKeys raw).Nodup) (key : String) :
    valuesOf key raw = valuesOf key other := by
  induction perm with
  | nil => rfl
  | cons entry _ ih =>
      have rest := ih (List.nodup_cons.mp distinct).2
      simp only [valuesOf, List.flatMap_cons] at rest ⊢
      rw [rest]
  | swap first second rest =>
      have differ : normalKey second.1 ≠ normalKey first.1 := by
        intro same
        simp [normalKeys, same] at distinct
      simp only [valuesOf, List.flatMap_cons, ← List.append_assoc]
      rw [List.append_left_inj]
      by_cases at_first : normalKey first.1 = key
      · have other_key : normalKey second.1 ≠ key := fun same => differ (same.trans at_first.symm)
        simp [at_first, other_key]
      · simp [at_first]
  | trans first_perm _ first second =>
      exact (first distinct).trans (second ((first_perm.map _).nodup distinct))

theorem mem_givenKeys_perm (perm : raw.Perm other) (key : String) :
    key ∈ givenKeys raw ↔ key ∈ givenKeys other :=
  ((perm.filter _).map _).mem_iff

theorem mem_firstKeys_perm (perm : raw.Perm other) (key : String) :
    key ∈ firstKeys raw ↔ key ∈ firstKeys other := by
  rw [firstKeys, firstKeys, List.mem_eraseDups, List.mem_eraseDups, mem_givenKeys_perm perm]

theorem mem_normalKeys_of_mem_givenKeys {key : String} (given : key ∈ givenKeys raw) :
    key ∈ normalKeys raw := by
  obtain ⟨entry, member, rfl⟩ := List.mem_map.mp given
  exact List.mem_map_of_mem (List.mem_of_mem_filter member)

/-- The texts of two keys that mean the same are those of the one followed by those of the other. -/
theorem valuesOfEither_perm_append (key second : String) (raw : Parameters) :
    (valuesOfEither key second raw).Perm (valuesOf key raw ++ valuesOf second raw) := by
  rw [valuesOfEither]
  split
  · exact List.perm_append_comm
  · exact .refl _

theorem valuesOfEither_perm (perm : raw.Perm other) (distinct : (normalKeys raw).Nodup)
    (key second : String) :
    (valuesOfEither key second raw).Perm (valuesOfEither key second other) := by
  have joined := valuesOfEither_perm_append key second raw
  rw [valuesOf_perm perm distinct, valuesOf_perm perm distinct] at joined
  exact joined.trans (valuesOfEither_perm_append key second other).symm

/-- Where one of two keys that mean the same is missing, the texts are those of the other one. -/
theorem valuesOfEither_eq_append {key second : String}
    (single : key ∉ normalKeys raw ∨ second ∉ normalKeys raw) :
    valuesOfEither key second raw = valuesOf key raw ++ valuesOf second raw := by
  have nothing : ∀ k, k ∉ normalKeys raw → valuesOf k raw = [] := by
    intro k missing
    by_contra filled
    exact missing (mem_normalKeys_of_mem_givenKeys (mem_givenKeys_iff.mpr filled))
  rw [valuesOfEither]
  rcases single with missing | missing <;> simp [nothing _ missing]

end Parameters

namespace Criteria

variable {raw other : Parameters}

theorem refused?_eq_none_perm (perm : raw.Perm other)
    (distinct : (Parameters.normalKeys raw).Nodup) :
    refused? raw = none ↔ refused? other = none := by
  simp only [refused?_eq, List.findSome?_eq_none_iff, Parameters.mem_firstKeys_perm perm,
    Parameters.valuesOf_perm perm distinct]

/-- Parameters in another order ask for the same, up to the order of the words of the
description. -/
theorem asked_perm (zone : Time.Zone) (perm : raw.Perm other)
    (distinct : (Parameters.normalKeys raw).Nodup) :
    asked zone other =
      { asked zone raw with
        description := (other.valuesOfEither "description" "desc").flatMap Term.words } := by
  simp only [asked_eq, Parameters.valuesOf_perm perm distinct, Parameters.mem_givenKeys_perm perm]

end Criteria

/-- A query for a word of the description, which may tolerate misspellings. -/
def Query.IsDescriptionWord (query : Query) : Prop :=
  ∃ word, query = .wildcard "description" word ∨ query = .fuzzy "description" word

/-- Two requests that are the same, or differ in nothing but the order of the words in the clause
for the description. -/
def Request.SameUpToWordOrder (request other : Request) : Prop :=
  other = request ∨ ∃ before leaves reordered after,
    leaves.Perm reordered ∧ (∀ leaf ∈ leaves, leaf.IsDescriptionWord) ∧
      request.query = .all (before ++ .any leaves :: after) ∧
      other = { request with query := .all (before ++ .any reordered :: after) }

namespace Criteria

theorem isDescriptionWord_termQuery (mode : MatchMode) (word : String) :
    (termQuery mode "description" word).IsDescriptionWord := by
  cases mode with
  | wildcard => exact ⟨word, .inl rfl⟩
  | fuzzy => exact ⟨word, .inr rfl⟩

theorem timelessClauses_of_words {criteria : Criteria} (filled : criteria.description ≠ []) :
    criteria.timelessClauses =
      .any (criteria.description.map (termQuery criteria.mode "description")) ::
        ({ criteria with description := [] }).timelessClauses := by
  obtain ⟨word, rest, words_eq⟩ := List.exists_cons_of_ne_nil filled
  rw [timelessClauses, clause, words_eq]
  rfl

/-- Words of the description in another order change nothing but the order of their queries. -/
theorem sameUpToWordOrder_assembled (criteria : Criteria) (policy : Policy) (now : Time.Moment)
    {words : List String} (perm : criteria.description.Perm words) :
    (criteria.assembled policy now).SameUpToWordOrder
      (({ criteria with description := words }).assembled policy now) := by
  let reworded : Criteria := { criteria with description := words }
  let wordless : Criteria := { criteria with description := [] }
  by_cases nothing : criteria.description = []
  · have words_nil : words = criteria.description := by
      rw [nothing] at perm ⊢
      exact List.nil_perm.mp perm
    exact .inl (by rw [words_nil])
  · have filled : reworded.description ≠ [] := fun empty =>
      nothing (List.perm_nil.mp (empty ▸ perm))
    refine .inr ⟨criteria.activeClause now, _, _, wordless.timelessClauses,
      perm.map (termQuery criteria.mode "description"), ?_, ?_, ?_⟩
    · intro leaf member
      obtain ⟨word, _, rfl⟩ := List.mem_map.mp member
      exact isDescriptionWord_termQuery criteria.mode word
    · rw [assembled, clauses, timelessClauses_of_words nothing]
    · have clauses_eq : reworded.clauses now = criteria.activeClause now ++
          .any (words.map (termQuery criteria.mode "description")) :: wordless.timelessClauses := by
        rw [clauses, timelessClauses_of_words filled]
        rfl
      show reworded.assembled policy now = _
      rw [assembled, clauses_eq]
      rfl

theorem description_asked (zone : Time.Zone) (raw : Parameters) :
    (asked zone raw).description =
      (raw.valuesOfEither "description" "desc").flatMap Term.words := by
  rw [asked_eq]

/-- Parameters in another order ask for the same request, up to the order of the words of the
description. -/
theorem assembled_asked_perm (policy : Policy) (zone : Time.Zone) (now : Time.Moment)
    {raw other : Parameters} (perm : raw.Perm other)
    (distinct : (Parameters.normalKeys raw).Nodup) :
    let request := (asked zone raw).assembled policy now
    let later := (asked zone other).assembled policy now
    request.SameUpToWordOrder later ∧
      ("description" ∉ Parameters.normalKeys raw ∨ "desc" ∉ Parameters.normalKeys raw →
        later = request) := by
  intro request later
  have asked_eq := asked_perm zone perm distinct
  refine ⟨?_, fun single => ?_⟩
  · have words := Parameters.valuesOfEither_perm perm distinct "description" "desc"
    simp only [request, later, asked_eq]
    refine sameUpToWordOrder_assembled _ policy now ?_
    rw [description_asked]
    exact words.flatMap_right _
  · have keys_perm : (Parameters.normalKeys raw).Perm (Parameters.normalKeys other) := perm.map _
    have single_later :
        "description" ∉ Parameters.normalKeys other ∨ "desc" ∉ Parameters.normalKeys other := by
      rwa [keys_perm.mem_iff, keys_perm.mem_iff] at single
    have values_eq : other.valuesOfEither "description" "desc" =
        raw.valuesOfEither "description" "desc" := by
      rw [Parameters.valuesOfEither_eq_append single,
        Parameters.valuesOfEither_eq_append single_later,
        Parameters.valuesOf_perm perm distinct, Parameters.valuesOf_perm perm distinct]
    simp only [request, later, asked_eq, values_eq, ← description_asked zone raw]

end Criteria

/-- Parameters that are compiled in two orders are refused in both, or give the same request up to
the order of the words of the description; exactly the same one if only one of its two keys is
used. -/
theorem Policy.compileRaw_perm (policy : Policy) (zone : Time.Zone) (now : Present)
    {raw other : RawParameters} (perm : raw.Perm other)
    (distinct : (Parameters.normalKeys raw).Nodup) :
    let outcome := (policy.compileRaw zone (now.resolve zone) raw).outcome
    let reordered := (policy.compileRaw zone (now.resolve zone) other).outcome
    (∃ fault later, outcome = .error fault ∧ reordered = .error later) ∨
      ∃ request later, outcome = .ok request ∧ reordered = .ok later ∧
        request.SameUpToWordOrder later ∧
        ("description" ∉ Parameters.normalKeys raw ∨ "desc" ∉ Parameters.normalKeys raw →
          later = request) := by
  intro outcome reordered
  simp only [outcome, reordered, Policy.outcome_compileRaw]
  obtain ⟨fault, later, refused, refused_later⟩ | ⟨texts, texts', read, read', texts_perm⟩ :=
    mapM_perm (fun pair : String × Value => return (pair.1, ← Parameters.textsOf pair.2)) perm
  · left
    rw [Parameters.ofRaw, refused, Parameters.ofRaw, refused_later]
    exact ⟨_, _, rfl, rfl⟩
  · have keys_eq := Parameters.normalKeys_of_ofRaw read
    rw [← keys_eq] at distinct ⊢
    rw [Parameters.ofRaw, read, Parameters.ofRaw, read']
    show (∃ fault later, barring (Criteria.refused? texts) _ = _ ∧
        barring (Criteria.refused? texts') _ = _) ∨
      ∃ request later, barring (Criteria.refused? texts) _ = _ ∧
        barring (Criteria.refused? texts') _ = _ ∧ _
    have same_refusal := Criteria.refused?_eq_none_perm texts_perm distinct
    cases refused : Criteria.refused? texts with
    | some fault =>
        have refused_later : Criteria.refused? texts' ≠ none := fun accepted => by
          rw [same_refusal.mpr accepted] at refused
          contradiction
        obtain ⟨later, found⟩ := Option.ne_none_iff_exists'.mp refused_later
        exact .inl ⟨fault, later, rfl, by rw [found, barring_some]⟩
    | none =>
        have accepted := same_refusal.mp refused
        exact .inr ⟨_, _, rfl, by rw [accepted, barring_none],
          Criteria.assembled_asked_perm policy zone _ texts_perm distinct⟩

/-- Parameters with both keys for the description. -/
def describedTwice : RawParameters :=
  [("Desc", .text "Beam lost"), ("limit", .text "7"), (" DESCRIPTION", .list [.text "RF"])]

theorem Policy.compileRaw_describedTwice :
    let request (words : List String) : Request :=
      { index := "olog_logs*"
        query := .all [.any (words.map (.wildcard "description"))]
        sort := [⟨"createdDate", .descending⟩]
        offset := 0
        size := 7
        seconds := 60 }
    describedTwice.Perm describedTwice.reverse ∧
      (Parameters.normalKeys describedTwice).Nodup ∧
      (({} : Policy).compileRaw .utc .epoch describedTwice).outcome =
        .ok (request ["beam", "lost", "rf"]) ∧
      (({} : Policy).compileRaw .utc .epoch describedTwice.reverse).outcome =
        .ok (request ["rf", "beam", "lost"]) ∧
      (request ["beam", "lost", "rf"]).SameUpToWordOrder (request ["rf", "beam", "lost"]) := by
  intro request
  have perm : describedTwice.Perm describedTwice.reverse := (List.reverse_perm _).symm
  have distinct : (Parameters.normalKeys describedTwice).Nodup := by decide
  have compiled : (({} : Policy).compileRaw .utc .epoch describedTwice).outcome =
      .ok (request ["beam", "lost", "rf"]) := rfl
  have reordered : (({} : Policy).compileRaw .utc .epoch describedTwice.reverse).outcome =
      .ok (request ["rf", "beam", "lost"]) := rfl
  refine ⟨perm, distinct, compiled, reordered, ?_⟩
  obtain ⟨_, _, refused, _⟩ | ⟨first, later, is_first, is_later, same, _⟩ :=
    Policy.compileRaw_perm {} .utc (.moment .epoch) perm distinct
  · exact absurd (compiled.symm.trans refused) (by simp)
  · obtain rfl := Except.ok.inj (compiled.symm.trans is_first)
    obtain rfl := Except.ok.inj (reordered.symm.trans is_later)
    exact same

end EntrySearch
