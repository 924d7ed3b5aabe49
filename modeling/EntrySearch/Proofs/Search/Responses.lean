import EntrySearch.Proofs.Search.Hits
import EntrySearch.Proofs.Value.SameKeys

/-!
# Which responses are taken

A response is taken whatever its total is, if the hits it has are a list of objects and what each of
them stores is an object or pairs of keys and values. A field that is void counts as one that is
missing, at each level.
-/

namespace EntrySearch

open Outcome

namespace Outcome

variable {ε α β : Type}

/-- Each item has a counterpart if and only if there is a list of them. -/
theorem exists_forall₂_iff {related : α → β → Prop} {items : List α} :
    (∃ others, List.Forall₂ related items others) ↔ ∀ item ∈ items, ∃ other, related item other := by
  induction items with
  | nil => exact iff_of_true ⟨[], .nil⟩ nofun
  | cons item rest ih =>
      rw [List.forall_mem_cons, ← ih]
      simp only [List.forall₂_cons_left_iff]
      constructor
      · rintro ⟨_, other, others, here, later, _⟩
        exact ⟨⟨other, here⟩, others, later⟩
      · rintro ⟨⟨other, here⟩, others, later⟩
        exact ⟨_, other, others, here, later, rfl⟩

end Outcome

namespace Value

/-- A key and a value: the two items of a list, the two characters of a text or the two keys of an
object. -/
inductive IsPair : Value → Scalar × Value → Prop
  | list (key : Scalar) (value : Value) : IsPair (.list [.scalar key, value]) (key, value)
  | text (first second : Char) :
      IsPair (.text (String.ofList [first, second]))
        (.text (String.ofList [first]), .text (String.ofList [second]))
  | object (first second : Scalar × Value) :
      IsPair (.object [first, second]) (first.1, .scalar second.1)

/-- The entries that a source stores. -/
inductive Stores : Value → List (Scalar × Value) → Prop
  | nothing {source : Value} (void : source.isVoid = true) : Stores source []
  | object (entries : List (Scalar × Value)) : Stores (.object entries) entries
  | pairs {items : List Value} {pairs entries : List (Scalar × Value)}
      (each : List.Forall₂ IsPair items pairs) (table : Entries.IsTableOf entries pairs) :
      Stores (.list items) entries

/-- What a hit may have as its source. -/
def IsSource (source : Value) : Prop :=
  source.isVoid = true ∨ source.IsObject ∨
    ∃ items, source = .list items ∧ ∀ item ∈ items, ∃ pair, IsPair item pair

/-- What a response may have as a hit. -/
def IsRawHit (raw : Value) : Prop :=
  raw.IsObject ∧ ∀ source, raw.field? "_source" = some source → source.IsSource

/-- What a response may have as its hits. -/
def IsFound (found : Value) : Prop :=
  found.IsObject ∧ ∀ given, found.field? "hits" = some given →
    given.isVoid = true ∨ ∃ items, given = .list items ∧ ∀ raw ∈ items, raw.IsRawHit

/-- What a response has as its total, next to its hits. -/
def givenTotal? (response : Value) : Option Value :=
  (response.field? "hits").bind (field? "total")

/-- A response that can be taken. -/
def IsResponse (response : Value) : Prop :=
  response.IsObject ∧ ∀ found, response.field? "hits" = some found →
    found.isVoid = true ∨ found.IsFound

end Value

namespace Value

theorem parts?_eq_pair_iff {entry value : Value} {key : Scalar} :
    entry.parts? = some [.scalar key, value] ↔ IsPair entry (key, value) := by
  constructor
  · intro parts
    cases entry with
    | list items =>
        obtain rfl := Option.some.inj parts
        exact .list key value
    | object entries =>
        obtain ⟨first, _, rfl, head, tail⟩ := List.map_eq_cons_iff.mp (Option.some.inj parts)
        obtain ⟨second, _, rfl, rfl, last⟩ := List.map_eq_cons_iff.mp tail
        obtain rfl := List.map_eq_nil_iff.mp last
        obtain rfl := Value.scalar.inj head
        exact .object first second
    | scalar s =>
        cases s with
        | text s =>
            obtain ⟨first, _, chars, head, tail⟩ := List.map_eq_cons_iff.mp (Option.some.inj parts)
            obtain ⟨second, _, rfl, rfl, last⟩ := List.map_eq_cons_iff.mp tail
            obtain rfl := List.map_eq_nil_iff.mp last
            obtain rfl := Value.scalar.inj head
            rw [← String.ofList_toList (s := s), chars]
            exact .text first second
        | _ => contradiction
  · rintro (_ | ⟨first, second⟩ | _)
    · rfl
    · simp [parts?]
    · rfl

theorem not_isPair_char (c : Char) (pair : Scalar × Value) :
    ¬IsPair (.text (String.ofList [c])) pair := by
  intro both
  have parts := parts?_eq_pair_iff.mpr both
  simp [parts?] at parts

end Value

namespace Hit

open Value

theorem pairOf_eq_ok_iff {position : Nat} {entry : Value} {pair : Scalar × Value} :
    pairOf position entry = .ok pair ↔ IsPair entry pair := by
  rw [← parts?_eq_pair_iff]
  constructor
  · intro taken
    unfold pairOf at taken
    split at taken
    case h_2 key value parts =>
      obtain rfl := Except.ok.inj taken
      exact parts
    all_goals contradiction
  · intro parts
    unfold pairOf
    rw [parts]

theorem pairsFrom_eq_ok_iff {position : Nat} {items : List Value}
    {pairs : List (Scalar × Value)} :
    pairsFrom position items = .ok pairs ↔ List.Forall₂ IsPair items pairs := by
  induction items generalizing position pairs with
  | nil =>
      rw [List.forall₂_nil_left_iff]
      exact ⟨fun taken => (Except.ok.inj taken).symm, fun none => none ▸ rfl⟩
  | cons item rest ih =>
      rw [List.forall₂_cons_left_iff, pairsFrom]
      simp only [bind_eq_ok_iff, pairOf_eq_ok_iff, ih]
      constructor
      · rintro ⟨pair, here, others, later, ended⟩
        obtain rfl := Except.ok.inj ended
        exact ⟨pair, others, here, later, rfl⟩
      · rintro ⟨pair, others, here, later, rfl⟩
        exact ⟨pair, here, others, later, rfl⟩

theorem sourceOf_list (items : List Value) :
    sourceOf (.list items) = pairsFrom 0 items >>= fun pairs => .ok (Entries.ofPairs pairs) := by
  cases items <;> rfl

/-- A scalar stores nothing, and only if it is void: the characters of a text are no pairs. -/
theorem sourceOf_scalar_eq_ok_iff {s : Scalar} {entries : List (Scalar × Value)} :
    sourceOf (.scalar s) = .ok entries ↔ s.isVoid = true ∧ entries = [] := by
  by_cases void : s.isVoid = true
  · have taken : sourceOf (.scalar s) = .ok [] := if_pos void
    rw [taken, Except.ok.injEq]
    exact ⟨fun same => ⟨void, same.symm⟩, fun both => both.2.symm⟩
  · refine iff_of_false (fun taken => ?_) fun both => void both.1
    replace taken := (if_neg void).symm.trans taken
    cases s with
    | text s =>
        obtain ⟨pairs, each, _⟩ := bind_eq_ok_iff.mp taken
        rw [pairsFrom_eq_ok_iff, List.forall₂_map_left_iff] at each
        cases chars : s.toList with
        | nil => exact void (String.isEmpty_iff.mpr (String.toList_eq_nil_iff.mp chars))
        | cons c rest =>
            rw [chars, List.forall₂_cons_left_iff] at each
            obtain ⟨pair, _, here, _⟩ := each
            exact not_isPair_char c pair here
    | _ => contradiction

theorem stores_of_sourceOf {source : Value} {entries : List (Scalar × Value)}
    (taken : sourceOf source = .ok entries) : Stores source entries := by
  cases source with
  | object entries =>
      obtain rfl := Except.ok.inj taken
      exact .object _
  | list items =>
      rw [sourceOf_list] at taken
      obtain ⟨pairs, each, ended⟩ := bind_eq_ok_iff.mp taken
      obtain rfl := Except.ok.inj ended
      exact .pairs (pairsFrom_eq_ok_iff.mp each) (Entries.isTableOf_ofPairs pairs)
  | scalar s =>
      obtain ⟨void, rfl⟩ := sourceOf_scalar_eq_ok_iff.mp taken
      exact .nothing void

theorem exists_sourceOf_eq_ok_iff {source : Value} :
    (∃ entries, sourceOf source = .ok entries) ↔ source.IsSource := by
  cases source with
  | object entries => exact iff_of_true ⟨entries, rfl⟩ (.inr (.inl ⟨entries, rfl⟩))
  | scalar s =>
      simp only [sourceOf_scalar_eq_ok_iff, exists_and_left, exists_eq, and_true]
      refine ⟨.inl, ?_⟩
      rintro (void | ⟨_, impossible⟩ | ⟨_, impossible, _⟩)
      · exact void
      · contradiction
      · contradiction
  | list items =>
      have pairs_iff : (∃ entries, sourceOf (.list items) = .ok entries) ↔
          ∀ item ∈ items, ∃ pair, IsPair item pair := by
        simp only [sourceOf_list, bind_eq_ok_iff, pairsFrom_eq_ok_iff, ← exists_forall₂_iff]
        exact ⟨fun ⟨_, pairs, each, _⟩ => ⟨pairs, each⟩, fun ⟨pairs, each⟩ => ⟨_, pairs, each, rfl⟩⟩
      rw [pairs_iff]
      refine ⟨fun each => .inr (.inr ⟨items, rfl, each⟩), ?_⟩
      rintro (void | ⟨_, impossible⟩ | ⟨_, same, each⟩)
      · obtain rfl := List.isEmpty_iff.mp void
        nofun
      · contradiction
      · obtain rfl := Value.list.inj same
        exact each

/-- A hit says what an object of a response says: its identifier as a text, the empty one where there
is none, its score, and what it stores. -/
structure IsOf (hit : Hit) (raw : Value) : Prop where
  id : hit.id = ((raw.field? "_id").getD (.text "")).plain
  score : hit.score = (raw.field? "_score").getD .null
  source : ((raw.field? "_source").getD .null).Stores hit.source

theorem isOf_of_ofValue {raw : Value} {hit : Hit} (taken : ofValue raw = .ok hit) :
    hit.IsOf raw := by
  cases raw with
  | object entries =>
      obtain ⟨source, stored, ended⟩ := bind_eq_ok_iff.mp taken
      obtain rfl := Except.ok.inj ended
      exact ⟨rfl, rfl, stores_of_sourceOf stored⟩
  | scalar | list => contradiction

theorem exists_ofValue_eq_ok_iff {raw : Value} :
    (∃ hit, ofValue raw = .ok hit) ↔ raw.IsRawHit := by
  cases raw with
  | scalar | list =>
      refine iff_of_false ?_ ?_
      · rintro ⟨_, impossible⟩
        contradiction
      · rintro ⟨⟨_, impossible⟩, _⟩
        contradiction
  | object entries =>
      have source_iff : (∃ hit, ofValue (.object entries) = .ok hit) ↔
          (((Value.object entries).field? "_source").getD .null).IsSource := by
        rw [← exists_sourceOf_eq_ok_iff]
        constructor
        · rintro ⟨_, taken⟩
          obtain ⟨source, stored, _⟩ := bind_eq_ok_iff.mp taken
          exact ⟨source, stored⟩
        · rintro ⟨source, stored⟩
          exact ⟨_, bind_eq_ok_iff.mpr ⟨source, stored, rfl⟩⟩
      rw [source_iff, IsRawHit, and_iff_right ⟨entries, rfl⟩]
      cases (Value.object entries).field? "_source" with
      | none => exact iff_of_true (.inl rfl) nofun
      | some source => simp

end Hit

namespace SearchResult

open Value

/-- The total that a response names: the whole number next to its hits, or the one that is the value
of an object there. -/
inductive NamesTotal (response : Value) : Int → Prop
  | direct {n : Int} (total : response.givenTotal? = some (.int n)) : NamesTotal response n
  | wrapped {entries : List (Scalar × Value)} {n : Int}
      (total : response.givenTotal? = some (.object entries))
      (value : (Value.object entries).field? "value" = some (.int n)) : NamesTotal response n

/-- A result says what a response says: hit by hit in the same order, and the total that it names or
else the number of hits. -/
structure IsOf (result : SearchResult) (response : Value) : Prop where
  hits : List.Forall₂ (fun raw hit => Hit.IsOf hit raw) response.rawHits result.hits
  named : ∀ n, NamesTotal response n → result.total = n
  counted : (¬∃ n, NamesTotal response n) → result.total = result.hits.length

/-- A field is found with a property that the default has, if and only if it is void where it does not
have the property. -/
theorem exists_fieldOr_iff {key : String} {value : Value} {fine : Value → Prop}
    (otherwise : Value) (default_fine : fine otherwise) :
    (∃ field, fieldOr key otherwise value = .ok field ∧ fine field) ↔
      value.IsObject ∧
        ∀ given, value.field? key = some given → given.isVoid = true ∨ fine given := by
  simp only [fieldOr_eq_ok_iff]
  constructor
  · rintro ⟨field, ⟨object, ⟨same, _⟩ | ⟨_, all_void⟩⟩, good⟩
    · exact ⟨object, fun given given_eq =>
        .inr (Option.some.inj (same.symm.trans given_eq) ▸ good)⟩
    · exact ⟨object, fun given given_eq => .inl (all_void given given_eq)⟩
  · rintro ⟨object, each⟩
    by_cases all_void : ∀ given, value.field? key = some given → given.isVoid = true
    · exact ⟨otherwise, ⟨object, .inr ⟨rfl, all_void⟩⟩, default_fine⟩
    · obtain ⟨given, known⟩ := Classical.not_forall.mp all_void
      obtain ⟨given_eq, filled⟩ := Classical.not_imp.mp known
      exact ⟨given, ⟨object, .inl ⟨given_eq, Bool.eq_false_iff.mpr filled⟩⟩,
        (each given given_eq).resolve_left filled⟩

theorem eq_list_of_parts? {value : Value} {parts : List Value} (filled : value.isVoid = false)
    (taken : value.parts? = some parts) (objects : ∀ part ∈ parts, part.IsObject) :
    value = .list parts := by
  cases value with
  | list items => exact congrArg Value.list (Option.some.inj taken)
  | object entries =>
      obtain rfl := Option.some.inj taken
      cases entries with
      | nil => contradiction
      | cons entry rest =>
          obtain ⟨_, impossible⟩ := objects (.scalar entry.1) (by simp)
          contradiction
  | scalar s =>
      cases s with
      | text s =>
          obtain rfl := Option.some.inj taken
          cases chars : s.toList with
          | nil => simp_all [isVoid, Scalar.isVoid]
          | cons c rest =>
              obtain ⟨_, impossible⟩ := objects (.text (String.ofList [c])) (by simp [chars])
              contradiction
      | _ => contradiction

theorem exists_parts?_iff {found list : Value}
    (inner : fieldOr "hits" (.list []) found = .ok list) :
    (∃ parts, list.parts? = some parts ∧ ∀ raw ∈ parts, raw.IsRawHit) ↔
      ∃ items, list = .list items ∧ ∀ raw ∈ items, raw.IsRawHit := by
  constructor
  · rintro ⟨parts, known, each⟩
    rcases (fieldOr_eq_ok_iff.mp inner).2 with ⟨_, filled⟩ | ⟨rfl, _⟩
    · exact ⟨parts, eq_list_of_parts? filled known fun raw member => (each raw member).1, each⟩
    · exact ⟨[], rfl, nofun⟩
  · rintro ⟨items, rfl, each⟩
    exact ⟨items, rfl, each⟩

theorem exists_ofResponse_eq_ok_iff {response : Value} :
    (∃ result, ofResponse response = .ok result) ↔ response.IsResponse := by
  have found_iff (found : Value) :
      (∃ list, fieldOr "hits" (.list []) found = .ok list ∧
        ∃ parts, list.parts? = some parts ∧ ∀ raw ∈ parts, raw.IsRawHit) ↔ found.IsFound := by
    rw [IsFound, ← exists_fieldOr_iff (.list []) ⟨[], rfl, nofun⟩]
    exact exists_congr fun list => and_congr_right fun inner => exists_parts?_iff inner
  rw [IsResponse, ← exists_fieldOr_iff (.object []) ⟨⟨[], rfl⟩, nofun⟩]
  simp only [← found_iff, ← Hit.exists_ofValue_eq_ok_iff, ← exists_forall₂_iff]
  constructor
  · rintro ⟨result, taken⟩
    obtain ⟨found, list, parts, outer, inner, known, each, _⟩ := ofResponse_eq_ok_iff.mp taken
    exact ⟨found, outer, list, inner, parts, known, result.hits, each⟩
  · rintro ⟨found, outer, list, inner, parts, known, hits, each⟩
    let total := (totalOf? ((found.field? "total").getD .null)).getD hits.length
    exact ⟨⟨total, hits⟩, ofResponse_eq_ok_iff.mpr
      ⟨found, list, parts, outer, inner, known, each, rfl⟩⟩

theorem totalOf?_eq_some_iff {total : Value} {n : Int} :
    totalOf? total = some n ↔ total = .int n ∨
      ∃ entries, total = .object entries ∧ (Value.object entries).field? "value" = some (.int n) := by
  cases total with
  | list items => simp [totalOf?]
  | scalar s => cases s <;> simp [totalOf?]
  | object entries =>
      have split : totalOf? (.object entries) = some n ↔
          (Value.object entries).field? "value" = some (.int n) := by
        rw [totalOf?]
        cases (Value.object entries).field? "value" with
        | none => simp
        | some value => cases value with
          | scalar s => cases s <;> simp
          | list | object => simp
      simp [split]

theorem field?_of_fieldOr {response found : Value} {key : String} (inner : String)
    (outer : fieldOr key (.object []) response = .ok found) :
    found.field? inner = (response.field? key).bind (field? inner) := by
  rcases (fieldOr_eq_ok_iff.mp outer).2 with ⟨same, _⟩ | ⟨rfl, all_void⟩
  · rw [same, Option.bind_some]
  · cases known : response.field? key with
    | none => rfl
    | some void => exact (field?_of_isVoid (all_void void known) inner).symm

theorem namesTotal_iff {response found : Value} {n : Int}
    (outer : fieldOr "hits" (.object []) response = .ok found) :
    NamesTotal response n ↔ totalOf? ((found.field? "total").getD .null) = some n := by
  rw [totalOf?_eq_some_iff, field?_of_fieldOr "total" outer, ← givenTotal?]
  constructor
  · rintro (total | ⟨total, value⟩)
    · exact .inl (by rw [total, Option.getD_some])
    · exact .inr ⟨_, by rw [total, Option.getD_some], value⟩
  · cases given : response.givenTotal? with
    | none => simp
    | some total =>
        rintro (rfl | ⟨entries, rfl, value⟩)
        · exact .direct given
        · exact .wrapped given value

/-- A response is taken if and only if it has the fields of one, whatever its total is; and what is
taken says what the response says. -/
theorem taken_iff_isResponse (response : Value) :
    ((∃ result, ofResponse response = .ok result) ↔ response.IsResponse) ∧
      ∀ result, ofResponse response = .ok result → result.IsOf response := by
  refine ⟨exists_ofResponse_eq_ok_iff, fun result taken => ?_⟩
  obtain ⟨found, list, parts, outer, inner, known, each, total⟩ := ofResponse_eq_ok_iff.mp taken
  refine ⟨(hits_of_ofResponse taken).imp fun _ _ => Hit.isOf_of_ofValue, fun n names => ?_,
    fun unnamed => ?_⟩
  · rw [total, (namesTotal_iff outer).mp names, Option.getD_some]
  · have missing : totalOf? ((found.field? "total").getD .null) = none :=
      Option.eq_none_iff_forall_ne_some.mpr fun n given =>
        unnamed ⟨n, (namesTotal_iff outer).mpr given⟩
    rw [total, missing, Option.getD_none]

/-- A response with one hit, whose source is a list of pairs of each kind with the same key. -/
def pairedResponse : Value :=
  .record [("hits", .record [
    ("total", .record [("value", .int 7), ("relation", .text "eq")]),
    ("hits", .list [.record [("_id", .int 5), ("_source", .list [
      .list [.text "a", .int 1], .text "ab", .record [("a", .null), ("c", .null)]])]])])]

theorem taken_iff_isResponse_paired :
    pairedResponse.IsResponse ∧ ∃ result : SearchResult,
      ofResponse pairedResponse = .ok result ∧ result.IsOf pairedResponse ∧
        result = ⟨7, [⟨"5", .null, [(.text "a", .text "c")]⟩]⟩ := by
  obtain ⟨accepted, faithful⟩ := taken_iff_isResponse pairedResponse
  have taken : ofResponse pairedResponse =
      .ok ⟨7, [⟨"5", .null, [(.text "a", .text "c")]⟩]⟩ := by
    rfl
  exact ⟨accepted.mp ⟨_, taken⟩, _, taken, faithful _ taken, rfl⟩

end SearchResult

end EntrySearch
