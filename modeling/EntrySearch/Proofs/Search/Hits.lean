import Mathlib.Data.List.Forall2
import EntrySearch.Proofs.Json.Writable
import EntrySearch.Proofs.Value.Paths
import EntrySearch.Search.Hits

/-!
# Hits of a response

There is one hit for each entry in the list of hits of a response, in the same order. The hits of a
response that can be written can be written themselves.
-/

namespace EntrySearch

open Outcome

namespace Outcome

variable {ε α β : Type}

theorem mapM_eq_ok_iff {step : α → Except ε β} {items : List α} {results : List β} :
    items.mapM step = .ok results ↔
      List.Forall₂ (fun item result => step item = .ok result) items results := by
  induction items generalizing results with
  | nil =>
      rw [List.forall₂_nil_left_iff]
      exact ⟨fun ended => (Except.ok.inj ended).symm, fun none => none ▸ rfl⟩
  | cons item rest ih =>
      rw [List.forall₂_cons_left_iff, List.mapM_cons]
      simp only [bind_eq_ok_iff, ih]
      constructor
      · rintro ⟨first, here, others, later, ended⟩
        obtain rfl := Except.ok.inj ended
        exact ⟨first, others, here, later, rfl⟩
      · rintro ⟨first, others, here, later, rfl⟩
        exact ⟨first, here, others, later, rfl⟩

end Outcome

namespace Value

/-- The entries in the list of hits of a response, as the engine gave them. -/
def rawHits (response : Value) : List Value :=
  (((response.field? "hits").bind (field? "hits")).bind parts?).getD []

theorem field?_of_isVoid {value : Value} (void : value.isVoid = true) (key : String) :
    value.field? key = none := by
  cases value with
  | object entries =>
      obtain rfl := List.isEmpty_iff.mp void
      rfl
  | scalar s => rfl
  | list items => rfl

theorem parts?_of_isVoid {value : Value} (void : value.isVoid = true) :
    value.parts?.getD [] = [] := by
  cases value with
  | object entries =>
      obtain rfl := List.isEmpty_iff.mp void
      rfl
  | list items =>
      obtain rfl := List.isEmpty_iff.mp void
      rfl
  | scalar s =>
      cases s with
      | text s =>
          obtain rfl := String.isEmpty_iff.mp void
          rfl
      | _ => rfl

theorem isWritable_of_mem_parts? {value part : Value} {parts : List Value}
    (written : value.isWritable = true) (taken : value.parts? = some parts)
    (member : part ∈ parts) : part.isWritable = true := by
  cases value with
  | list items =>
      obtain rfl := Option.some.inj taken
      exact Json.areWritable_iff.mp written part member
  | object entries =>
      obtain rfl := Option.some.inj taken
      obtain ⟨entry, known, rfl⟩ := List.mem_map.mp member
      exact (Json.haveWritable_iff.mp written entry known).1
  | scalar s =>
      cases s with
      | text s =>
          obtain rfl := Option.some.inj taken
          obtain ⟨c, _, rfl⟩ := List.mem_map.mp member
          rfl
      | _ => exact nomatch taken

end Value

namespace Hit

/-- A hit can be written when its score and what is stored can be written. -/
structure IsWritable (hit : Hit) : Prop where
  /-- The score can be written. -/
  score : hit.score.isWritable = true
  /-- What is stored can be written. -/
  source : ∀ entry ∈ hit.source, Json.IsWritableEntry entry

theorem pairOf_writable (position : Nat) {entry : Value} (written : entry.isWritable = true) :
    Yields Json.IsWritableEntry (pairOf position entry) := by
  unfold pairOf
  split
  · exact yields_error _
  · rename_i key value taken
    have parts (part : Value) : part ∈ [.scalar key, value] → part.isWritable = true :=
      Value.isWritable_of_mem_parts? written taken
    exact yields_ok ⟨parts (.scalar key) (by simp), parts value (by simp)⟩
  · exact yields_error _
  · exact yields_error _

theorem pairsFrom_writable (position : Nat) {entries : List Value}
    (written : ∀ entry ∈ entries, entry.isWritable = true) :
    Yields (fun pairs => ∀ pair ∈ pairs, Json.IsWritableEntry pair)
      (pairsFrom position entries) := by
  induction entries generalizing position with
  | nil => exact yields_ok (List.forall_mem_nil _)
  | cons entry rest ih =>
      obtain ⟨here, later⟩ := List.forall_mem_cons.mp written
      refine (pairOf_writable position here).bind fun pair fine => ?_
      exact (ih (position + 1) later).bind fun pairs others =>
        yields_ok (List.forall_mem_cons.mpr ⟨fine, others⟩)

theorem sourceOf_writable {source : Value} (written : source.isWritable = true) :
    Yields (fun entries => ∀ entry ∈ entries, Json.IsWritableEntry entry) (sourceOf source) := by
  unfold sourceOf
  split
  · exact yields_ok (Json.haveWritable_iff.mp written)
  · split
    · exact yields_ok (List.forall_mem_nil _)
    · split
      · exact yields_error _
      · rename_i parts taken
        have pieces : ∀ part ∈ parts, part.isWritable = true := fun part =>
          Value.isWritable_of_mem_parts? written taken
        exact (pairsFrom_writable 0 pieces).bind fun pairs fine =>
          yields_ok (Json.haveWritable_iff.mp (Json.isWritable_ofPairs fine))

theorem ofValue_writable {value : Value} (written : value.isWritable = true) :
    Yields IsWritable (ofValue value) := by
  unfold ofValue
  split
  · exact (sourceOf_writable (Value.isWritable_getD_field? "_source" written rfl)).bind
      fun source fine => yields_ok ⟨Value.isWritable_getD_field? "_score" written rfl, fine⟩
  · exact yields_error _

/-- The object for a hit can be written: its identifier is a text. -/
theorem IsWritable.toValue {hit : Hit} (written : hit.IsWritable) :
    hit.toValue.isWritable = true := by
  refine Json.isWritable_ofPairs ?_
  simp only [List.forall_mem_cons]
  exact ⟨⟨rfl, rfl⟩, ⟨rfl, written.score⟩, written.source⟩

end Hit

namespace SearchResult

/-- A field of an object is taken as it is, or the default for a field that is missing or void. -/
theorem fieldOr_eq_ok_iff {key : String} {otherwise value field : Value} :
    fieldOr key otherwise value = .ok field ↔ value.IsObject ∧
      ((value.field? key = some field ∧ field.isVoid = false) ∨
        field = otherwise ∧ ∀ given, value.field? key = some given → given.isVoid = true) := by
  cases value with
  | scalar | list =>
      refine iff_of_false (fun taken => nomatch taken) ?_
      rintro ⟨⟨_, impossible⟩, _⟩
      contradiction
  | object entries =>
      rw [and_iff_right ⟨entries, rfl⟩, fieldOr, Except.ok.injEq]
      cases Value.field? key (.object entries) with
      | none =>
          rw [Option.getD_none, if_pos (show Value.null.isVoid = true from rfl)]
          constructor
          · rintro rfl
            exact .inr ⟨rfl, nofun⟩
          · rintro (⟨impossible, _⟩ | ⟨rfl, _⟩)
            · contradiction
            · rfl
      | some given =>
          rw [Option.getD_some]
          by_cases void : given.isVoid = true
          · rw [if_pos void]
            constructor
            · rintro rfl
              exact .inr ⟨rfl, fun other same => Option.some.inj same ▸ void⟩
            · rintro (⟨same, filled⟩ | ⟨rfl, _⟩)
              · rw [← Option.some.inj same, void] at filled
                contradiction
              · rfl
          · rw [if_neg void]
            constructor
            · rintro rfl
              exact .inl ⟨rfl, Bool.eq_false_iff.mpr void⟩
            · rintro (⟨same, _⟩ | ⟨_, all_void⟩)
              · exact Option.some.inj same
              · exact absurd (all_void given rfl) void

theorem rawHits_of_parts {response found list : Value} {parts : List Value}
    (outer : fieldOr "hits" (.object []) response = .ok found)
    (inner : fieldOr "hits" (.list []) found = .ok list) (taken : list.parts? = some parts) :
    response.rawHits = parts := by
  unfold Value.rawHits
  rcases (fieldOr_eq_ok_iff.mp outer).2 with ⟨section_eq, _⟩ | ⟨rfl, section_void⟩
  · rw [section_eq, Option.bind_some]
    rcases (fieldOr_eq_ok_iff.mp inner).2 with ⟨list_eq, _⟩ | ⟨rfl, list_void⟩
    · rw [list_eq, Option.bind_some, taken, Option.getD_some]
    · obtain rfl := Option.some.inj taken
      cases given : found.field? "hits" with
      | none => rfl
      | some void => exact Value.parts?_of_isVoid (list_void void given)
  · obtain rfl : Value.list [] = list := Except.ok.inj inner
    obtain rfl := Option.some.inj taken
    cases given : response.field? "hits" with
    | none => rfl
    | some void =>
        rw [Option.bind_some, Value.field?_of_isVoid (section_void void given)]
        rfl

/-- What is taken out of a response: its hits one by one, and the total that it gives or else their
number. -/
theorem ofResponse_eq_ok_iff {response : Value} {result : SearchResult} :
    ofResponse response = .ok result ↔ ∃ found list parts,
      fieldOr "hits" (.object []) response = .ok found ∧
        fieldOr "hits" (.list []) found = .ok list ∧ list.parts? = some parts ∧
          List.Forall₂ (fun raw hit => Hit.ofValue raw = .ok hit) parts result.hits ∧
            result.total =
              (totalOf? ((found.field? "total").getD .null)).getD result.hits.length := by
  obtain ⟨total, hits⟩ := result
  simp only [← mapM_eq_ok_iff]
  constructor
  · intro taken
    obtain ⟨found, outer, taken⟩ := bind_eq_ok_iff.mp taken
    obtain ⟨list, inner, taken⟩ := bind_eq_ok_iff.mp taken
    dsimp only at taken
    split at taken
    · rename_i parts known
      obtain ⟨_, same, taken⟩ := bind_eq_ok_iff.mp taken
      obtain rfl := Except.ok.inj same
      obtain ⟨_, mapped, ended⟩ := bind_eq_ok_iff.mp taken
      obtain ⟨rfl, rfl⟩ := SearchResult.mk.inj (Except.ok.inj ended)
      exact ⟨found, list, parts, outer, inner, known, mapped, rfl⟩
    · exact nomatch taken
  · rintro ⟨found, list, parts, outer, inner, known, mapped, rfl⟩
    refine bind_eq_ok_iff.mpr ⟨found, outer, bind_eq_ok_iff.mpr ⟨list, inner, ?_⟩⟩
    simp only [known]
    exact bind_eq_ok_iff.mpr ⟨parts, rfl, bind_eq_ok_iff.mpr ⟨hits, mapped, rfl⟩⟩

/-- There is one hit for each entry in the list of a response, in the same order. -/
theorem hits_of_ofResponse {response : Value} {result : SearchResult}
    (taken : ofResponse response = .ok result) :
    List.Forall₂ (fun raw hit => Hit.ofValue raw = .ok hit) response.rawHits result.hits := by
  obtain ⟨found, list, parts, outer, inner, known, each, _⟩ := ofResponse_eq_ok_iff.mp taken
  rw [rawHits_of_parts outer inner known]
  exact each

theorem fieldOr_writable (key : String) {otherwise value : Value}
    (fine : otherwise.isWritable = true) (written : value.isWritable = true) :
    Yields (fun field : Value => field.isWritable = true) (fieldOr key otherwise value) := by
  unfold fieldOr
  split
  · dsimp only
    split
    · exact yields_ok fine
    · exact yields_ok (Value.isWritable_getD_field? key written rfl)
  · exact yields_error _

/-- The hits of a response that can be written can be written one by one. -/
theorem ofResponse_writable {response : Value} (written : response.isWritable = true) :
    Yields (fun result => ∀ hit ∈ result.hits, hit.toValue.isWritable = true)
      (ofResponse response) := by
  refine (fieldOr_writable "hits" rfl written).bind fun found found_written => ?_
  refine (fieldOr_writable "hits" rfl found_written).bind fun list list_written => ?_
  dsimp only
  split
  · rename_i parts taken
    have each : ∀ part ∈ parts, Yields Hit.IsWritable (Hit.ofValue part) := fun part member =>
      Hit.ofValue_writable (Value.isWritable_of_mem_parts? list_written taken member)
    exact (yields_mapM each).bind fun hits fine =>
      yields_ok fun hit member => (fine hit member).toValue
  · exact yields_error _

end SearchResult

end EntrySearch
