import EntrySearch.Search.Parameters
import Mathlib.Data.List.Induction
import Mathlib.Data.List.Nodup

/-!
# Normal parameters

Collecting texts under normal keys has a closed form: the normal keys that have a text, each once
and in the order in which they first appear, each with all texts given under it in order.
-/

namespace EntrySearch

namespace Entries

variable {κ β : Type} [BEq κ] [LawfulBEq κ]

/-- A key that is not there is added behind the others. -/
theorem upsert_map_of_notMem (key : κ) (change : Option β → β) (value : κ → β) {keys : List κ}
    (missing : key ∉ keys) :
    upsert key change (keys.map fun k => (k, value k)) =
      (keys.map fun k => (k, value k)) ++ [(key, change none)] := by
  refine upsert_of_new (List.forall_mem_map.mpr fun k member => ?_) change
  exact beq_eq_false_iff_ne.mpr fun same => missing (same ▸ member)

/-- A key that is there keeps its place, and the values of other keys stay as they are. -/
theorem upsert_map_of_mem [DecidableEq κ] (key : κ) (change : Option β → β) (value : κ → β)
    {keys : List κ} (nodup : keys.Nodup) (present : key ∈ keys) :
    upsert key change (keys.map fun k => (k, value k)) =
      keys.map fun k => (k, if k = key then change (some (value k)) else value k) := by
  induction keys with
  | nil => exact absurd present List.not_mem_nil
  | cons k rest ih =>
      obtain ⟨fresh, nodup⟩ := List.nodup_cons.mp nodup
      by_cases same : k = key
      · subst same
        have untouched : ∀ other ∈ rest,
            (other, value other) =
              (other, if other = k then change (some (value other)) else value other) := by
          intro other member
          have distinct : other ≠ k := fun equal => fresh (equal ▸ member)
          rw [if_neg distinct]
        simpa [upsert] using untouched
      · have later : key ∈ rest := by simpa [Ne.symm same] using present
        simp [upsert, same, ih nodup later]

end Entries

namespace Parameters

/-- The texts given under a normal key, in order. -/
def valuesOf (key : String) (raw : Parameters) : List String :=
  raw.flatMap fun entry => if normalKey entry.1 = key then entry.2 else []

/-- The normal keys of all entries with a text, in order. -/
def givenKeys (raw : Parameters) : List String :=
  (raw.filter fun entry => !entry.2.isEmpty).map fun entry => normalKey entry.1

/-- The normal keys with a text, each once, in the order in which they first appear. -/
def firstKeys (raw : Parameters) : List String :=
  raw.givenKeys.eraseDups

theorem valuesOf_append (key : String) (left right : Parameters) :
    valuesOf key (left ++ right) = valuesOf key left ++ valuesOf key right := by
  simp [valuesOf]

theorem valuesOf_singleton (key : String) (entry : String × List String) :
    valuesOf key [entry] = if normalKey entry.1 = key then entry.2 else [] := by
  simp [valuesOf]

/-- A key is given a text by exactly the entries whose normal key it is and that have one. -/
theorem mem_givenKeys_iff {key : String} {raw : Parameters} :
    key ∈ raw.givenKeys ↔ valuesOf key raw ≠ [] := by
  simp only [givenKeys, valuesOf, List.mem_map, List.mem_filter, ne_eq, List.flatMap_eq_nil_iff,
    not_forall]
  constructor
  · rintro ⟨entry, ⟨member, filled⟩, rfl⟩
    refine ⟨entry, member, ?_⟩
    simpa using filled
  · rintro ⟨entry, member, filled⟩
    by_cases same : normalKey entry.1 = key
    · refine ⟨entry, ⟨member, ?_⟩, same⟩
      simpa [same] using filled
    · simp [same] at filled

theorem mem_firstKeys_iff {key : String} {raw : Parameters} :
    key ∈ raw.firstKeys ↔ valuesOf key raw ≠ [] := by
  rw [firstKeys, List.mem_eraseDups, mem_givenKeys_iff]

/-- Leaving out entries with other keys leaves the texts of a key as they are. -/
theorem valuesOf_filter (keep : String → Bool) {key : String} (kept : keep key = true)
    (raw : Parameters) :
    valuesOf key (raw.filter fun entry => keep (normalKey entry.1)) = valuesOf key raw := by
  induction raw with
  | nil => rfl
  | cons entry rest ih =>
      simp only [valuesOf] at ih
      by_cases here : keep (normalKey entry.1) = true
      · simp [valuesOf, here, ih]
      · have other : normalKey entry.1 ≠ key := fun same => here (same ▸ kept)
        simp [valuesOf, here, other, ih]

theorem givenKeys_filter (keep : String → Bool) (raw : Parameters) :
    givenKeys (raw.filter fun entry => keep (normalKey entry.1)) =
      raw.givenKeys.filter keep := by
  simp only [givenKeys, List.filter_filter, List.filter_map]
  congr 1
  exact List.filter_congr fun entry _ => Bool.and_comm ..

/-- A key that comes behind others is new, or it is there already. -/
theorem eraseDups_concat (keys : List String) (key : String) :
    (keys ++ [key]).eraseDups = if key ∈ keys then keys.eraseDups else keys.eraseDups ++ [key] := by
  rw [List.eraseDups_append]
  by_cases known : key ∈ keys
  · simp [known, List.removeAll]
  · simp [known, List.removeAll, List.eraseDups_cons]

theorem nodup_eraseDups (keys : List String) : keys.eraseDups.Nodup := by
  induction keys using List.reverseRecOn with
  | nil => exact List.nodup_nil
  | append_singleton keys key ih =>
      rw [eraseDups_concat]
      split
      · exact ih
      · rename_i fresh
        exact List.nodup_append'.mpr ⟨ih, List.nodup_singleton key, by simpa using fresh⟩

/-- The first key with a property is found whether or not keys are repeated. -/
theorem find?_eraseDups (test : String → Bool) (keys : List String) :
    keys.eraseDups.find? test = keys.find? test := by
  induction keys using List.reverseRecOn with
  | nil => rfl
  | append_singleton keys key ih =>
      rw [eraseDups_concat, List.find?_append]
      split
      · rename_i known
        rw [ih]
        cases found : keys.find? test with
        | some first => rfl
        | none =>
            have failed : ¬test key = true := List.find?_eq_none.mp found key known
            simp [failed]
      · rw [List.find?_append, ih]

theorem nodup_firstKeys (raw : Parameters) : raw.firstKeys.Nodup :=
  nodup_eraseDups _

/-- What one more entry does: without a text nothing, otherwise its texts are collected. -/
theorem normalize_concat (raw : Parameters) (entry : String × List String) :
    normalize (raw ++ [entry]) =
      if entry.2.isEmpty then raw.normalize
      else Entries.appendAt (normalKey entry.1) entry.2 raw.normalize := by
  simp [normalize, List.foldl_append]

theorem firstKeys_concat (raw : Parameters) (entry : String × List String) :
    firstKeys (raw ++ [entry]) =
      if entry.2.isEmpty ∨ normalKey entry.1 ∈ raw.firstKeys then raw.firstKeys
      else raw.firstKeys ++ [normalKey entry.1] := by
  by_cases blank : entry.2.isEmpty
  · simp [firstKeys, givenKeys, blank]
  · have keys_eq : givenKeys (raw ++ [entry]) = raw.givenKeys ++ [normalKey entry.1] := by
      simp [givenKeys, blank]
    simp [firstKeys, keys_eq, eraseDups_concat, blank]

/-- The closed form of normal parameters. -/
theorem normalize_eq (raw : Parameters) :
    raw.normalize = raw.firstKeys.map fun key => (key, valuesOf key raw) := by
  induction raw using List.reverseRecOn with
  | nil => rfl
  | append_singleton raw entry ih =>
      rw [normalize_concat, firstKeys_concat]
      by_cases blank : entry.2.isEmpty
      · have same : ∀ key, valuesOf key (raw ++ [entry]) = valuesOf key raw := by
          intro key
          simp [valuesOf_append, valuesOf_singleton, List.isEmpty_iff.mp blank]
        simp [blank, ih, same]
      · rw [if_neg blank, Entries.appendAt, ih]
        by_cases known : normalKey entry.1 ∈ firstKeys raw
        · rw [if_pos (.inr known), Entries.upsert_map_of_mem _ _ _ (nodup_firstKeys raw) known]
          refine List.map_congr_left fun key _ => ?_
          rw [valuesOf_append, valuesOf_singleton]
          by_cases same : key = normalKey entry.1
          · simp [same]
          · simp [same, Ne.symm same]
        · rw [if_neg (by simp [blank, known]), Entries.upsert_map_of_notMem _ _ _ known,
            List.map_append]
          congr 1
          · refine List.map_congr_left fun key member => ?_
            have other : normalKey entry.1 ≠ key := fun equal => known (equal ▸ member)
            rw [valuesOf_append, valuesOf_singleton, if_neg other, List.append_nil]
          · have new : valuesOf (normalKey entry.1) raw = [] := by
              simpa [mem_firstKeys_iff] using known
            simp [valuesOf_append, valuesOf_singleton, new]

end Parameters

end EntrySearch
