import EntrySearch.Proofs.Search.Arguments
import EntrySearch.Proofs.Search.Gathering
import EntrySearch.Proofs.Text.WordEnds

/-!
# Normal parameters are normal

Normal parameters hold all texts of the parameters that they are made of, each under its normal key.
They are their own normal form, and so they are compiled like the parameters themselves.
-/

namespace EntrySearch

theorem Entries.flatMap_appendAt_perm {κ α : Type} [BEq κ] (key : κ) (values : List α)
    (entries : List (κ × List α)) :
    ((appendAt key values entries).flatMap Prod.snd).Perm (entries.flatMap Prod.snd ++ values) := by
  induction entries with
  | nil => exact .of_eq (List.append_nil values)
  | cons entry rest ih =>
      obtain ⟨k, old⟩ := entry
      rw [List.flatMap_cons, List.append_assoc, appendAt, upsert]
      split
      · rw [List.flatMap_cons, List.append_assoc]
        exact List.perm_append_comm.append_left old
      · rw [List.flatMap_cons]
        exact ih.append_left old

namespace Parameters

theorem normalKey_normalKey (key : String) : normalKey (normalKey key) = normalKey key := by
  rw [normalKey, normalKey, String.toList_ofList, ← Text.lower_trim (Text.trim key.toList),
    Text.trim_trim, Text.lower_lower]

/-- Parameters as they are once collected: normal keys, none of them twice, each with a text. -/
structure IsNormal (parameters : Parameters) : Prop where
  /-- No key stands twice. -/
  nodup : (parameters.map Prod.fst).Nodup
  /-- Every key is normal. -/
  keys : ∀ entry ∈ parameters, normalKey entry.1 = entry.1
  /-- Every key has a text. -/
  filled : ∀ entry ∈ parameters, entry.2 ≠ []

theorem isNormal_normalize (raw : Parameters) : raw.normalize.IsNormal := by
  refine ⟨nodup_normalize raw, fun entry member => ?_, filled_normalize raw⟩
  rw [normalize_eq] at member
  obtain ⟨key, known, rfl⟩ := List.mem_map.mp member
  obtain ⟨given, _, rfl⟩ := List.mem_map.mp (List.mem_eraseDups.mp known)
  exact normalKey_normalKey given.1

/-- Normal parameters are left as they are: every key is new where it stands. -/
theorem IsNormal.normalize_eq_self {parameters : Parameters} (normal : parameters.IsNormal) :
    parameters.normalize = parameters := by
  induction parameters using List.reverseRecOn with
  | nil => rfl
  | append_singleton parameters entry ih =>
      obtain ⟨nodup, keys, filled⟩ := normal
      rw [List.map_append, List.nodup_append'] at nodup
      obtain ⟨before_keys, key_normal⟩ := List.forall_mem_append.mp keys
      obtain ⟨before_filled, entry_filled⟩ := List.forall_mem_append.mp filled
      have before : IsNormal parameters := ⟨nodup.1, before_keys, before_filled⟩
      have nonempty : ¬entry.2.isEmpty = true := by simpa using entry_filled
      have others : ∀ other ∈ parameters, (other.1 == entry.1) = false := by
        intro other member
        rw [beq_eq_false_iff_ne]
        intro same
        exact nodup.2.2 (List.mem_map_of_mem member) (by simp [same])
      rw [normalize_concat, if_neg nonempty, key_normal entry (List.mem_singleton_self entry),
        ih before, Entries.appendAt, Entries.upsert_of_new others]
      rfl

theorem normalize_normalize (raw : Parameters) : raw.normalize.normalize = raw.normalize :=
  (isNormal_normalize raw).normalize_eq_self

theorem flatMap_normalize_perm (raw : Parameters) :
    (raw.normalize.flatMap Prod.snd).Perm (raw.flatMap Prod.snd) := by
  induction raw using List.reverseRecOn with
  | nil => exact .refl _
  | append_singleton raw entry ih =>
      rw [normalize_concat, List.flatMap_append, List.flatMap_singleton]
      split
      · rename_i empty
        rw [List.isEmpty_iff.mp empty, List.append_nil]
        exact ih
      · exact (Entries.flatMap_appendAt_perm _ _ _).trans (ih.append_right entry.2)

/-- Parameters collected under normal keys. -/
structure Collects (raw normal : Parameters) : Prop where
  /-- The keys are the normal keys of the entries with a text, in the order of first appearance. -/
  keys : normal.map Prod.fst = raw.givenKeys.eraseDups
  /-- No key stands twice. -/
  nodup : (normal.map Prod.fst).Nodup
  /-- A key has a text, and has all texts given under it in order. -/
  texts : ∀ entry ∈ normal, entry.2 ≠ [] ∧ entry.2 = raw.valuesOf entry.1
  /-- There are as many texts as before, and the same ones. -/
  perm : (normal.flatMap Prod.snd).Perm (raw.flatMap Prod.snd)

theorem collects_normalize (raw : Parameters) : raw.Collects raw.normalize := by
  refine ⟨?_, nodup_normalize raw, fun entry member => ?_, flatMap_normalize_perm raw⟩
  · exact keys_normalize raw
  · refine ⟨filled_normalize raw entry member, ?_⟩
    rw [normalize_eq] at member
    obtain ⟨key, _, rfl⟩ := List.mem_map.mp member
    rfl

example :
    normalize
        [("limit", []), (" Tags", ["a"]), ("owner", ["b"]), ("TAGS", ["c"]), ("Limit", ["5"])] =
      [("tags", ["a", "c"]), ("owner", ["b"]), ("limit", ["5"])] := by
  decide +kernel

end Parameters

/-- Parameters whose values are lists of texts, as they may be given. -/
def GivenParameters.ofTexts (parameters : Parameters) : GivenParameters :=
  parameters.map fun entry => (entry.1, .list entry.2)

theorem GivenParameters.texts_ofTexts (parameters : Parameters) :
    (ofTexts parameters).texts = parameters := by
  rw [ofTexts, texts, List.map_map]
  exact List.map_id parameters

theorem Policy.compile_normalize (policy : Policy) (zone : Time.Zone) (now : Time.Moment)
    (raw : Parameters) : policy.compile zone now raw.normalize = policy.compile zone now raw := by
  rw [compile, compile, Criteria.gather, Criteria.gather, Parameters.normalize_normalize]

/-- Collecting parameters under normal keys conserves them: all texts are there under the keys that
they belong to, collecting them again changes nothing, and they are compiled to the same request, or
refused for the same fault, with the same records. -/
theorem Parameters.normalize_conserves (given : GivenParameters) :
    let normal := given.texts.normalize
    given.texts.Collects normal ∧ normal.normalize = normal ∧
      ∀ (policy : Policy) (zone : Time.Zone) (now : Present),
        policy.compileRaw zone (now.resolve zone) (GivenParameters.ofTexts normal).toRaw =
          policy.compileRaw zone (now.resolve zone) given.toRaw := by
  intro normal
  refine ⟨collects_normalize given.texts, normalize_normalize given.texts, ?_⟩
  intro policy zone now
  rw [GivenParameters.compileRaw_toRaw, GivenParameters.compileRaw_toRaw,
    GivenParameters.texts_ofTexts]
  exact policy.compile_normalize zone _ given.texts

end EntrySearch
