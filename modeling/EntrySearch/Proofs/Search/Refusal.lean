import EntrySearch.Proofs.Search.Compilation

/-!
# Refused parameters

Only the bounds of a time and the limit are ever refused, and the first key with a refused text
decides.
-/

namespace EntrySearch

open Outcome

/-- The keys of the bounds of a time. -/
def Parameters.boundKeys : List String :=
  ["start", "end"]

namespace Criteria

theorem refusalAt?_bound {key : String} (bound : key ∈ Parameters.boundKeys)
    (texts : List String) :
    refusalAt? (key, texts) =
      (texts.findSome? (Timestamp.malformed? key)).map .malformed := by
  obtain rfl | rfl : key = "start" ∨ key = "end" := by simpa [Parameters.boundKeys] using bound
  · rfl
  · rfl

/-- A bound is not refused if and only if none of its texts is. -/
theorem refusalAt?_bound_eq_none_iff {key : String} (bound : key ∈ Parameters.boundKeys)
    {texts : List String} :
    refusalAt? (key, texts) = none ↔ ∀ text ∈ texts, Timestamp.malformed? key text = none := by
  rw [refusalAt?_bound bound, Option.map_eq_none_iff, List.findSome?_eq_none_iff]

theorem refusalAt?_limit (texts : List String) :
    refusalAt? ("limit", texts) = (texts.head?.bind tooLong?).map .digits :=
  rfl

theorem refusalAt?_other {key : String} (unbound : key ∉ Parameters.boundKeys)
    (other : key ≠ "limit") (texts : List String) : refusalAt? (key, texts) = none := by
  rw [refusalAt?]
  cases known : Parameter.ofKey? key with
  | none => rfl
  | some parameter =>
      rw [Parameter.ofKey?_eq_some_iff_mem] at known
      cases parameter with
      | start | finish | limit =>
          simp_all [Parameter.keysOf, Parameter.keys, Parameters.boundKeys]
      | _ => rfl

/-- The first key with a refused text decides. -/
theorem refused?_eq (raw : Parameters) :
    refused? raw = raw.firstKeys.findSome? fun key => refusalAt? (key, raw.valuesOf key) := by
  rw [refused?, Parameters.normalize_eq, List.findSome?_map]
  rfl

/-- Every text for a bound of a time is a timestamp, if the parameters are not refused. -/
theorem malformed?_eq_none_of_not_refused {raw : Parameters} (accepted : refused? raw = none)
    {key : String} (bound : key ∈ Parameters.boundKeys) :
    ∀ text ∈ raw.valuesOf key, Timestamp.malformed? key text = none := by
  intro text given
  have known : key ∈ raw.firstKeys := Parameters.mem_firstKeys_iff.mpr (List.ne_nil_of_mem given)
  rw [refused?_eq, List.findSome?_eq_none_iff] at accepted
  exact (refusalAt?_bound_eq_none_iff bound).mp (accepted key known) text given

/-- Whatever is given for a bound of a time is read as a moment, if the parameters are not
refused. -/
theorem mapM_moment_of_not_refused (zone : Time.Zone) {raw : Parameters}
    (accepted : refused? raw = none) {key : String} (bound : key ∈ Parameters.boundKeys) :
    (raw.valuesOf key).mapM (Timestamp.moment zone key) =
      .ok (momentsOf zone (raw.valuesOf key)) := by
  have faultless := malformed?_eq_none_of_not_refused accepted bound
  rw [mapM_eq_barring, barring_eq_ok_iff]
  simp only [Timestamp.fault?_moment, Timestamp.toOption_moment]
  exact ⟨List.findSome?_eq_none_iff.mpr faultless, rfl⟩

end Criteria

end EntrySearch
