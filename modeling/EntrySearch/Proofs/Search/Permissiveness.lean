import EntrySearch.Proofs.Search.Refusal
import EntrySearch.Proofs.Search.TimestampText

/-!
# What is tolerated

Parameters are refused for the first text given for a bound of a time that is no timestamp. The one
exception is a limit that is too long to be read: where it comes before such a text, or where there
is no such text, it is refused itself.
-/

namespace EntrySearch

open Outcome

namespace Decimal

/-- A text is a whole number, with or without a sign, that has more digits than are read. -/
def Overflows (text : String) : Prop :=
  ∃ sign ∈ [[], ['-'], ['+']], ∃ ds : List Char, text.toList = sign ++ ds ∧
    (∀ c ∈ ds, c.isDigit = true) ∧ digitLimit < ds.length

/-- A sign is split off whatever it is. -/
theorem exists_sign_splitSign (cs : List Char) :
    ∃ sign ∈ [[], ['-'], ['+']], cs = sign ++ (splitSign cs).2 := by
  unfold splitSign
  split
  · exact ⟨['-'], by simp, rfl⟩
  · exact ⟨['+'], by simp, rfl⟩
  · exact ⟨[], by simp, rfl⟩

theorem splitSign_append {sign ds : List Char} (signed : sign ∈ [[], ['-'], ['+']])
    (digits : ∀ c ∈ ds, c.isDigit = true) :
    splitSign (sign ++ ds) = (decide (sign = ['-']), ds) := by
  obtain rfl | rfl | rfl : sign = [] ∨ sign = ['-'] ∨ sign = ['+'] := by simpa using signed
  · unfold splitSign
    split
    · exact absurd (digits '-' (by simp_all)) (by decide)
    · exact absurd (digits '+' (by simp_all)) (by decide)
    · rfl
  · rfl
  · rfl

theorem isSignedDigits_iff {cs : List Char} :
    isSignedDigits cs = true ↔
      (splitSign cs).2 ≠ [] ∧ ∀ c ∈ (splitSign cs).2, c.isDigit = true := by
  simp [isSignedDigits]

theorem fault?_readInteger (cs : List Char) :
    fault? (readInteger cs) =
      if digitLimit < (splitSign cs).2.length then some ⟨(splitSign cs).2.length⟩ else none := by
  unfold readInteger
  obtain ⟨negative, ds⟩ := splitSign cs
  by_cases long : digitLimit < ds.length <;> simp [long]

end Decimal

namespace Criteria

theorem exists_tooLong?_iff {text : String} :
    (∃ fault, tooLong? text = some fault) ↔ Decimal.Overflows text := by
  unfold tooLong? Decimal.Overflows
  rw [Decimal.fault?_readInteger]
  constructor
  · rintro ⟨fault, refused⟩
    rw [Option.ite_none_right_eq_some, Option.ite_none_right_eq_some,
      Decimal.isSignedDigits_iff] at refused
    obtain ⟨⟨_, digits⟩, long, _⟩ := refused
    obtain ⟨sign, signed, split_eq⟩ := Decimal.exists_sign_splitSign text.toList
    exact ⟨sign, signed, _, split_eq, digits, long⟩
  · rintro ⟨sign, signed, ds, text_eq, digits, long⟩
    have filled : ds ≠ [] := by
      rintro rfl
      exact absurd long (by decide)
    have shaped : Decimal.isSignedDigits text.toList = true := by
      rw [Decimal.isSignedDigits_iff, text_eq, Decimal.splitSign_append signed digits]
      exact ⟨filled, digits⟩
    rw [if_pos shaped, text_eq, Decimal.splitSign_append signed digits, if_pos long]
    exact ⟨_, rfl⟩

end Criteria

namespace Timestamp

theorem malformed?_eq_none_iff {key text : String} :
    malformed? key text = none ↔ IsTimestamp text := by
  rw [← exists_read_eq_ok_iff, malformed?]
  cases read text <;> simp

theorem eq_of_malformed?_eq_some {key text : String} {fault : Malformed}
    (refused : malformed? key text = some fault) : fault.key = key ∧ fault.value = text := by
  rw [malformed?, Option.map_eq_some_iff] at refused
  obtain ⟨reason, _, rfl⟩ := refused
  exact ⟨rfl, rfl⟩

end Timestamp

namespace Parameters

/-- Whatever is given for a bound of a time under some keys is a timestamp. -/
def Timely (raw : Parameters) (keys : List String) : Prop :=
  ∀ key ∈ keys, key ∈ boundKeys → ∀ text ∈ raw.valuesOf key, Timestamp.IsTimestamp text

/-- A text is given for a bound of a time, is no timestamp, and comes first among these texts: the
keys are in the order in which they first appear, and the texts of a key in the order in which they
are given. -/
def FirstUntimely (raw : Parameters) (key text : String) : Prop :=
  key ∈ boundKeys ∧ ¬Timestamp.IsTimestamp text ∧
    (∃ before after, raw.firstKeys = before ++ key :: after ∧ raw.Timely before) ∧
    ∃ before after, raw.valuesOf key = before ++ text :: after ∧
      ∀ earlier ∈ before, Timestamp.IsTimestamp earlier

/-- The limit that counts is too long to be read, and comes before all texts that are given for a
bound of a time and are no timestamps. -/
def LimitFirst (raw : Parameters) : Prop :=
  (∃ text ∈ (raw.valuesOf "limit").head?, Decimal.Overflows text) ∧
    ∃ before after, raw.firstKeys = before ++ "limit" :: after ∧ raw.Timely before

/-- An outcome is a fault if and only if some text for a bound of a time is no timestamp, and the
fault tells the first one. -/
def RefusedForTimestamps {α : Type} (raw : Parameters) (outcome : Except SearchFault α) : Prop :=
  ((∃ fault, outcome = .error fault) ↔
      ∃ key ∈ boundKeys, ∃ text ∈ raw.valuesOf key, ¬Timestamp.IsTimestamp text) ∧
    ∀ fault, outcome = .error fault →
      ∃ malformed, fault = .malformed malformed ∧ raw.FirstUntimely malformed.key malformed.value

end Parameters

namespace Criteria

variable {raw : Parameters}

theorem refusalAt?_bound_eq_some {key : String} (bound : key ∈ Parameters.boundKeys)
    {texts : List String} {fault : SearchFault} (refused : refusalAt? (key, texts) = some fault) :
    ∃ malformed, fault = .malformed malformed ∧ malformed.key = key ∧
      ¬Timestamp.IsTimestamp malformed.value ∧
      ∃ before after, texts = before ++ malformed.value :: after ∧
        ∀ earlier ∈ before, Timestamp.IsTimestamp earlier := by
  rw [refusalAt?_bound bound, Option.map_eq_some_iff] at refused
  obtain ⟨malformed, found, rfl⟩ := refused
  obtain ⟨before, text, after, texts_eq, at_text, earlier⟩ := List.findSome?_eq_some_iff.mp found
  obtain ⟨key_eq, rfl⟩ := Timestamp.eq_of_malformed?_eq_some at_text
  have untimely : ¬Timestamp.IsTimestamp malformed.value := by
    rw [← Timestamp.malformed?_eq_none_iff, at_text]
    exact Option.some_ne_none malformed
  exact ⟨malformed, rfl, key_eq, untimely, before, after, texts_eq, fun text member =>
    Timestamp.malformed?_eq_none_iff.mp (earlier text member)⟩

theorem timely_of_refusalAt?_eq_none {keys : List String}
    (quiet : ∀ key ∈ keys, refusalAt? (key, raw.valuesOf key) = none) : raw.Timely keys := by
  intro key member bound text given
  have faultless := (refusalAt?_bound_eq_none_iff bound).mp (quiet key member)
  exact Timestamp.malformed?_eq_none_iff.mp (faultless text given)

theorem refusalAt?_eq_none_of_timely {keys : List String} (timely : raw.Timely keys)
    (unlimited : "limit" ∉ keys) :
    ∀ key ∈ keys, refusalAt? (key, raw.valuesOf key) = none := by
  intro key member
  by_cases bound : key ∈ Parameters.boundKeys
  · refine (refusalAt?_bound_eq_none_iff bound).mpr fun text given => ?_
    exact Timestamp.malformed?_eq_none_iff.mpr (timely key member bound text given)
  · exact refusalAt?_other bound (fun same => unlimited (same ▸ member)) _

theorem refused?_cases {fault : SearchFault} (refused : refused? raw = some fault) :
    (∃ malformed, fault = .malformed malformed ∧
        raw.FirstUntimely malformed.key malformed.value) ∨
      ((∃ digits, fault = .digits digits) ∧ raw.LimitFirst) := by
  rw [refused?_eq] at refused
  obtain ⟨before, key, after, keys_eq, at_key, quiet⟩ := List.findSome?_eq_some_iff.mp refused
  have timely := timely_of_refusalAt?_eq_none quiet
  by_cases bound : key ∈ Parameters.boundKeys
  · obtain ⟨malformed, rfl, rfl, untimely, first⟩ := refusalAt?_bound_eq_some bound at_key
    exact .inl ⟨malformed, rfl, bound, untimely, ⟨before, after, keys_eq, timely⟩, first⟩
  · by_cases limit : key = "limit"
    · subst limit
      rw [refusalAt?_limit, Option.map_eq_some_iff] at at_key
      obtain ⟨digits, at_head, rfl⟩ := at_key
      obtain ⟨text, is_head, long⟩ := Option.bind_eq_some_iff.mp at_head
      exact .inr ⟨⟨digits, rfl⟩, ⟨text, is_head, exists_tooLong?_iff.mp ⟨digits, long⟩⟩,
        before, after, keys_eq, timely⟩
    · rw [refusalAt?_other bound limit] at at_key
      contradiction

/-- A limit that comes before all untimely texts is refused if it is too long. -/
theorem refused?_of_limitFirst (first : raw.LimitFirst) :
    ∃ digits, refused? raw = some (.digits digits) := by
  obtain ⟨⟨text, is_head, overflows⟩, before, after, keys_eq, timely⟩ := first
  obtain ⟨digits, long⟩ := exists_tooLong?_iff.mpr overflows
  have unlimited : "limit" ∉ before := by
    have nodup := raw.nodup_firstKeys
    rw [keys_eq] at nodup
    exact fun member => (List.nodup_append.mp nodup).2.2 _ member _ List.mem_cons_self rfl
  have at_limit : refusalAt? ("limit", raw.valuesOf "limit") = some (.digits digits) := by
    rw [refusalAt?_limit, Option.mem_def.mp is_head, Option.bind_some, long, Option.map_some]
  refine ⟨digits, ?_⟩
  rw [refused?_eq, List.findSome?_eq_some_iff]
  exact ⟨before, "limit", after, keys_eq, at_limit, refusalAt?_eq_none_of_timely timely unlimited⟩

theorem exists_refused?_of_untimely {key text : String} (bound : key ∈ Parameters.boundKeys)
    (given : text ∈ raw.valuesOf key) (untimely : ¬Timestamp.IsTimestamp text) :
    ∃ fault, refused? raw = some fault := by
  cases refused : refused? raw with
  | some fault => exact ⟨fault, rfl⟩
  | none =>
      have faultless := malformed?_eq_none_of_not_refused refused bound text given
      exact absurd (Timestamp.malformed?_eq_none_iff.mp faultless) untimely

theorem exists_untimely_of_firstUntimely {key text : String}
    (first : raw.FirstUntimely key text) :
    ∃ key ∈ Parameters.boundKeys, ∃ text ∈ raw.valuesOf key, ¬Timestamp.IsTimestamp text := by
  obtain ⟨bound, untimely, _, before, after, values_eq, _⟩ := first
  exact ⟨key, bound, text, by simp [values_eq], untimely⟩

end Criteria

/-- Compilation refuses parameters for nothing but the first untimely text exactly when no limit
that is too long to be read comes first; when one does, it is the limit that is refused. -/
theorem Policy.refusedForTimestamps_iff (policy : Policy) (zone : Time.Zone) (now : Present)
    (given : GivenParameters) :
    let outcome := (policy.compileRaw zone (now.resolve zone) given.toRaw).outcome
    (given.texts.RefusedForTimestamps outcome ↔ ¬given.texts.LimitFirst) ∧
      ((∃ digits, outcome = .error (.digits digits)) ↔ given.texts.LimitFirst) := by
  intro outcome
  have error_iff : ∀ fault,
      outcome = .error fault ↔ Criteria.refused? given.texts = some fault := by
    intro fault
    rw [← barring_eq_error_iff, ← Policy.outcome_compile, ← GivenParameters.compileRaw_toRaw]
  simp only [Parameters.RefusedForTimestamps, error_iff]
  refine ⟨⟨?_, ?_⟩, ⟨?_, Criteria.refused?_of_limitFirst⟩⟩
  · rintro ⟨_, timestamps⟩ first
    obtain ⟨digits, refused⟩ := Criteria.refused?_of_limitFirst first
    obtain ⟨malformed, fault_eq, _⟩ := timestamps _ refused
    exact SearchFault.noConfusion fault_eq
  · intro unlimited
    have timestamps : ∀ fault, Criteria.refused? given.texts = some fault →
        ∃ malformed, fault = .malformed malformed ∧
          given.texts.FirstUntimely malformed.key malformed.value := fun fault refused =>
      (Criteria.refused?_cases refused).resolve_right fun limited => unlimited limited.2
    refine ⟨⟨?_, ?_⟩, timestamps⟩
    · rintro ⟨fault, refused⟩
      obtain ⟨malformed, _, first⟩ := timestamps fault refused
      exact Criteria.exists_untimely_of_firstUntimely first
    · rintro ⟨key, bound, text, member, untimely⟩
      exact Criteria.exists_refused?_of_untimely bound member untimely
  · rintro ⟨digits, refused⟩
    obtain ⟨malformed, fault_eq, _⟩ | ⟨_, first⟩ := Criteria.refused?_cases refused
    · exact SearchFault.noConfusion fault_eq
    · exact first

/-- A limit of one more digit than are read, and nothing else. -/
def longLimit : GivenParameters :=
  [("limit", .text (String.ofList (List.replicate (Decimal.digitLimit + 1) '1')))]

theorem Policy.not_refusedForTimestamps_longLimit :
    ¬longLimit.texts.RefusedForTimestamps
      (({} : Policy).compileRaw .utc Time.Moment.epoch longLimit.toRaw).outcome := by
  have digits : ∀ c ∈ List.replicate (Decimal.digitLimit + 1) '1', c.isDigit = true := by
    intro c member
    rw [List.eq_of_mem_replicate member]
    rfl
  have long : Decimal.digitLimit < (List.replicate (Decimal.digitLimit + 1) '1').length := by
    rw [List.length_replicate]
    exact Nat.lt_succ_self _
  have first : longLimit.texts.LimitFirst :=
    ⟨⟨_, rfl, [], List.mem_cons_self, _, String.toList_ofList, digits, long⟩, [], [], rfl,
      fun _ member => absurd member List.not_mem_nil⟩
  obtain ⟨digits, refused⟩ := Criteria.refused?_of_limitFirst first
  rintro ⟨_, timestamps⟩
  obtain ⟨malformed, fault_eq, _⟩ := timestamps (.digits digits) (by
    rw [GivenParameters.compileRaw_toRaw, Policy.outcome_compile, refused, barring_some])
  exact SearchFault.noConfusion fault_eq

end EntrySearch
