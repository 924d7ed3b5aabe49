import EntrySearch.Json.Reader
import EntrySearch.Json.Writer
import EntrySearch.Proofs.Decimal.Padding
import EntrySearch.Proofs.Outcome
import EntrySearch.Proofs.Value.Overlay

/-!
# What is read as JSON

What is read as JSON has texts as keys, each of them once in an object, no days and no whole numbers
that are too long to be written. So it can be written again.
-/

namespace EntrySearch

open Outcome

namespace Json

theorem areWritable_iff {items : List Value} :
    areWritable items = true ↔ ∀ item ∈ items, isWritable item = true := by
  induction items with
  | nil => simp [areWritable]
  | cons item rest ih => simp [areWritable, ih]

/-- An entry whose key and value can be written. -/
def IsWritableEntry (entry : Scalar × Value) : Prop :=
  isWritableScalar entry.1 = true ∧ isWritable entry.2 = true

theorem haveWritable_iff {entries : List (Scalar × Value)} :
    haveWritable entries = true ↔ ∀ entry ∈ entries, IsWritableEntry entry := by
  induction entries with
  | nil => simp [haveWritable]
  | cons entry rest ih => simp [haveWritable, IsWritableEntry, ih]

/-- Pairs that can be written can be written as entries, whichever of them share a key. -/
theorem isWritable_ofPairs {pairs : List (Scalar × Value)}
    (written : ∀ pair ∈ pairs, IsWritableEntry pair) :
    isWritable (.object (Entries.ofPairs pairs)) = true := by
  refine haveWritable_iff.mpr fun entry member => ?_
  obtain ⟨key, value⟩ := Entries.mem_ofPairs member
  obtain ⟨first, first_mem, key_eq⟩ := List.mem_map.mp key
  obtain ⟨second, second_mem, value_eq⟩ := List.mem_map.mp value
  exact ⟨key_eq ▸ (written first first_mem).1, value_eq ▸ (written second second_mem).2⟩

theorem isWritable_signed_ofDigits (negative : Bool) {ds : List Char}
    (digits : ∀ c ∈ ds, c.isDigit = true) (short : ds.length ≤ Decimal.digitLimit) :
    Decimal.isWritable (Decimal.signed negative (Decimal.ofDigits ds)) = true := by
  have small : Decimal.ofDigits ds < 10 ^ Decimal.digitLimit :=
    Nat.lt_of_lt_of_le (Decimal.ofDigits_lt digits) (Nat.pow_le_pow_right (by decide) short)
  rw [Decimal.isWritable, Decimal.natAbs_signed, decide_eq_true_iff]
  exact (Nat.length_toDigits_le_iff (by decide) (by decide)).mpr small

theorem isDigit_of_mem_takeWhole (cs : List Char) :
    ∀ c ∈ (takeWhole cs).1, c.isDigit = true := by
  unfold takeWhole
  split
  · exact List.forall_mem_singleton.mpr rfl
  · exact fun c => List.all_eq_true.mp List.all_takeWhile c

/-- A scalar as JSON has it. -/
def IsJsonScalar : Scalar → Prop
  | .int n => Decimal.isWritable n = true
  | .date _ => False
  | _ => True

/-- A value as JSON has it. -/
inductive IsJson : Value → Prop where
  /-- A value without parts. -/
  | scalar {s : Scalar} : IsJsonScalar s → IsJson (.scalar s)
  /-- A list of such values. -/
  | list {items : List Value} : (∀ item ∈ items, IsJson item) → IsJson (.list items)
  /-- An object with different texts as keys and such values. -/
  | object {entries : List (Scalar × Value)} : Entries.Distinct entries →
      (∀ entry ∈ entries, ∃ s, entry.1 = .text s) → (∀ entry ∈ entries, IsJson entry.2) →
      IsJson (.object entries)

theorem IsJsonScalar.isWritableScalar {s : Scalar} (known : IsJsonScalar s) :
    isWritableScalar s = true := by
  cases s with
  | int n => exact known
  | null | bool | float | text | date => rfl

/-- A value as JSON has it can be written. -/
theorem IsJson.isWritable {value : Value} (known : IsJson value) : isWritable value = true := by
  induction known with
  | scalar known => exact known.isWritableScalar
  | list _ ih => exact areWritable_iff.mpr ih
  | object _ keys _ ih =>
      refine haveWritable_iff.mpr fun entry member => ⟨?_, ih entry member⟩
      obtain ⟨s, key_eq⟩ := keys entry member
      rw [key_eq]
      rfl

/-- An entry as JSON has it. -/
def IsJsonEntry (entry : Scalar × Value) : Prop :=
  (∃ s, entry.1 = .text s) ∧ IsJson entry.2

/-- Entries with texts as keys make an object as JSON has it, whichever of them share a key. -/
theorem isJson_ofPairs {pairs : List (Scalar × Value)} (known : ∀ pair ∈ pairs, IsJsonEntry pair) :
    IsJson (.object (Entries.ofPairs pairs)) := by
  refine .object (Entries.distinct_ofPairs pairs) (fun entry member => ?_) fun entry member => ?_
  · obtain ⟨first, first_mem, key_eq⟩ := List.mem_map.mp (Entries.mem_ofPairs member).1
    exact key_eq ▸ (known first first_mem).1
  · obtain ⟨second, second_mem, value_eq⟩ := List.mem_map.mp (Entries.mem_ofPairs member).2
    exact value_eq ▸ (known second second_mem).2

/-- A record is an object as JSON has it, if its keys are different and its values are as JSON has
them. -/
theorem isJson_record {fields : List (String × Value)} (distinct : (fields.map Prod.fst).Nodup)
    (known : ∀ field ∈ fields, IsJson field.2) : IsJson (.record fields) := by
  refine .object ?_ ?_ ?_
  · refine List.pairwise_map.mpr ((List.pairwise_map.mp distinct).imp fun differ => ?_)
    rw [Scalar.text_beq_text]
    exact beq_eq_false_iff_ne.mpr differ
  · exact List.forall_mem_map.mpr fun field _ => ⟨field.1, rfl⟩
  · exact List.forall_mem_map.mpr known

/-- The value that is read is one as JSON has it. -/
abbrev ReadsJson {α : Type} : Except Fault (Value × α) → Prop :=
  Yields fun read => IsJson read.1

theorem readNumber_isJson (cs : List Char) :
    ReadsJson (readNumber (some Decimal.digitLimit) cs) := by
  unfold readNumber
  dsimp only
  generalize (if cs.head? = some '-' then cs.drop 1 else cs) = unsigned
  split
  · exact yields_error _
  · split
    · split
      · exact yields_error _
      · rename_i short
        exact yields_ok (.scalar (isWritable_signed_ofDigits _ (isDigit_of_mem_takeWhole _)
          (Nat.le_of_not_lt (mt exceeds_some_iff.mpr short))))
    · exact yields_ok (.scalar trivial)

theorem readScalar_isJson (cs : List Char) :
    ReadsJson (readScalar (some Decimal.digitLimit) cs) := by
  have named : ∀ name ∈ names, IsJson name.2 := by
    have plain {s : Scalar} (known : IsJsonScalar s) : IsJson (.scalar s) := .scalar known
    simp only [names, List.forall_mem_cons]
    exact ⟨plain trivial, plain trivial, plain trivial, plain trivial, plain trivial,
      plain trivial, List.forall_mem_nil _⟩
  unfold readScalar
  split
  · rename_i name found
    exact yields_ok (named name (List.mem_of_find?_eq_some found))
  · exact readNumber_isJson cs

theorem reads_isJson (fuel : Nat) :
    (∀ cs, ReadsJson (readValue (some Decimal.digitLimit) fuel cs)) ∧
      (∀ cs, Yields (fun read => ∀ item ∈ read.1, IsJson item)
        (readItems (some Decimal.digitLimit) fuel cs)) ∧
      ∀ cs, Yields (fun read => ∀ pair ∈ read.1, IsJsonEntry pair)
        (readPairs (some Decimal.digitLimit) fuel cs) := by
  induction fuel with
  | zero => exact ⟨fun _ => yields_error _, fun _ => yields_error _, fun _ => yields_error _⟩
  | succ fuel ih =>
      obtain ⟨value, items, pairs⟩ := ih
      refine ⟨fun cs => ?_, fun cs => ?_, fun cs => ?_⟩
      · unfold readValue
        split
        · exact Yields.bind (fun _ _ => trivial) fun _ _ => yields_ok (.scalar trivial)
        · split
          · exact yields_ok (.list (List.forall_mem_nil _))
          · exact (items _).bind fun _ fine => yields_ok (.list fine)
        · split
          · exact yields_ok (isJson_ofPairs (List.forall_mem_nil _))
          · exact (pairs _).bind fun _ fine => yields_ok (isJson_ofPairs fine)
        · exact readScalar_isJson _
      · unfold readItems
        refine (value cs).bind fun ⟨item, rest⟩ fine => ?_
        dsimp only
        split
        · refine yields_ok ?_
          exact List.forall_mem_singleton.mpr fine
        · refine (items _).bind fun _ later => yields_ok ?_
          exact List.forall_mem_cons.mpr ⟨fine, later⟩
        · exact yields_error _
      · unfold readPairs
        split
        · refine Yields.bind (fun _ _ => trivial) fun ⟨key, rest⟩ _ => ?_
          dsimp only
          split
          · refine (value _).bind fun ⟨inner, rest⟩ fine => ?_
            dsimp only
            split
            · refine yields_ok ?_
              exact List.forall_mem_singleton.mpr ⟨⟨key, rfl⟩, fine⟩
            · refine (pairs _).bind fun _ later => yields_ok ?_
              exact List.forall_mem_cons.mpr ⟨⟨⟨key, rfl⟩, fine⟩, later⟩
            · exact yields_error _
          · exact yields_error _
        · exact yields_error _

/-- What is read is a value as JSON has it. -/
theorem readChars_isJson (cs : List Char) : Yields IsJson (readChars cs) := by
  refine ((reads_isJson _).1 _).bind fun ⟨value, rest⟩ fine => ?_
  dsimp only
  split
  · exact yields_ok fine
  · exact yields_error _

end Json

namespace Value

theorem isWritable_of_field? {value inner : Value} {key : String}
    (written : value.isWritable = true) (found : value.field? key = some inner) :
    inner.isWritable = true := by
  cases value with
  | object entries =>
      obtain ⟨entry, member, rfl⟩ := List.mem_map.mp (Entries.mem_snd_of_get? found)
      exact (Json.haveWritable_iff.mp written entry member).2
  | scalar s => exact nomatch found
  | list items => exact nomatch found

theorem isWritable_getD_field? {value otherwise : Value} (key : String)
    (written : value.isWritable = true) (fine : otherwise.isWritable = true) :
    ((value.field? key).getD otherwise).isWritable = true := by
  cases found : value.field? key with
  | none => exact fine
  | some inner => exact isWritable_of_field? written found

end Value

end EntrySearch
