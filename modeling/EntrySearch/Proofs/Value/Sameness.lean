import EntrySearch.Value.Basic
import Mathlib.Data.List.Nodup

/-!
# The same up to the order of entries

Two values say the same when they differ in nothing but the order of the entries of objects, to any
depth. Scalars are compared as keys are, so numbers count for what they are worth.
-/

namespace EntrySearch

mutual

/-- Whether two values say the same, whatever the order of the entries of objects. -/
def Value.same : Value → Value → Bool
  | .scalar s, .scalar t => s == t
  | .list items, .list others => sameItems items others
  | .object entries, .object others =>
    entries.length == others.length && sameEntries others entries
  | _, _ => false

/-- Whether two lists say the same item by item. -/
def sameItems : List Value → List Value → Bool
  | [], [] => true
  | item :: rest, other :: others => item.same other && sameItems rest others
  | _, _ => false

/-- Whether other entries have the same value for each key. -/
def sameEntries (others : List (Scalar × Value)) : List (Scalar × Value) → Bool
  | [] => true
  | (key, value) :: rest =>
    (match Entries.get? key others with
      | some other => value.same other
      | none => false) && sameEntries others rest

end

namespace Value

@[simp]
theorem same_text_iff {s t : String} : (text s).same (text t) = true ↔ s = t := by
  rw [same, Scalar.text_beq_text, beq_iff_eq]

@[simp]
theorem same_int_iff {m n : Int} : (int m).same (int n) = true ↔ m = n := by
  rw [same]
  exact beq_iff_eq (α := Int)

/-- Renderings are told apart item by item where they are told apart one by one. -/
theorem sameItems_map_iff {α : Type} {render : α → Value}
    (faithful : ∀ a b, (render a).same (render b) = true ↔ a = b) (items others : List α) :
    sameItems (items.map render) (others.map render) = true ↔ items = others := by
  induction items generalizing others with
  | nil => cases others <;> simp [sameItems]
  | cons item rest ih =>
      cases others with
      | nil => simp [sameItems]
      | cons other others => simp [sameItems, faithful, ih]

theorem get?_text_map (key : String) (fields : List (String × Value)) :
    Entries.get? (.text key) (fields.map fun field => (Scalar.text field.1, field.2)) =
      Entries.get? key fields := by
  induction fields with
  | nil => rfl
  | cons field rest ih => simp [Entries.get?, ih]

theorem sameEntries_text_iff {fields others : List (String × Value)} :
    sameEntries (others.map fun field => (Scalar.text field.1, field.2))
        (fields.map fun field => (Scalar.text field.1, field.2)) = true ↔
      ∀ field ∈ fields, ∃ other,
        Entries.get? field.1 others = some other ∧ field.2.same other = true := by
  induction fields with
  | nil => simp [sameEntries]
  | cons field rest ih =>
      rw [List.map_cons, sameEntries, Bool.and_eq_true, ih, List.forall_mem_cons, get?_text_map]
      cases Entries.get? field.1 others <;> simp

/-- A record with one field is told apart by the key and by the value. -/
theorem same_single_iff {key other : String} {value unlike : Value} :
    (record [(key, value)]).same (record [(other, unlike)]) = true ↔
      key = other ∧ value.same unlike = true := by
  by_cases equal : other = key
  · simp [record, same, sameEntries, Entries.get?, equal]
  · simp [record, same, sameEntries, Entries.get?, equal, Ne.symm equal]

/-- Records with the same fields are told apart field by field. -/
theorem same_record_iff {fields others : List (String × Value)}
    (keys : fields.map Prod.fst = others.map Prod.fst) (nodup : (fields.map Prod.fst).Nodup) :
    (record fields).same (record others) = true ↔
      sameItems (fields.map Prod.snd) (others.map Prod.snd) = true := by
  have count : fields.length = others.length := by
    simpa using congrArg List.length keys
  rw [record, record, same, List.length_map, List.length_map, count, beq_self_eq_true,
    Bool.true_and, sameEntries_text_iff]
  clear count
  induction fields generalizing others with
  | nil => simp [List.map_eq_nil_iff.mp keys.symm, sameItems]
  | cons field rest ih =>
      cases others with
      | nil => exact absurd keys (List.cons_ne_nil _ _)
      | cons other others =>
          obtain ⟨key, value⟩ := field
          obtain ⟨_, unlike⟩ := other
          obtain ⟨rfl, keys_rest⟩ := List.cons.inj keys
          obtain ⟨fresh, nodup⟩ := List.nodup_cons.mp nodup
          have later : ∀ field ∈ rest,
              Entries.get? field.1 ((key, unlike) :: others) = Entries.get? field.1 others := by
            intro field member
            have differs : key ≠ field.1 := fun equal =>
              fresh (List.mem_map.mpr ⟨field, member, equal.symm⟩)
            rw [Entries.get?, if_neg (by simpa using differs)]
          have here : Entries.get? key ((key, unlike) :: others) = some unlike := by
            rw [Entries.get?, if_pos (beq_self_eq_true key)]
          rw [List.forall_mem_cons, List.map_cons, List.map_cons, sameItems, Bool.and_eq_true, here]
          refine and_congr (by simp) (Iff.trans (forall₂_congr fun field member => ?_)
            (ih keys_rest nodup))
          rw [later field member]

example : (record [("gte", int 0), ("lte", int 1)]).same
    (record [("lte", int 1), ("gte", int 0)]) = true := by
  decide

end Value

end EntrySearch
