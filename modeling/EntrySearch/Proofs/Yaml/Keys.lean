import EntrySearch.Yaml.Document

/-!
# Keys of documents

A document without equal keys stands for a value without equal keys, wherever its parts occur.
-/

namespace EntrySearch.Yaml.Document

theorem isKeyed_valueTo {document : Document} (keyed : document.IsKeyed) (depth number : Nat) :
    (document.valueTo depth number).IsKeyed := by
  induction depth generalizing number with
  | zero =>
      rw [valueTo]
      cases document.part number with
      | scalar s => exact .scalar s
      | list items => exact .list (List.forall_mem_nil _)
      | object entries => exact .object List.Pairwise.nil (List.forall_mem_nil _)
  | succ depth ih =>
      rw [valueTo]
      cases here : document.part number with
      | scalar s => exact .scalar s
      | list items => exact .list (List.forall_mem_map.mpr fun item _ => ih item)
      | object entries =>
          exact .object (List.pairwise_map.mpr (keyed number entries here))
            (List.forall_mem_map.mpr fun entry _ => ih entry.2)

theorem isKeyed_value {document : Document} (keyed : document.IsKeyed) : document.value.IsKeyed :=
  isKeyed_valueTo keyed _ _

/-- What stands for an object is one. -/
theorem value_eq_object {document : Document} {entries : List (Scalar × Nat)}
    (outermost : document.part document.root = .object entries) :
    ∃ values, document.value = .object values := by
  rw [value, valueTo, outermost]
  exact ⟨_, rfl⟩

end EntrySearch.Yaml.Document
