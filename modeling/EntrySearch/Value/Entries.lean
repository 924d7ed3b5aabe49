/-!
# Entries in order of insertion

Lists of keys with values in which every key stands once, at the place where it was first put.
-/

namespace EntrySearch.Entries

variable {κ β : Type} [BEq κ]

/-- The value of a key. -/
def get? (key : κ) : List (κ × β) → Option β
  | [] => none
  | (k, value) :: rest => if k == key then some value else get? key rest

/-- Change the value of a key where it stands, or add the key at the end. -/
def upsert (key : κ) (change : Option β → β) : List (κ × β) → List (κ × β)
  | [] => [(key, change none)]
  | (k, value) :: rest =>
    if k == key then (k, change (some value)) :: rest else (k, value) :: upsert key change rest

/-- Set the value of a key. -/
def put (key : κ) (value : β) : List (κ × β) → List (κ × β) :=
  upsert key fun _ => value

/-- Put pairs one after another. -/
def ofPairs (pairs : List (κ × β)) : List (κ × β) :=
  pairs.foldl (fun entries pair => put pair.1 pair.2 entries) []

/-- Add values behind those that a key already has. -/
def appendAt {α : Type} (key : κ) (values : List α) : List (κ × List α) → List (κ × List α) :=
  upsert key fun old => old.getD [] ++ values

@[simp]
theorem get?_nil (key : κ) : get? key ([] : List (κ × β)) = none :=
  rfl

theorem get?_upsert_self [LawfulBEq κ] (key : κ) (change : Option β → β)
    (entries : List (κ × β)) :
    get? key (upsert key change entries) = some (change (get? key entries)) := by
  induction entries with
  | nil => simp [upsert, get?]
  | cons entry rest ih =>
    obtain ⟨k, value⟩ := entry
    by_cases same : k == key
    · simp [upsert, get?, same]
    · simp [upsert, get?, same, ih]

theorem get?_upsert_of_ne [LawfulBEq κ] {key other : κ} (distinct : other ≠ key)
    (change : Option β → β) (entries : List (κ × β)) :
    get? other (upsert key change entries) = get? other entries := by
  induction entries with
  | nil => simp [upsert, get?, Ne.symm distinct]
  | cons entry rest ih =>
    obtain ⟨k, value⟩ := entry
    by_cases same : k == key
    · have : k = key := by simpa using same
      subst this
      simp [upsert, get?, Ne.symm distinct]
    · simp [upsert, get?, same, ih]

/-- Entries with other keys are passed over. -/
theorem upsert_append {key : κ} {front : List (κ × β)}
    (others : ∀ entry ∈ front, (entry.1 == key) = false) (change : Option β → β)
    (back : List (κ × β)) :
    upsert key change (front ++ back) = front ++ upsert key change back := by
  induction front with
  | nil => rfl
  | cons entry rest ih =>
    obtain ⟨differs, later⟩ := List.forall_mem_cons.mp others
    rw [List.cons_append, upsert, if_neg (Bool.eq_false_iff.mp differs), ih later]
    rfl

/-- A new key comes last. -/
theorem upsert_of_new {key : κ} {entries : List (κ × β)}
    (others : ∀ entry ∈ entries, (entry.1 == key) = false) (change : Option β → β) :
    upsert key change entries = entries ++ [(key, change none)] := by
  have added := upsert_append others change []
  rwa [List.append_nil, upsert] at added

end EntrySearch.Entries
