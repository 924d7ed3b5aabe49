import EntrySearch.Value.Overlay

/-!
# Looking into overlays

A text key of an object laid over another has the value of the upper object laid over that of the
lower one, or the one value that there is. In the upper object no key may stand twice. An object
that is laid over nothing or over itself stays as it is, to any depth and with its keys in order.
-/

namespace EntrySearch

theorem Scalar.beq_text_iff {key : Scalar} {s : String} :
    (key == .text s) = true ↔ key = .text s := by
  cases key with
  | text t => simp
  | float x =>
      have differs : (Scalar.float x == .text s) = false := by
        simp only [BEq.beq, Scalar.same]
        cases (Scalar.float x).integer? <;> rfl
      rw [differs]
      exact ⟨fun same => Bool.noConfusion same, fun equal => Scalar.noConfusion equal⟩
  | null | bool | int | date =>
      exact ⟨fun same => Bool.noConfusion same, fun equal => Scalar.noConfusion equal⟩

theorem Scalar.text_beq_iff {key : Scalar} {s : String} :
    (.text s == key) = true ↔ key = .text s := by
  cases key with
  | text t => rw [Scalar.text_beq_text, beq_iff_eq, Scalar.text.injEq, eq_comm]
  | null | bool | int | float | date =>
      exact ⟨fun same => Bool.noConfusion same, fun equal => Scalar.noConfusion equal⟩

/-- Every key is the same as itself, an undefined number included. -/
theorem Scalar.beq_self (key : Scalar) : (key == key) = true := by
  cases key with
  | null => rfl
  | text s => exact beq_self_eq_true s
  | date d => exact beq_self_eq_true d
  | float x => simp [BEq.beq, Scalar.same]
  | bool b => exact beq_self_eq_true (if b then (1 : Int) else 0)
  | int n => exact beq_self_eq_true n

namespace Entries

variable {β : Type}

theorem get?_eq_none_of_notMem {s : String} {entries : List (Scalar × β)}
    (missing : ∀ entry ∈ entries, entry.1 ≠ .text s) : get? (.text s) entries = none := by
  induction entries with
  | nil => rfl
  | cons entry rest ih =>
      obtain ⟨other, later⟩ := List.forall_mem_cons.mp missing
      have differs : ¬(entry.1 == .text s) = true := fun same => other (Scalar.beq_text_iff.mp same)
      rw [get?, if_neg differs, ih later]

/-- The value that is found stands among the entries. -/
theorem mem_snd_of_get? {κ : Type} [BEq κ] {key : κ} {value : β} {entries : List (κ × β)}
    (found : get? key entries = some value) : value ∈ entries.map Prod.snd := by
  induction entries with
  | nil => exact nomatch found
  | cons entry rest ih =>
      rw [get?] at found
      split at found
      · exact Option.some.inj found ▸ List.mem_cons_self
      · exact List.mem_cons_of_mem _ (ih found)

theorem get?_upsert_text (s : String) (change : Option β → β) (entries : List (Scalar × β)) :
    get? (.text s) (upsert (.text s) change entries) =
      some (change (get? (.text s) entries)) := by
  induction entries with
  | nil => simp [upsert, get?]
  | cons entry rest ih =>
      by_cases same : (entry.1 == .text s) = true
      · simp [upsert, get?, same]
      · simp [upsert, get?, same, ih]

theorem get?_upsert_other {s : String} {key : Scalar} (other : key ≠ .text s)
    (change : Option β → β) (entries : List (Scalar × β)) :
    get? (.text s) (upsert key change entries) = get? (.text s) entries := by
  induction entries with
  | nil => simpa [upsert, get?, Scalar.beq_text_iff] using other
  | cons entry rest ih =>
      by_cases same : (entry.1 == key) = true
      · have differs : ¬(entry.1 == .text s) = true := by
          intro text
          rw [Scalar.beq_text_iff.mp text, Scalar.text_beq_iff] at same
          exact other same
        simp [upsert, get?, same, differs]
      · simp [upsert, get?, same, ih]

/-- An entry is left as it was, or it is the new one, or it keeps its key and is changed. -/
theorem mem_upsert {key : Scalar} {change : Option β → β} {entries : List (Scalar × β)}
    {entry : Scalar × β} (member : entry ∈ upsert key change entries) :
    entry ∈ entries ∨ entry = (key, change none) ∨
      ∃ known ∈ entries, entry = (known.1, change (some known.2)) := by
  induction entries with
  | nil => exact .inr (.inl (List.mem_singleton.mp member))
  | cons first rest ih =>
      rw [upsert] at member
      split at member
      · rcases List.mem_cons.mp member with changed | later
        · exact .inr (.inr ⟨first, List.mem_cons_self, changed⟩)
        · exact .inl (List.mem_cons_of_mem first later)
      · rcases List.mem_cons.mp member with same | later
        · exact .inl (same ▸ List.mem_cons_self)
        · rcases ih later with known | new | ⟨known, inside, changed⟩
          · exact .inl (List.mem_cons_of_mem first known)
          · exact .inr (.inl new)
          · exact .inr (.inr ⟨known, List.mem_cons_of_mem first inside, changed⟩)

/-- A key is changed where it stands, or it is new and comes last. -/
theorem Distinct.upsert {entries : List (Scalar × β)} (distinct : Distinct entries) (key : Scalar)
    (change : Option β → β) : Distinct (Entries.upsert key change entries) := by
  induction entries with
  | nil => exact List.pairwise_singleton _ _
  | cons first rest ih =>
      obtain ⟨apart, later⟩ := List.pairwise_cons.mp distinct
      rw [Entries.upsert]
      split
      · exact List.pairwise_cons.mpr ⟨apart, later⟩
      · rename_i differs
        refine List.pairwise_cons.mpr ⟨fun entry member => ?_, ih later⟩
        rcases mem_upsert member with known | rfl | ⟨known, inside, rfl⟩
        · exact apart entry known
        · simpa using differs
        · exact apart known inside

theorem distinct_ofPairs (pairs : List (Scalar × β)) : Distinct (ofPairs pairs) := by
  have kept : ∀ entries : List (Scalar × β), Distinct entries →
      Distinct (pairs.foldl (fun entries pair => put pair.1 pair.2 entries) entries) := by
    induction pairs with
    | nil => exact fun entries distinct => distinct
    | cons pair rest ih =>
        exact fun entries distinct => ih _ (distinct.upsert pair.1 fun _ => pair.2)
  exact kept [] List.Pairwise.nil

/-- Keys and values of entries are those of the pairs that were put there. -/
theorem mem_ofPairs {pairs : List (Scalar × β)} {entry : Scalar × β}
    (member : entry ∈ ofPairs pairs) :
    entry.1 ∈ pairs.map Prod.fst ∧ entry.2 ∈ pairs.map Prod.snd := by
  have kept : ∀ entries : List (Scalar × β),
      entry ∈ pairs.foldl (fun entries pair => put pair.1 pair.2 entries) entries →
        entry.1 ∈ (entries ++ pairs).map Prod.fst ∧ entry.2 ∈ (entries ++ pairs).map Prod.snd := by
    clear member
    induction pairs with
    | nil =>
        intro entries known
        rw [List.append_nil]
        exact ⟨List.mem_map_of_mem known, List.mem_map_of_mem known⟩
    | cons pair rest ih =>
        intro entries known
        obtain ⟨key, value⟩ := ih _ known
        rw [List.map_append, List.mem_append] at key value ⊢
        rw [List.map_append, List.mem_append]
        constructor
        · rcases key with before | later
          · obtain ⟨old, inside, same⟩ := List.mem_map.mp before
            rcases mem_upsert inside with known | rfl | ⟨known, there, rfl⟩
            · exact .inl (List.mem_map.mpr ⟨old, known, same⟩)
            · exact .inr (same ▸ List.mem_cons_self)
            · exact .inl (List.mem_map.mpr ⟨known, there, same⟩)
          · exact .inr (List.mem_cons_of_mem pair.1 later)
        · rcases value with before | later
          · obtain ⟨old, inside, same⟩ := List.mem_map.mp before
            rcases mem_upsert inside with known | rfl | ⟨_, -, rfl⟩
            · exact .inl (List.mem_map.mpr ⟨old, known, same⟩)
            · exact .inr (same ▸ List.mem_cons_self)
            · exact .inr (same ▸ List.mem_cons_self)
          · exact .inr (List.mem_cons_of_mem pair.2 later)
  exact kept [] member

end Entries

namespace Value

/-- In every object at any depth no key stands twice. -/
inductive IsKeyed : Value → Prop where
  /-- There are no keys in a scalar. -/
  | scalar (s : Scalar) : IsKeyed (.scalar s)
  /-- A list of such values. -/
  | list {items : List Value} : (∀ item ∈ items, IsKeyed item) → IsKeyed (.list items)
  /-- An object with different keys and such values. -/
  | object {entries : List (Scalar × Value)} : Entries.Distinct entries →
      (∀ entry ∈ entries, IsKeyed entry.2) → IsKeyed (.object entries)

theorem IsKeyed.distinct {entries : List (Scalar × Value)} (keyed : IsKeyed (.object entries)) :
    Entries.Distinct entries := by
  cases keyed with
  | object distinct => exact distinct

theorem IsKeyed.of_mem {entries : List (Scalar × Value)} (keyed : IsKeyed (.object entries))
    {value : Value} (member : value ∈ entries.map Prod.snd) : value.IsKeyed := by
  obtain ⟨entry, inside, rfl⟩ := List.mem_map.mp member
  cases keyed with
  | object _ inner => exact inner entry inside

/-- The value of a key in layers: the upper value laid over the lower one, or the one value that
there is. -/
def overlay? (lower : Option Value) : Option Value → Option Value
  | none => lower
  | some upper => some (lower.elim upper fun below => below.overlay upper)

theorem get?_overlayEntries (s : String) (base : List (Scalar × Value))
    {upper : List (Scalar × Value)} (distinct : Entries.Distinct upper) :
    Entries.get? (.text s) (overlayEntries base upper) =
      overlay? (Entries.get? (.text s) base) (Entries.get? (.text s) upper) := by
  induction upper generalizing base with
  | nil => simp [overlayEntries, overlay?]
  | cons entry rest ih =>
      obtain ⟨key, value⟩ := entry
      obtain ⟨apart, later⟩ := List.pairwise_cons.mp distinct
      rw [overlayEntries, ih _ later]
      by_cases same : key = .text s
      · subst same
        have fresh : Entries.get? (.text s) rest = none := by
          refine Entries.get?_eq_none_of_notMem fun entry member equal => ?_
          have differs := apart entry member
          rw [equal] at differs
          simp at differs
        rw [Entries.get?_upsert_text, fresh]
        cases Entries.get? (.text s) base <;> simp [overlay?, Entries.get?]
      · have differs : ¬(key == .text s) = true := fun equal => same (Scalar.beq_text_iff.mp equal)
        rw [Entries.get?_upsert_other same, Entries.get?, if_neg differs]

theorem field?_overlay {base upper : List (Scalar × Value)} (distinct : Entries.Distinct upper)
    (key : String) :
    ((Value.object base).overlay (.object upper)).field? key =
      overlay? ((Value.object base).field? key) ((Value.object upper).field? key) :=
  get?_overlayEntries key base distinct

theorem overlayEntries_eq_append (base : List (Scalar × Value)) {upper : List (Scalar × Value)}
    (distinct : Entries.Distinct (base ++ upper)) : overlayEntries base upper = base ++ upper := by
  induction upper generalizing base with
  | nil => rw [overlayEntries, List.append_nil]
  | cons entry rest ih =>
      obtain ⟨key, value⟩ := entry
      have others : ∀ known ∈ base, (known.1 == key) = false := fun known member =>
        (List.pairwise_append.mp distinct).2.2 known member (key, value) List.mem_cons_self
      rw [List.append_cons] at distinct ⊢
      rw [overlayEntries, Entries.upsert_of_new others, ih _ distinct]

/-- An object laid over an empty one is itself. -/
theorem overlay_nothing {entries : List (Scalar × Value)}
    (keyed : IsKeyed (.object entries)) :
    (Value.object []).overlay (.object entries) = .object entries := by
  rw [overlay, overlayEntries_eq_append [] keyed.distinct, List.nil_append]

/-- Entries laid over themselves behind entries that have been dealt with: each meets itself. -/
theorem overlayEntries_self (front : List (Scalar × Value)) {entries : List (Scalar × Value)}
    (distinct : Entries.Distinct (front ++ entries))
    (inner : ∀ entry ∈ entries, entry.2.overlay entry.2 = entry.2) :
    overlayEntries (front ++ entries) entries = front ++ entries := by
  induction entries generalizing front with
  | nil => rw [overlayEntries]
  | cons entry rest ih =>
      obtain ⟨key, value⟩ := entry
      obtain ⟨here, later⟩ := List.forall_mem_cons.mp inner
      have others : ∀ known ∈ front, (known.1 == key) = false := fun known member =>
        (List.pairwise_append.mp distinct).2.2 known member (key, value) List.mem_cons_self
      rw [overlayEntries, Entries.upsert_append others, Entries.upsert, if_pos key.beq_self]
      dsimp only at here ⊢
      rw [here]
      rw [List.append_cons] at distinct ⊢
      exact ih _ distinct later

/-- A value laid over itself is itself: every object in it meets itself. -/
theorem overlay_self {value : Value} (keyed : value.IsKeyed) : value.overlay value = value := by
  induction keyed with
  | scalar s => rw [overlay]; exact nofun
  | list _ _ => rw [overlay]; exact nofun
  | object distinct _ ih =>
      rw [overlay]
      exact congrArg Value.object (overlayEntries_self [] distinct ih)

/-- Only two objects are laid over each other; any other value hides what is below. -/
theorem overlay?_cases (lower : Option Value) (upper : Value) :
    (overlay? lower (some upper) = some upper ∧
        (upper.entries? = none ∨ lower.bind entries? = none)) ∨
      ∃ below above, lower = some (.object below) ∧ upper = .object above ∧
        overlay? lower (some upper) = some (.object (overlayEntries below above)) := by
  cases upper with
  | scalar s => exact .inl ⟨by cases lower <;> rfl, .inl rfl⟩
  | list items => exact .inl ⟨by cases lower <;> rfl, .inl rfl⟩
  | object above =>
      cases lower with
      | none => exact .inl ⟨rfl, .inr rfl⟩
      | some below =>
          cases below with
          | scalar s => exact .inl ⟨rfl, .inr rfl⟩
          | list items => exact .inl ⟨rfl, .inr rfl⟩
          | object below => exact .inr ⟨below, above, rfl, rfl, rfl⟩

end Value

end EntrySearch
