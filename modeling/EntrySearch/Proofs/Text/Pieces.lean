import EntrySearch.Text.Pieces

/-!
# Cutting what was joined

Texts without a separator are the pieces of their join, and a text is cut at a mark where it was
joined with one.
-/

namespace EntrySearch.Text

theorem pieces_eq_singleton {isSeparator : Char → Bool} {cs : List Char}
    (unseparated : ∀ c ∈ cs, isSeparator c = false) : pieces isSeparator cs = [cs] := by
  induction cs with
  | nil => rfl
  | cons c rest ih =>
      obtain ⟨inside, later⟩ := List.forall_mem_cons.mp unseparated
      rw [pieces, inside, if_neg Bool.false_ne_true, ih later]
      rfl

theorem prependToFirst_append (c : Char) {first : List (List Char)} (filled : first ≠ [])
    (others : List (List Char)) :
    prependToFirst c (first ++ others) = prependToFirst c first ++ others := by
  cases first with
  | nil => exact absurd rfl filled
  | cons piece rest => rfl

/-- A separator parts the pieces before it from those behind it. -/
theorem pieces_append {isSeparator : Char → Bool} {separator : Char}
    (separates : isSeparator separator = true) (front rest : List Char) :
    pieces isSeparator (front ++ separator :: rest) =
      pieces isSeparator front ++ pieces isSeparator rest := by
  induction front with
  | nil =>
      show pieces isSeparator (separator :: rest) = [] :: pieces isSeparator rest
      rw [pieces, if_pos separates]
  | cons c front ih =>
      rw [List.cons_append, pieces, pieces, ih]
      split
      · rfl
      · exact prependToFirst_append c (pieces_ne_nil isSeparator front) _

/-- What holds of texts without a separator, and of two texts with a separator between them if it
holds of both, holds of all texts. -/
@[elab_as_elim]
theorem cut_induction (isSeparator : Char → Bool) {motive : List Char → Prop}
    (whole : ∀ cs, (∀ c ∈ cs, isSeparator c = false) → motive cs)
    (cut : ∀ front separator back, isSeparator separator = true → motive front → motive back →
      motive (front ++ separator :: back)) (cs : List Char) : motive cs := by
  -- The text up to the next separator is set aside until that separator is met.
  suffices behind : ∀ front, (∀ c ∈ front, isSeparator c = false) → motive (front ++ cs) from
    behind [] (List.forall_mem_nil _)
  induction cs with
  | nil =>
      intro front unseparated
      rw [List.append_nil]
      exact whole front unseparated
  | cons c rest ih =>
      intro front unseparated
      by_cases separates : isSeparator c = true
      · exact cut front c rest separates (whole front unseparated) (ih [] (List.forall_mem_nil _))
      · rw [Bool.not_eq_true] at separates
        have longer : ∀ d ∈ front ++ [c], isSeparator d = false :=
          List.forall_mem_append.mpr ⟨unseparated, List.forall_mem_singleton.mpr separates⟩
        rw [List.append_cons]
        exact ih (front ++ [c]) longer

/-- Only the separators count for where a text is cut. -/
theorem pieces_congr {isSeparator other : Char → Bool} {cs : List Char}
    (same : ∀ c ∈ cs, isSeparator c = other c) : pieces isSeparator cs = pieces other cs := by
  induction cs with
  | nil => rfl
  | cons c rest ih =>
      obtain ⟨here, later⟩ := List.forall_mem_cons.mp same
      rw [pieces, pieces, here, ih later]

/-- The text before a separator is a piece of its own if none stands in it. -/
theorem pieces_append_cons {isSeparator : Char → Bool} {front : List Char} {separator : Char}
    (unseparated : ∀ c ∈ front, isSeparator c = false) (separates : isSeparator separator = true)
    (rest : List Char) :
    pieces isSeparator (front ++ separator :: rest) = front :: pieces isSeparator rest := by
  rw [pieces_append separates, pieces_eq_singleton unseparated, List.singleton_append]

/-- The pieces of joined texts are these texts. -/
theorem pieces_intercalate {isSeparator : Char → Bool} {separator : Char}
    (separates : isSeparator separator = true) {parts : List (List Char)} (filled : parts ≠ [])
    (unseparated : ∀ part ∈ parts, ∀ c ∈ part, isSeparator c = false) :
    pieces isSeparator ([separator].intercalate parts) = parts := by
  induction parts with
  | nil => exact absurd rfl filled
  | cons part rest ih =>
      obtain ⟨first, later⟩ := List.forall_mem_cons.mp unseparated
      cases rest with
      | nil => rw [List.intercalate_singleton, pieces_eq_singleton first]
      | cons next others =>
          rw [List.intercalate_cons_cons, List.append_assoc, List.singleton_append,
            pieces_append_cons first separates, ih (List.cons_ne_nil next others) later]

/-- A character of joined texts separates them or stands in one of them. -/
theorem mem_intercalate {separator c : Char} {parts : List (List Char)}
    (member : c ∈ [separator].intercalate parts) : c = separator ∨ ∃ part ∈ parts, c ∈ part := by
  induction parts with
  | nil => exact absurd member List.not_mem_nil
  | cons part rest ih =>
      cases rest with
      | nil =>
          rw [List.intercalate_singleton] at member
          exact .inr ⟨part, List.mem_cons_self, member⟩
      | cons next others =>
          rw [List.intercalate_cons_cons, List.append_assoc, List.singleton_append,
            List.mem_append, List.mem_cons] at member
          rcases member with first | separates | later
          · exact .inr ⟨part, List.mem_cons_self, first⟩
          · exact .inl separates
          · rcases ih later with separates | ⟨other, known, inside⟩
            · exact .inl separates
            · exact .inr ⟨other, List.mem_cons_of_mem part known, inside⟩

/-- A text is cut at the mark that it was joined with if there is no such mark before. -/
theorem cutAt_append_cons {mark : Char} {front : List Char} (unmarked : mark ∉ front)
    (rest : List Char) : cutAt mark (front ++ mark :: rest) = (front, some rest) := by
  induction front with
  | nil => rw [List.nil_append, cutAt, if_pos rfl]
  | cons c front ih =>
      obtain ⟨other, later⟩ := List.ne_and_not_mem_of_not_mem_cons unmarked
      rw [List.cons_append, cutAt, if_neg (Ne.symm other), ih later]

end EntrySearch.Text
