import EntrySearch.Text.Utf8

/-!
# Reading what is written as UTF-8

The octets of a text read as the text itself. No octet of a character can be taken for the end of an
ill-formed sequence: the bounds for the second octet leave out just what is never written.
-/

namespace EntrySearch.Text.Utf8

theorem toNat_lt_or_between (c : Char) :
    c.toNat < 0xD800 ∨ 0xDFFF < c.toNat ∧ c.toNat < 0x110000 :=
  c.valid

variable {bits octet low high : Nat} (rest : List Nat)

/-- An octet within its bounds completes a character that owes one octet. -/
theorem decodeFrom_last (above : low ≤ octet) (below : octet ≤ high) :
    decodeFrom (some ⟨bits, 0, low, high⟩) (octet :: rest) =
      Char.ofNat (bits * 64 + (octet - 0x80)) :: decodeFrom none rest := by
  simp [decodeFrom, step, above, below]

theorem decodeFrom_next (owed : Nat) (above : low ≤ octet) (below : octet ≤ high) :
    decodeFrom (some ⟨bits, owed + 1, low, high⟩) (octet :: rest) =
      decodeFrom (some ⟨bits * 64 + (octet - 0x80), owed, 0x80, 0xBF⟩) rest := by
  simp [decodeFrom, step, above, below]

theorem decodeFrom_one (small : octet < 0x80) :
    decodeFrom none (octet :: rest) = Char.ofNat octet :: decodeFrom none rest := by
  simp [decodeFrom, step, start, small]

theorem decodeFrom_two (above : 0xC2 ≤ octet) (below : octet < 0xE0) :
    decodeFrom none (octet :: rest) = decodeFrom (some ⟨octet - 0xC0, 0, 0x80, 0xBF⟩) rest := by
  have not_one : ¬octet < 0x80 := by omega
  have not_tail : ¬octet < 0xC2 := by omega
  simp [decodeFrom, step, start, not_one, not_tail, below]

theorem decodeFrom_three {second : Nat} (above : 0xE0 ≤ octet) (below : octet < 0xF0)
    (least : 0x80 ≤ second) (greatest : second ≤ 0xBF) (long : octet = 0xE0 → 0xA0 ≤ second)
    (scalar : octet = 0xED → second ≤ 0x9F) :
    decodeFrom none (octet :: second :: rest) =
      decodeFrom (some ⟨(octet - 0xE0) * 64 + (second - 0x80), 0, 0x80, 0xBF⟩) rest := by
  have not_one : ¬octet < 0x80 := by omega
  have not_tail : ¬octet < 0xC2 := by omega
  have not_two : ¬octet < 0xE0 := by omega
  by_cases first : octet = 0xE0
  · subst first
    simp [decodeFrom, step, start, long rfl, greatest]
  · by_cases last : octet = 0xED
    · subst last
      simp [decodeFrom, step, start, least, scalar rfl]
    · simp [decodeFrom, step, start, not_one, not_tail, not_two, first, last, below, least,
        greatest]

theorem decodeFrom_four {second : Nat} (above : 0xF0 ≤ octet) (below : octet ≤ 0xF4)
    (least : 0x80 ≤ second) (greatest : second ≤ 0xBF) (long : octet = 0xF0 → 0x90 ≤ second)
    (bounded : octet = 0xF4 → second ≤ 0x8F) :
    decodeFrom none (octet :: second :: rest) =
      decodeFrom (some ⟨(octet - 0xF0) * 64 + (second - 0x80), 1, 0x80, 0xBF⟩) rest := by
  have not_one : ¬octet < 0x80 := by omega
  have not_tail : ¬octet < 0xC2 := by omega
  have not_two : ¬octet < 0xE0 := by omega
  have not_three : ¬octet < 0xF0 := by omega
  have not_e0 : octet ≠ 0xE0 := by omega
  have not_ed : octet ≠ 0xED := by omega
  by_cases first : octet = 0xF0
  · subst first
    simp [decodeFrom, step, start, long rfl, greatest]
  · by_cases last : octet = 0xF4
    · subst last
      simp [decodeFrom, step, start, least, bounded rfl]
    · have inner : octet < 0xF4 := by omega
      simp [decodeFrom, step, start, not_one, not_tail, not_two, not_three, not_e0, not_ed, first,
        inner, least, greatest]

/-- The octets of a character read as the character, whatever follows. -/
theorem decodeFrom_encodeChar (c : Char) :
    decodeFrom none (encodeChar c ++ rest) = c :: decodeFrom none rest := by
  have scalar := toNat_lt_or_between c
  have same : ∀ n, n = c.toNat → Char.ofNat n = c := by
    rintro n rfl
    exact c.ofNat_toNat
  unfold encodeChar
  dsimp only
  split
  · rename_i one
    rw [List.singleton_append, decodeFrom_one _ one, c.ofNat_toNat]
  · split
    · rw [List.cons_append, List.singleton_append, decodeFrom_two _ (by omega) (by omega),
        decodeFrom_last _ (by omega) (by omega), same _ (by omega)]
    · split
      · rw [List.cons_append, List.cons_append, List.singleton_append,
          decodeFrom_three _ (by omega) (by omega) (by omega) (by omega) (by omega) (by omega),
          decodeFrom_last _ (by omega) (by omega), same _ (by omega)]
      · rw [List.cons_append, List.cons_append, List.cons_append, List.singleton_append,
          decodeFrom_four _ (by omega) (by omega) (by omega) (by omega) (by omega) (by omega),
          decodeFrom_next _ _ (by omega) (by omega), decodeFrom_last _ (by omega) (by omega),
          same _ (by omega)]

/-- What is written is read back. -/
theorem decode_encode (cs : List Char) : decode (encode cs) = cs := by
  unfold decode encode
  induction cs with
  | nil => rfl
  | cons c rest ih => rw [List.flatMap_cons, decodeFrom_encodeChar, ih]

end EntrySearch.Text.Utf8
