import EntrySearch.Json.Reader
import EntrySearch.Json.Writer
import Mathlib.Tactic.NormNum

/-!
# Texts are read back

Each character is read back from what is written for it, also where it is written by its units, and
so is a text between quotes.
-/

namespace EntrySearch.Json

/-! ## Units -/

theorem hexValue?_digitChar : ∀ d < 16, hexValue? (Nat.digitChar d) = some d := by
  decide

/-- The last four hexadecimal digits of a number. -/
theorem hexDigits_four (n : Nat) :
    Text.hexDigits 4 n = [Nat.digitChar (n / 4096 % 16), Nat.digitChar (n / 256 % 16),
      Nat.digitChar (n / 16 % 16), Nat.digitChar (n % 16)] := by
  simp only [Text.hexDigits, Nat.div_div_eq_div_mul, List.nil_append, List.cons_append]

/-- A unit is read back from its four digits. -/
theorem unit?_digits {n : Nat} (small : n < 0x10000) :
    unit? (Nat.digitChar (n / 4096 % 16)) (Nat.digitChar (n / 256 % 16))
      (Nat.digitChar (n / 16 % 16)) (Nat.digitChar (n % 16)) = some n := by
  have digit (m : Nat) : hexValue? (Nat.digitChar (m % 16)) = some (m % 16) :=
    hexValue?_digitChar _ (Nat.mod_lt m (by decide))
  rw [unit?, digit, digit, digit, digit]
  have value : 4096 * (n / 4096 % 16) + 256 * (n / 256 % 16) + 16 * (n / 16 % 16) + n % 16 = n := by
    omega
  exact congrArg some value

theorem not_half (c : Char) : ¬(0xD800 ≤ c.toNat ∧ c.toNat < 0xE000) := by
  rintro ⟨least, most⟩
  rcases c.valid with low | high
  · exact absurd low (not_lt.mpr least)
  · have : 0xDFFF < c.toNat := high.1
    omega

theorem ofUnit_toNat (c : Char) : ofUnit c.toNat = c := by
  rw [ofUnit, if_neg (not_half c), Char.ofNat_toNat]

theorem toNat_lt (c : Char) : c.toNat < 0x110000 := by
  rcases c.valid with low | high
  · exact low.trans (by decide)
  · exact high.2

theorem ofPair?_halves {c : Char} (great : 0x10000 ≤ c.toNat) :
    ofPair? (0xD800 + (c.toNat - 0x10000) / 0x400) (0xDC00 + (c.toNat - 0x10000) % 0x400) =
      some c := by
  have small := toNat_lt c
  rw [ofPair?, if_pos (by omega)]
  have value : 0x10000 + (0xD800 + (c.toNat - 0x10000) / 0x400 - 0xD800) * 0x400 +
      (0xDC00 + (c.toNat - 0x10000) % 0x400 - 0xDC00) = c.toNat := by omega
  rw [value, Char.ofNat_toNat]

/-! ## Characters -/

/-- A character put before a text that is read. -/
def before (c : Char) (read : Except Fault (List Char × List Char)) :
    Except Fault (List Char × List Char) := do
  let (cs, rest) ← read
  return (c :: cs, rest)

variable {opening : List Char} {fuel : Nat}

theorem readText_plain {c : Char} (not_quote : c ≠ '\"') (not_escape : c ≠ '\\')
    (not_control : 32 ≤ c.toNat) (rest : List Char) :
    readText opening (fuel + 1) (c :: rest) = before c (readText opening fuel rest) := by
  rw [readText]
  · rw [if_neg (not_lt.mpr not_control)]
    rfl
  · exact not_quote
  · simp [not_escape]
  · simp [not_escape]
  · simp [not_escape]

theorem readText_escaped {letter c : Char} (not_unit : letter ≠ 'u')
    (known : escaped? letter = some c) (rest : List Char) :
    readText opening (fuel + 1) ('\\' :: letter :: rest) =
      before c (readText opening fuel rest) := by
  rw [readText]
  · rw [known]
    rfl
  · exact not_unit

theorem readText_unit {c next : Char} (small : c.toNat < 0x10000) (rest : List Char) :
    readText opening (fuel + 1) (unitEscape c.toNat ++ next :: rest) =
      before c (readText opening fuel (next :: rest)) := by
  have single : ¬(0xD800 ≤ c.toNat ∧ c.toNat < 0xDC00) := fun half =>
    not_half c ⟨half.1, half.2.trans (by decide)⟩
  rw [unitEscape, hexDigits_four]
  simp only [List.cons_append, List.nil_append]
  rw [readText, unit?_digits small]
  dsimp only
  rw [if_neg single, ofUnit_toNat]
  rfl

theorem readText_pair {high low : Nat} {c next : Char} (first : 0xD800 ≤ high ∧ high < 0xDC00)
    (second : low < 0x10000) (pair : ofPair? high low = some c) (rest : List Char) :
    readText opening (fuel + 1) (unitEscape high ++ unitEscape low ++ next :: rest) =
      before c (readText opening fuel (next :: rest)) := by
  rw [unitEscape, unitEscape, hexDigits_four, hexDigits_four]
  simp only [List.cons_append, List.nil_append]
  rw [readText, unit?_digits (first.2.trans (by decide))]
  dsimp only
  rw [if_pos first]
  simp only [unit?_digits second, pair]
  rfl

theorem readText_escapedChar (c next : Char) (rest : List Char) :
    readText opening (fuel + 1) (escapedChar c ++ next :: rest) =
      before c (readText opening fuel (next :: rest)) := by
  unfold escapedChar
  split
  iterate 7 exact readText_escaped (by decide) rfl _
  rename_i not_quote not_escape _ _ _ _ _
  dsimp only
  split
  · rename_i printed
    exact readText_plain not_quote not_escape printed.1 _
  · split
    · rename_i small
      exact readText_unit small rest
    · rename_i great
      have small := toNat_lt c
      exact readText_pair (by omega) (by omega) (ofPair?_halves (not_lt.mp great)) rest

/-! ## Texts -/

theorem readText_flatMap {cs : List Char} (enough : cs.length < fuel) (rest : List Char) :
    readText opening fuel (cs.flatMap escapedChar ++ '\"' :: rest) = .ok (cs, rest) := by
  induction cs generalizing fuel with
  | nil =>
      obtain ⟨fuel, rfl⟩ := Nat.exists_eq_add_of_lt enough
      rfl
  | cons c cs ih =>
      obtain ⟨extra, rfl⟩ := Nat.exists_eq_add_of_lt enough
      obtain ⟨next, more, split⟩ := List.exists_cons_of_ne_nil
        (show cs.flatMap escapedChar ++ '\"' :: rest ≠ [] by simp)
      rw [List.flatMap_cons, List.append_assoc, split, readText_escapedChar, ← split,
        ih (by simp; omega)]
      rfl

theorem escapedChar_ne_nil (c : Char) : escapedChar c ≠ [] := by
  unfold escapedChar
  split
  iterate 7 simp
  dsimp only
  split
  · simp
  · split <;> simp [unitEscape]

theorem length_le_flatMap (cs : List Char) : cs.length ≤ (cs.flatMap escapedChar).length := by
  induction cs with
  | nil => exact le_rfl
  | cons c cs ih =>
      have := List.length_pos_iff.mpr (escapedChar_ne_nil c)
      rw [List.flatMap_cons, List.length_append, List.length_cons]
      omega

/-- A text is read back from what is written behind its opening quote. -/
theorem readQuoted_flatMap (cs rest : List Char) :
    readQuoted (cs.flatMap escapedChar ++ '\"' :: rest) = .ok (String.ofList cs, rest) := by
  have := length_le_flatMap cs
  rw [readQuoted, readText_flatMap (by rw [List.length_append]; omega)]
  rfl

end EntrySearch.Json
