import EntrySearch.Decimal.Digits
import Mathlib.Algebra.Group.Nat.Defs
import Mathlib.Data.List.Induction

/-!
# Padded digits

Numbers that are filled up with zeros are read back, and digits are the number that they write
filled up to as many digits. A number is its size with its sign.
-/

namespace EntrySearch.Decimal

theorem ofDigitsFrom_eq_ofDigitChars (start : Nat) (cs : List Char) :
    ofDigitsFrom start cs = Nat.ofDigitChars 10 cs start := by
  induction cs generalizing start with
  | nil => exact Nat.ofDigitChars_nil.symm
  | cons c rest ih =>
      rw [Nat.ofDigitChars_cons]
      exact ih (10 * start + digitValue c)

theorem ofDigits_eq_ofDigitChars (cs : List Char) : ofDigits cs = Nat.ofDigitChars 10 cs 0 :=
  ofDigitsFrom_eq_ofDigitChars 0 cs

theorem ofDigits_concat (cs : List Char) (c : Char) :
    ofDigits (cs ++ [c]) = 10 * ofDigits cs + digitValue c := by
  simp only [ofDigits_eq_ofDigitChars, Nat.ofDigitChars_append, Nat.ofDigitChars_cons,
    Nat.ofDigitChars_nil]
  rfl

@[simp]
theorem ofDigits_nil : ofDigits [] = 0 :=
  rfl

theorem isDigit_iff_toNat {c : Char} : c.isDigit = true ↔ 48 ≤ c.toNat ∧ c.toNat ≤ 57 := by
  simp only [Char.isDigit, ge_iff_le, Bool.and_eq_true, decide_eq_true_iff]
  rfl

theorem digitValue_lt {c : Char} (digit : c.isDigit = true) : digitValue c < 10 := by
  obtain ⟨_, most⟩ := isDigit_iff_toNat.mp digit
  show c.toNat - 48 < 10
  omega

theorem digitChar_digitValue {c : Char} (digit : c.isDigit = true) :
    Nat.digitChar (digitValue c) = c := by
  obtain ⟨least, most⟩ := isDigit_iff_toNat.mp digit
  apply Char.toNat_inj.mp
  rw [Nat.toNat_digitChar_of_lt_ten (digitValue_lt digit)]
  show 48 + (c.toNat - 48) = c.toNat
  omega

/-- The last digit of a number is that of its remainder, and the others write its quotient. -/
theorem paddedDigits_concat {width : Nat} (positive : 0 < width) (n : Nat) :
    paddedDigits (width + 1) n = paddedDigits width (n / 10) ++ [Nat.digitChar (n % 10)] := by
  by_cases small : n < 10
  · obtain ⟨width, rfl⟩ := Nat.exists_eq_add_of_lt positive
    simp [paddedDigits, digits, Nat.toDigits_of_lt_base small, Nat.div_eq_of_lt small,
      Nat.mod_eq_of_lt small, List.replicate_succ']
  · have split := Nat.toDigits_of_base_le (show 1 < 10 by decide) (Nat.le_of_not_lt small)
    simp [paddedDigits, digits, split]

theorem paddedDigits_one {n : Nat} (small : n < 10) : paddedDigits 1 n = [Nat.digitChar n] := by
  simp [paddedDigits, digits, Nat.toDigits_of_lt_base small]

theorem length_paddedDigits {width n : Nat} (positive : 0 < width) (small : n < 10 ^ width) :
    (paddedDigits width n).length = width := by
  have fits := (Nat.length_toDigits_le_iff (show 1 < 10 by decide) positive).mpr small
  rw [paddedDigits, digits, List.length_append, List.length_replicate]
  omega

theorem isDigit_of_mem_paddedDigits {width n : Nat} :
    ∀ c ∈ paddedDigits width n, c.isDigit = true := by
  intro c member
  rw [paddedDigits, List.mem_append] at member
  rcases member with filled | written
  · rw [List.eq_of_mem_replicate filled]
    rfl
  · exact Nat.isDigit_of_mem_toDigits (by decide) (by decide) written

/-- A number is read back from its padded digits. -/
theorem ofDigits_paddedDigits (width n : Nat) : ofDigits (paddedDigits width n) = n := by
  simp only [paddedDigits, digits, ofDigits_eq_ofDigitChars, Nat.ofDigitChars_append,
    Nat.ofDigitChars_replicate_zero, Nat.mul_zero, Nat.ofDigitChars_ten_toDigits]

theorem ofDigits_lt {ds : List Char} (digits : ∀ c ∈ ds, c.isDigit = true) :
    ofDigits ds < 10 ^ ds.length := by
  induction ds using List.reverseRecOn with
  | nil => decide
  | append_singleton ds c ih =>
      have value := digitValue_lt (digits c (by simp))
      have others := ih fun d member => digits d (by simp [member])
      rw [ofDigits_concat, List.length_append, List.length_singleton, Nat.pow_succ]
      omega

/-- Digits are the padded ones of the number that they write. -/
theorem paddedDigits_ofDigits {ds : List Char} (filled : ds ≠ [])
    (digits : ∀ c ∈ ds, c.isDigit = true) : paddedDigits ds.length (ofDigits ds) = ds := by
  induction ds using List.reverseRecOn with
  | nil => exact absurd rfl filled
  | append_singleton ds c ih =>
      have digit : c.isDigit = true := digits c (by simp)
      have value := digitValue_lt digit
      rw [ofDigits_concat, List.length_append, List.length_singleton]
      by_cases alone : ds = []
      · subst alone
        rw [ofDigits_nil, Nat.mul_zero, List.length_nil, Nat.zero_add, Nat.zero_add,
          paddedDigits_one value, digitChar_digitValue digit]
        rfl
      · have others := ih alone fun d member => digits d (by simp [member])
        have quotient : (10 * ofDigits ds + digitValue c) / 10 = ofDigits ds := by omega
        have remainder : (10 * ofDigits ds + digitValue c) % 10 = digitValue c := by omega
        rw [paddedDigits_concat (List.length_pos_iff.mpr alone), quotient, remainder, others,
          digitChar_digitValue digit]

theorem digitValue_lt_digitValue {c d : Char} (digit : c.isDigit = true) (smaller : c < d) :
    digitValue c < digitValue d := by
  obtain ⟨least, _⟩ := isDigit_iff_toNat.mp digit
  have codes : c.toNat < d.toNat := smaller
  show c.toNat - 48 < d.toNat - 48
  omega

theorem ofDigitsFrom_lt_of_start {start other : Nat} (smaller : start < other) {ds es : List Char}
    (count : ds.length = es.length) (digits : ∀ c ∈ ds, c.isDigit = true) :
    ofDigitsFrom start ds < ofDigitsFrom other es := by
  induction ds generalizing start other es with
  | nil =>
      obtain rfl := List.length_eq_zero_iff.mp count.symm
      exact smaller
  | cons c ds ih =>
      cases es with
      | nil => exact absurd count (by simp)
      | cons d es =>
          rw [List.forall_mem_cons] at digits
          have value := digitValue_lt digits.1
          have others : ds.length = es.length := by simpa using count
          show ofDigitsFrom (10 * start + digitValue c) ds <
            ofDigitsFrom (10 * other + digitValue d) es
          exact ih (by omega) others digits.2

/-- Of as many digits, those that come first in the order of texts write the smaller number. -/
theorem ofDigitsFrom_lt (start : Nat) {ds es : List Char} (count : ds.length = es.length)
    (digits : ∀ c ∈ ds, c.isDigit = true) (smaller : ds < es) :
    ofDigitsFrom start ds < ofDigitsFrom start es := by
  induction ds generalizing start es with
  | nil =>
      obtain rfl := List.length_eq_zero_iff.mp count.symm
      exact absurd smaller (List.not_lt_nil [])
  | cons c ds ih =>
      cases es with
      | nil => exact absurd count (by simp)
      | cons d es =>
          rw [List.forall_mem_cons] at digits
          have others : ds.length = es.length := by simpa using count
          show ofDigitsFrom (10 * start + digitValue c) ds <
            ofDigitsFrom (10 * start + digitValue d) es
          rcases List.cons_lt_cons_iff.mp smaller with first | ⟨rfl, rest⟩
          · have value := digitValue_lt_digitValue digits.1 first
            exact ofDigitsFrom_lt_of_start (by omega) others digits.2
          · exact ih _ others digits.2 rest

/-- Padded digits that come first in the order of texts write the smaller number. -/
theorem lt_of_paddedDigits_lt {width m n : Nat} (positive : 0 < width) (small : m < 10 ^ width)
    (other_small : n < 10 ^ width) (smaller : paddedDigits width m < paddedDigits width n) :
    m < n := by
  have count : (paddedDigits width m).length = (paddedDigits width n).length := by
    rw [length_paddedDigits positive small, length_paddedDigits positive other_small]
  have numbers := ofDigitsFrom_lt 0 count isDigit_of_mem_paddedDigits smaller
  change ofDigits _ < ofDigits _ at numbers
  rwa [ofDigits_paddedDigits, ofDigits_paddedDigits] at numbers

/-! ## Signs -/

theorem natAbs_signed (negative : Bool) (n : Nat) : (signed negative n).natAbs = n := by
  cases negative <;> simp [signed]

theorem signed_natAbs (n : Int) : signed (n < 0) n.natAbs = n := by
  rw [signed]
  split <;> simp only [decide_eq_true_iff] at * <;> omega

end EntrySearch.Decimal
