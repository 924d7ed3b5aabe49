import EntrySearch.Proofs.Text.LowerCase
import EntrySearch.Text.Pieces
import Mathlib.Data.List.Forall2

/-!
# Letters in either case

Texts that differ in the case of ASCII letters only are cut at the same places and have the same
lower-case form: no ASCII letter is blank or separates anything, and the capital and the small form
count alike for a sigma beside them.
-/

namespace EntrySearch.Text

/-- Two characters are the same, or the two forms of one ASCII letter. -/
def SameLetter (c d : Char) : Prop :=
  c = d ∨ c.isAlpha = true ∧ d.isAlpha = true ∧ c.toLower = d.toLower

instance (c d : Char) : Decidable (SameLetter c d) :=
  inferInstanceAs (Decidable (_ ∨ _))

/-- Two texts differ in the case of ASCII letters only. -/
abbrev SameButForCase : List Char → List Char → Prop :=
  List.Forall₂ SameLetter

/-- A test of characters comes out the same for both forms of a letter. -/
def IsCaseBlind (test : Char → Bool) : Prop :=
  ∀ ⦃c d⦄, SameLetter c d → test c = test d

theorem SameLetter.eq_or_isAlpha {c d : Char} (same : SameLetter c d) :
    c = d ∨ c.isAlpha = true ∧ d.isAlpha = true :=
  same.imp_right fun letters => ⟨letters.1, letters.2.1⟩

/-- What is known of an ASCII letter. -/
structure IsPlainLetter (c : Char) : Prop where
  /-- It belongs to ASCII. -/
  ascii : c.toNat < 128
  /-- It is not blank, and separates neither terms nor segments. -/
  unmarked : isMark c = false
  /-- It is no digit. -/
  undigital : c.isDigit = false
  /-- It counts as a letter with case beside a sigma. -/
  cased : isCased c = true
  /-- It is not passed over beside a sigma. -/
  counted : isCaseIgnorable c = false

theorem toNat_lt_of_isAlpha {c : Char} (alpha : c.isAlpha = true) : c.toNat < 128 := by
  obtain upper | lower := Bool.or_eq_true_iff.mp alpha
  · have most : c.val ≤ 'Z'.val := (of_decide_eq_true upper).2
    exact Nat.lt_of_le_of_lt (UInt32.le_iff_toNat_le.mp most) (by decide)
  · have most : c.val ≤ 'z'.val := of_decide_eq_true (Bool.and_eq_true_iff.mp lower).2
    exact Nat.lt_of_le_of_lt (UInt32.le_iff_toNat_le.mp most) (by decide)

theorem isPlainLetter_of_isAlpha {c : Char} (alpha : c.isAlpha = true) : IsPlainLetter c := by
  have table : ∀ n < 128, let c := Char.ofNat n
      c.isAlpha = true → isMark c = false ∧ c.isDigit = false ∧ isCased c = true ∧
        isCaseIgnorable c = false := by
    decide +kernel
  have ascii := toNat_lt_of_isAlpha alpha
  have known := table c.toNat ascii
  rw [Char.ofNat_toNat] at known
  obtain ⟨unmarked, undigital, cased, counted⟩ := known alpha
  exact ⟨ascii, unmarked, undigital, cased, counted⟩

/-- A test that letters do not pass is blind to their case. -/
theorem isCaseBlind_of_isMark {test : Char → Bool} (marks : ∀ c, test c = true → isMark c = true) :
    IsCaseBlind test := by
  intro c d same
  have failed (e : Char) (alpha : e.isAlpha = true) : test e = false := by
    by_contra passed
    rw [Bool.not_eq_false] at passed
    exact Bool.false_ne_true ((isPlainLetter_of_isAlpha alpha).unmarked.symm.trans (marks e passed))
  obtain rfl | ⟨first, second⟩ := same.eq_or_isAlpha
  · rfl
  · rw [failed c first, failed d second]

theorem isCaseBlind_isBlank : IsCaseBlind isBlank :=
  isCaseBlind_of_isMark fun c blank => by simp [isMark, blank]

theorem SameLetter.lowerChar_eq {c d : Char} (same : SameLetter c d) : lowerChar c = lowerChar d := by
  obtain rfl | ⟨first, second, small⟩ := same
  · rfl
  · rw [lowerChar, lowerChar, if_pos (isPlainLetter_of_isAlpha first).ascii,
      if_pos (isPlainLetter_of_isAlpha second).ascii, small]

theorem isCaseBlind_isCased : IsCaseBlind isCased := by
  intro c d same
  obtain rfl | ⟨first, second⟩ := same.eq_or_isAlpha
  · rfl
  · rw [(isPlainLetter_of_isAlpha first).cased, (isPlainLetter_of_isAlpha second).cased]

theorem isCaseBlind_isCaseIgnorable : IsCaseBlind isCaseIgnorable := by
  intro c d same
  obtain rfl | ⟨first, second⟩ := same.eq_or_isAlpha
  · rfl
  · rw [(isPlainLetter_of_isAlpha first).counted, (isPlainLetter_of_isAlpha second).counted]

theorem SameLetter.eq_sigma_iff {c d : Char} (same : SameLetter c d) : c = 'Σ' ↔ d = 'Σ' := by
  have sigma (e : Char) (alpha : e.isAlpha = true) : e ≠ 'Σ' := by
    rintro rfl
    exact absurd alpha (by decide)
  obtain rfl | ⟨first, second⟩ := same.eq_or_isAlpha
  · rfl
  · exact iff_of_false (sigma c first) (sigma d second)

namespace SameButForCase

variable {cs ds : List Char}

theorem dropWhile {test : Char → Bool} (blind : IsCaseBlind test) (same : SameButForCase cs ds) :
    SameButForCase (cs.dropWhile test) (ds.dropWhile test) := by
  induction same with
  | nil => exact .nil
  | @cons c d rest others head tail ih =>
      rw [List.dropWhile_cons, List.dropWhile_cons, blind head]
      split
      · exact ih
      · exact .cons head tail

theorem trim (same : SameButForCase cs ds) : SameButForCase (trim cs) (trim ds) := by
  have front := dropWhile isCaseBlind_isBlank same
  have back := dropWhile isCaseBlind_isBlank (List.rel_reverse front)
  exact List.rel_reverse back

theorem prependToFirst {c d : Char} (head : SameLetter c d) {parts others : List (List Char)}
    (same : List.Forall₂ SameButForCase parts others) :
    List.Forall₂ SameButForCase (prependToFirst c parts) (prependToFirst d others) := by
  cases same with
  | nil => exact .cons (.cons head .nil) .nil
  | cons first later => exact .cons (.cons head first) later

theorem pieces {ends : Char → Bool} (blind : IsCaseBlind ends) (same : SameButForCase cs ds) :
    List.Forall₂ SameButForCase (pieces ends cs) (pieces ends ds) := by
  induction same with
  | nil => exact .cons .nil .nil
  | @cons c d rest others head tail ih =>
      rw [Text.pieces, Text.pieces, blind head]
      split
      · exact .cons .nil ih
      · exact prependToFirst head ih

theorem startsCased_eq (same : SameButForCase cs ds) : startsCased cs = startsCased ds := by
  induction same with
  | nil => rfl
  | cons head _ ih =>
      rw [startsCased, startsCased, isCaseBlind_isCaseIgnorable head, isCaseBlind_isCased head, ih]

theorem lowerFrom_eq (before : Bool) (same : SameButForCase cs ds) :
    lowerFrom before cs = lowerFrom before ds := by
  induction same generalizing before with
  | nil => rfl
  | @cons c d rest others head tail ih =>
      have after_eq : casedAfter before c = casedAfter before d := by
        rw [casedAfter, casedAfter, isCaseBlind_isCaseIgnorable head, isCaseBlind_isCased head]
      rw [lowerFrom, lowerFrom, after_eq, ih, startsCased_eq tail, head.lowerChar_eq]
      simp only [head.eq_sigma_iff]

theorem lower_eq (same : SameButForCase cs ds) : lower cs = lower ds :=
  lowerFrom_eq false same

/-- Texts that differ at all have letters. -/
theorem eq_or_exists_isAlpha (same : SameButForCase cs ds) :
    cs = ds ∨ (∃ c ∈ cs, c.isAlpha = true) ∧ ∃ d ∈ ds, d.isAlpha = true := by
  induction same with
  | nil => exact .inl rfl
  | @cons c d rest others head tail ih =>
      obtain rfl | ⟨first, second⟩ := head.eq_or_isAlpha
      · obtain rfl | ⟨⟨c', among, alpha⟩, d', among', alpha'⟩ := ih
        · exact .inl rfl
        · exact .inr ⟨⟨c', List.mem_cons_of_mem c among, alpha⟩, d',
            List.mem_cons_of_mem c among', alpha'⟩
      · exact .inr ⟨⟨c, List.mem_cons_self, first⟩, d, List.mem_cons_self, second⟩

end SameButForCase

end EntrySearch.Text
