import EntrySearch.Text.Casing
import EntrySearch.Text.Blank
import Mathlib.Data.List.Basic

/-!
# Lower case

A text in lower case stays as it is when it is put in lower case again, and so does every part of it.
Blank characters and the marks that separate terms are never made by lower case: where one stands, it
stood before.
-/

namespace EntrySearch.Text

/-- A character that is its own lower-case form. -/
def IsLower (c : Char) : Prop :=
  lowerChar c = [c]

instance (c : Char) : Decidable (IsLower c) :=
  inferInstanceAs (Decidable (_ = _))

/-- A blank character, or a mark that separates terms or the segments of a term. -/
def isMark (c : Char) : Bool :=
  isBlank c || c ∈ ['|', ',', ';', '.']

/-- The code points of blank characters. -/
def blankRanges : List (Nat × Nat) :=
  [(9, 13), (28, 32), (0x85, 0x85), (0xA0, 0xA0), (0x1680, 0x1680), (0x2000, 0x200A),
    (0x2028, 0x2029), (0x202F, 0x202F), (0x205F, 0x205F), (0x3000, 0x3000)]

/-- The code points of marks. -/
def markRanges : List (Nat × Nat) :=
  (0x2C, 0x2C) :: (0x2E, 0x2E) :: (0x3B, 0x3B) :: (0x7C, 0x7C) :: blankRanges

theorem inRanges_of_isBlank {c : Char} (blank : isBlank c = true) :
    ∃ range ∈ blankRanges, range.1 ≤ c.toNat ∧ c.toNat ≤ range.2 := by
  simp only [isBlank, Bool.or_eq_true, Bool.and_eq_true, decide_eq_true_iff, beq_iff_eq] at blank
  simp only [blankRanges, List.mem_cons, List.not_mem_nil, or_false, exists_eq_or_imp,
    exists_eq_left]
  omega

theorem inRanges_of_isMark {c : Char} (mark : isMark c = true) :
    ∃ range ∈ markRanges, range.1 ≤ c.toNat ∧ c.toNat ≤ range.2 := by
  simp only [isMark, Bool.or_eq_true, decide_eq_true_iff, List.mem_cons, List.not_mem_nil,
    or_false] at mark
  rcases mark with blank | rfl | rfl | rfl | rfl
  · obtain ⟨range, among, inside⟩ := inRanges_of_isBlank blank
    exact ⟨range, by simp [markRanges, among], inside⟩
  all_goals decide

namespace CaseRun

/-- The greatest image of a run. -/
def top (run : CaseRun) : Nat :=
  run.target + (run.last - run.first)

/-- No image of the run belongs to another run: the images lie below or above it, or fall between
its code points. -/
def avoids (run other : CaseRun) : Bool :=
  Nat.blt other.last run.target || Nat.blt run.top other.first ||
    ((run.step == 2 || run.first == run.last) && other.step == 2 &&
      (run.target + other.first) % 2 == 1)

variable {run other : CaseRun} {n : Nat}

theorem covers_iff :
    run.covers n = true ↔ run.first ≤ n ∧ n ≤ run.last ∧ (n - run.first) % run.step = 0 := by
  simp [covers, and_assoc]

theorem image_le_top (covered : run.covers n = true) :
    run.target ≤ run.image n ∧ run.image n ≤ run.top := by
  rw [covers_iff] at covered
  simp only [image, top]
  omega

theorem not_covers_image (avoided : run.avoids other = true) (covered : run.covers n = true) :
    other.covers (run.image n) = false := by
  obtain ⟨least, most⟩ := image_le_top covered
  rw [Bool.eq_false_iff]
  intro hit
  obtain ⟨first_le, le_last, paced⟩ := covers_iff.mp covered
  obtain ⟨other_first_le, le_other_last, hit⟩ := covers_iff.mp hit
  simp only [avoids, Bool.or_eq_true, Bool.and_eq_true, Nat.blt_eq, beq_iff_eq] at avoided
  rcases avoided with (below | above) | ⟨⟨pace, pairs⟩, odd⟩
  · omega
  · omega
  -- Both alternate, and the images of the one have the parity that the other one leaves out.
  · have even : (n - run.first) % 2 = 0 := by
      rcases pace with two | single
      · rwa [two] at paced
      · rw [show n - run.first = 0 by omega]
    rw [pairs] at hit
    simp only [image] at hit other_first_le
    omega

end CaseRun

/-- The images of all runs are code points of characters that are neither marks nor the capital with
a form of two characters. -/
theorem images_of_lowerRuns : ∀ run ∈ lowerRuns,
    (run.top < 0xD800 ∨ 0xE000 ≤ run.target ∧ run.top < 0x110000) ∧
      (run.top < 0x130 ∨ 0x130 < run.target) ∧
      ∀ range ∈ markRanges, range.2 < run.target ∨ run.top < range.1 := by
  decide +kernel

theorem avoids_of_mem_lowerRuns :
    ∀ run ∈ lowerRuns, ∀ other ∈ lowerRuns, run.avoids other = true := by
  have all : (lowerRuns.all fun run => lowerRuns.all fun other => run.avoids other) = true := by
    decide +kernel
  intro run member other
  exact List.all_eq_true.mp (List.all_eq_true.mp all run member) other

theorem ascii_toLower : ∀ n < 128, let c := Char.ofNat n
    (IsLower c.toLower ∧ (isMark c.toLower = true → c.toLower = c)) ∧
      (CaseRun.covers ⟨0x41, 0x5A, 1, 0x61⟩ n = false → c.toLower = c) := by
  decide +kernel

/-- A character outside of all runs is its own lower-case form, except one. -/
theorem isLower_of_uncovered {c : Char} (uncovered : ∀ run ∈ lowerRuns, run.covers c.toNat = false)
    (single : c ≠ '\u0130') : IsLower c := by
  unfold IsLower lowerChar
  by_cases small : c.toNat < 128
  · have outside := uncovered ⟨0x41, 0x5A, 1, 0x61⟩ (by decide)
    have same := (ascii_toLower c.toNat small).2 (by simpa using outside)
    rw [Char.ofNat_toNat] at same
    rw [if_pos small, same]
  · have missing : lowerRuns.find? (·.covers c.toNat) = none := by
      simpa [List.find?_eq_none] using uncovered
    rw [if_neg small, if_neg single, lowerCode, missing]
    exact congrArg (fun d => [d]) c.ofNat_toNat

theorem isLower_of_eq_image {run : CaseRun} {n : Nat} {d : Char} (known : run ∈ lowerRuns)
    (covered : run.covers n = true) (image : d = Char.ofNat (run.image n)) :
    IsLower d ∧ isMark d ≠ true := by
  obtain ⟨scalar, apart, unmarked⟩ := images_of_lowerRuns run known
  obtain ⟨least, most⟩ := CaseRun.image_le_top covered
  have valid : (run.image n).isValidChar := by
    rcases scalar with low | high
    · exact .inl (by omega)
    · exact .inr ⟨by omega, by omega⟩
  have code : d.toNat = run.image n := by
    rw [image, Char.ofNat, dif_pos valid]
    rfl
  constructor
  · refine isLower_of_uncovered (fun other among => ?_) (fun same => ?_)
    · rw [code]
      exact CaseRun.not_covers_image (avoids_of_mem_lowerRuns run known other among) covered
    · rw [same] at code
      have : (0x130 : Nat) = run.image n := code
      omega
  · intro mark
    obtain ⟨range, among, from_least, to_most⟩ := inRanges_of_isMark mark
    have := unmarked range among
    omega

/-- The lower-case form of a character is in lower case, and no mark is made. -/
theorem isLower_of_mem_lowerChar (c : Char) :
    ∀ d ∈ lowerChar c, IsLower d ∧ (isMark d = true → d = c) := by
  intro d member
  unfold lowerChar at member
  by_cases small : c.toNat < 128
  · rw [if_pos small, List.mem_singleton] at member
    have ascii := (ascii_toLower c.toNat small).1
    rw [Char.ofNat_toNat, ← member] at ascii
    exact ascii
  · by_cases single : c = '\u0130'
    · rw [if_neg small, if_pos single] at member
      simp only [List.mem_cons, List.not_mem_nil, or_false] at member
      rcases member with rfl | rfl
      · exact ⟨by decide +kernel, fun mark => absurd mark (by decide)⟩
      · exact ⟨by decide +kernel, fun mark => absurd mark (by decide)⟩
    · rw [if_neg small, if_neg single, List.mem_singleton, lowerCode] at member
      cases found : lowerRuns.find? (·.covers c.toNat) with
      | none =>
          rw [found] at member
          have same : d = c := member.trans c.ofNat_toNat
          rw [same]
          have uncovered : ∀ run ∈ lowerRuns, run.covers c.toNat = false := by
            simpa [List.find?_eq_none] using found
          exact ⟨isLower_of_uncovered uncovered single, fun _ => rfl⟩
      | some run =>
          rw [found] at member
          have covered : run.covers c.toNat = true := by simpa using List.find?_some found
          obtain ⟨lower, unmarked⟩ :=
            isLower_of_eq_image (List.mem_of_find?_eq_some found) covered member
          exact ⟨lower, fun mark => absurd mark unmarked⟩

theorem lowerChar_ne_nil (c : Char) : lowerChar c ≠ [] := by
  unfold lowerChar
  split
  · simp
  · split <;> simp

/-- What one more character in front adds: characters in lower case, no mark unless it is one. -/
theorem lowerFrom_cons (before : Bool) (c : Char) (rest : List Char) :
    ∃ form, lowerFrom before (c :: rest) = form ++ lowerFrom (casedAfter before c) rest ∧
      form ≠ [] ∧ (∀ d ∈ form, IsLower d ∧ (isMark d = true → d = c)) ∧
      (IsLower c → form = [c]) := by
  refine ⟨_, rfl, ?_⟩
  by_cases sigma : c = 'Σ'
  · subst sigma
    have capital : ¬ IsLower 'Σ' := by decide +kernel
    rw [if_pos rfl]
    refine ⟨by simp, fun d member => ?_, fun lower => absurd lower capital⟩
    rw [List.mem_singleton] at member
    rw [member]
    split <;> decide +kernel
  · rw [if_neg sigma]
    exact ⟨lowerChar_ne_nil c, isLower_of_mem_lowerChar c, id⟩

theorem isLower_of_mem_lowerFrom {before : Bool} {cs : List Char} {d : Char}
    (member : d ∈ lowerFrom before cs) : IsLower d := by
  induction cs generalizing before with
  | nil => exact absurd member (by simp [lowerFrom])
  | cons c rest ih =>
      obtain ⟨form, cut, -, lower, -⟩ := lowerFrom_cons before c rest
      rw [cut, List.mem_append] at member
      rcases member with first | later
      · exact (lower d first).1
      · exact ih later

theorem lowerFrom_eq_self {before : Bool} {cs : List Char} (small : ∀ c ∈ cs, IsLower c) :
    lowerFrom before cs = cs := by
  induction cs generalizing before with
  | nil => rfl
  | cons c rest ih =>
      obtain ⟨form, cut, -, -, same⟩ := lowerFrom_cons before c rest
      rw [List.forall_mem_cons] at small
      rw [cut, same small.1, ih small.2, List.singleton_append]

theorem lower_lower (cs : List Char) : lower (lower cs) = lower cs :=
  lowerFrom_eq_self fun _ => isLower_of_mem_lowerFrom

theorem mem_of_isMark_of_mem_lowerFrom {before : Bool} {cs : List Char} {d : Char}
    (mark : isMark d = true) (member : d ∈ lowerFrom before cs) : d ∈ cs := by
  induction cs generalizing before with
  | nil => exact member
  | cons c rest ih =>
      obtain ⟨form, cut, -, made, -⟩ := lowerFrom_cons before c rest
      rw [cut, List.mem_append] at member
      rcases member with first | later
      · rw [(made d first).2 mark]
        exact List.mem_cons_self
      · exact List.mem_cons_of_mem c (ih later)

theorem lowerFrom_eq_nil_iff {before : Bool} {cs : List Char} :
    lowerFrom before cs = [] ↔ cs = [] := by
  cases cs with
  | nil => simp [lowerFrom]
  | cons c rest =>
      obtain ⟨form, cut, filled, -⟩ := lowerFrom_cons before c rest
      simp [cut, filled]

theorem head?_of_isMark_lowerFrom {before : Bool} {cs : List Char} {d : Char}
    (mark : isMark d = true) (front : (lowerFrom before cs).head? = some d) :
    cs.head? = some d := by
  cases cs with
  | nil => exact front
  | cons c rest =>
      obtain ⟨form, cut, filled, made, -⟩ := lowerFrom_cons before c rest
      rw [cut, List.head?_append_of_ne_nil form filled] at front
      rw [(made d (List.mem_of_head? front)).2 mark, List.head?_cons]

theorem getLast?_of_isMark_lowerFrom {before : Bool} {cs : List Char} {d : Char}
    (mark : isMark d = true) (back : (lowerFrom before cs).getLast? = some d) :
    cs.getLast? = some d := by
  induction cs generalizing before with
  | nil => exact back
  | cons c rest ih =>
      obtain ⟨form, cut, -, made, -⟩ := lowerFrom_cons before c rest
      rw [cut] at back
      cases rest with
      | nil =>
          rw [lowerFrom, List.append_nil] at back
          rw [(made d (List.mem_of_getLast? back)).2 mark, List.getLast?_singleton]
      | cons next others =>
          have later : lowerFrom (casedAfter before c) (next :: others) ≠ [] := by
            simp [lowerFrom_eq_nil_iff]
          rw [List.getLast?_append_of_ne_nil _ later] at back
          rw [List.getLast?_cons_cons]
          exact ih back

end EntrySearch.Text
