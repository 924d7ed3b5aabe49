import EntrySearch.Proofs.Text.LetterCase
import Mathlib.Data.List.DropRight

/-!
# Lower case beside other text

The lower-case form of a part of a text depends on the rest in one way only: a sigma at the end of
the part is a final one or not, as letters with case stand on both sides of it. Blank characters
around a text make no difference.
-/

namespace EntrySearch.Text

/-- The character that is met first, apart from those that are passed over, is a letter with case;
if all are passed over it is what `beyond` tells. -/
def meetsCased (beyond : Bool) : List Char → Bool
  | [] => beyond
  | c :: rest => if isCaseIgnorable c then meetsCased beyond rest else isCased c

/-- The lower-case form of a character between others. -/
def formOf (before after : Bool) (c : Char) : List Char :=
  if c = 'Σ' then [if before && !after then 'ς' else 'σ'] else lowerChar c

/-- Lower case of a text that stands between others, each of which has a letter with case at its
near end or not. -/
def lowerWithin (before after : Bool) : List Char → List Char
  | [] => []
  | c :: rest =>
    formOf before (meetsCased after rest) c ++ lowerWithin (casedAfter before c) after rest

theorem meetsCased_false (cs : List Char) : meetsCased false cs = startsCased cs := by
  induction cs with
  | nil => rfl
  | cons c rest ih => rw [meetsCased, startsCased, ih]

theorem meetsCased_append (beyond : Bool) (front back : List Char) :
    meetsCased beyond (front ++ back) = meetsCased (meetsCased beyond back) front := by
  induction front with
  | nil => rfl
  | cons c front ih => rw [List.cons_append, meetsCased, meetsCased, ih]

/-- Seen from its end a text is read backwards. -/
theorem foldl_casedAfter (before : Bool) (cs : List Char) :
    cs.foldl casedAfter before = meetsCased before cs.reverse := by
  induction cs generalizing before with
  | nil => rfl
  | cons c rest ih =>
      rw [List.foldl_cons, ih, List.reverse_cons, meetsCased_append]
      rfl

theorem lowerWithin_false (before : Bool) (cs : List Char) :
    lowerWithin before false cs = lowerFrom before cs := by
  induction cs generalizing before with
  | nil => rfl
  | cons c rest ih =>
      rw [lowerWithin, ih, meetsCased_false]
      rfl

theorem lowerWithin_append (before after : Bool) (front back : List Char) :
    lowerWithin before after (front ++ back) =
      lowerWithin before (meetsCased after back) front ++
        lowerWithin (front.foldl casedAfter before) after back := by
  induction front generalizing before with
  | nil => rfl
  | cons c front ih =>
      rw [List.cons_append, lowerWithin, lowerWithin, ih, meetsCased_append, List.foldl_cons,
        List.append_assoc]

/-- Lower case of a text with another one behind it. -/
theorem lowerFrom_append (before : Bool) (front back : List Char) :
    lowerFrom before (front ++ back) =
      lowerWithin before (startsCased back) front ++
        lowerFrom (front.foldl casedAfter before) back := by
  rw [← lowerWithin_false, lowerWithin_append, meetsCased_false, lowerWithin_false]

theorem formOf_ne_nil (before after : Bool) (c : Char) : formOf before after c ≠ [] := by
  rw [formOf]
  split
  · exact List.cons_ne_nil _ _
  · exact lowerChar_ne_nil c

theorem eq_of_isMark_of_mem_formOf {before after : Bool} {c d : Char} (mark : isMark d = true)
    (member : d ∈ formOf before after c) : d = c := by
  rw [formOf] at member
  split at member
  · have small : d = 'ς' ∨ d = 'σ' := by
      rw [List.mem_singleton] at member
      split at member
      · exact .inl member
      · exact .inr member
    rcases small with rfl | rfl <;> exact absurd mark (by decide)
  · exact (isLower_of_mem_lowerChar c d member).2 mark

theorem mem_of_isMark_of_mem_lowerWithin {before after : Bool} {cs : List Char} {d : Char}
    (mark : isMark d = true) (member : d ∈ lowerWithin before after cs) : d ∈ cs := by
  induction cs generalizing before with
  | nil => exact member
  | cons c rest ih =>
      rw [lowerWithin, List.mem_append] at member
      rcases member with first | later
      · exact List.mem_cons.mpr (.inl (eq_of_isMark_of_mem_formOf mark first))
      · exact List.mem_cons_of_mem c (ih later)

/-! ## Blank characters -/

/-- What is known of a blank character. -/
structure IsPlainBlank (c : Char) : Prop where
  /-- It is not passed over beside a sigma. -/
  counted : isCaseIgnorable c = false
  /-- It is no letter with case. -/
  uncased : isCased c = false
  /-- It is its own lower-case form. -/
  lower : IsLower c

/-- No blank character belongs to ranges of code points that lie apart from the blank ones. -/
theorem not_inRanges_of_isBlank {c : Char} {ranges : List (Nat × Nat)} (blank : isBlank c = true)
    (apart : ∀ range ∈ blankRanges, ∀ other ∈ ranges, range.2 < other.1 ∨ other.2 < range.1) :
    inRanges ranges c.toNat = false := by
  obtain ⟨range, among, inside⟩ := inRanges_of_isBlank blank
  rw [Bool.eq_false_iff]
  intro hit
  obtain ⟨other, known, within⟩ := inRanges_iff.mp hit
  have := apart range among other known
  omega

theorem isPlainBlank_of_isBlank {c : Char} (blank : isBlank c = true) : IsPlainBlank c := by
  have marked : isMark c = true := by simp [isMark, blank]
  constructor
  · exact not_inRanges_of_isBlank blank (by decide +kernel)
  · rw [isCased]
    split
    · rw [Bool.eq_false_iff]
      intro alpha
      exact Bool.false_ne_true ((isPlainLetter_of_isAlpha alpha).unmarked.symm.trans marked)
    · exact not_inRanges_of_isBlank blank (by decide +kernel)
  · have apart : ∀ range ∈ blankRanges, ∀ run ∈ lowerRuns,
        range.2 < run.first ∨ run.last < range.1 := by decide +kernel
    obtain ⟨range, among, inside⟩ := inRanges_of_isBlank blank
    refine isLower_of_uncovered (fun run known => ?_) ?_
    · rw [Bool.eq_false_iff]
      intro covered
      obtain ⟨first_le, le_last, -⟩ := CaseRun.covers_iff.mp covered
      have := apart range among run known
      omega
    · rintro rfl
      exact absurd blank (by decide)

theorem dropWhile_append_cons {c : Char} (filled : isBlank c = false) (front back : List Char) :
    (front ++ c :: back).dropWhile isBlank = front.dropWhile isBlank ++ c :: back := by
  induction front with
  | nil => simp [filled]
  | cons d front ih =>
      rw [List.cons_append, List.dropWhile_cons, List.dropWhile_cons, ih]
      split <;> rfl

theorem trimEnd_append_cons {c : Char} (filled : isBlank c = false) (front back : List Char) :
    trimEnd (front ++ c :: back) = front ++ c :: trimEnd back := by
  simp [trimEnd, dropWhile_append_cons filled]

/-- A character that is not blank stops trimming on both sides. -/
theorem trim_append_cons {c : Char} (filled : isBlank c = false) (front back : List Char) :
    trim (front ++ c :: back) = front.dropWhile isBlank ++ c :: trimEnd back := by
  rw [trim, dropWhile_append_cons filled, trimEnd_append_cons filled]

theorem trimEnd_concat (cs : List Char) (c : Char) :
    trimEnd (cs ++ [c]) = if isBlank c then trimEnd cs else cs ++ [c] :=
  List.rdropWhile_concat isBlank cs c

theorem trim_dropWhile (cs : List Char) : trim (cs.dropWhile isBlank) = trim cs := by
  rw [trim, trim, List.dropWhile_idempotent]

theorem trim_trimEnd (cs : List Char) : trim (trimEnd cs) = trim cs := by
  by_cases blank : ∀ c ∈ cs, isBlank c = true
  · have nothing : trimEnd cs = [] := List.rdropWhile_eq_nil_iff.mpr blank
    rw [nothing, trim, trim, List.dropWhile_eq_nil_iff.mpr blank]
    rfl
  · push Not at blank
    obtain ⟨c, member, filled⟩ := blank
    rw [ne_eq, Bool.not_eq_true] at filled
    obtain ⟨front, back, rfl⟩ := List.append_of_mem member
    have again : trimEnd (trimEnd back) = trimEnd back := List.rdropWhile_idempotent isBlank back
    rw [trimEnd_append_cons filled, trim_append_cons filled, trim_append_cons filled, again]

theorem trim_trim (cs : List Char) : trim (trim cs) = trim cs :=
  (trim_trimEnd _).trans (trim_dropWhile cs)

/-- Nothing is left of a text with nothing but blank characters, and of no other one. -/
theorem trim_eq_nil_iff {cs : List Char} : trim cs = [] ↔ isAllBlank cs = true := by
  rw [isAllBlank, List.all_eq_true]
  constructor
  · intro nothing c member
    by_contra filled
    rw [Bool.not_eq_true] at filled
    obtain ⟨front, back, rfl⟩ := List.append_of_mem member
    rw [trim_append_cons filled] at nothing
    exact List.append_ne_nil_of_right_ne_nil _ (List.cons_ne_nil c _) nothing
  · intro blank
    rw [trim, List.dropWhile_eq_nil_iff.mpr blank]
    rfl

/-- Trimming leaves nothing but blank characters of a blank text only. -/
theorem isAllBlank_trim (cs : List Char) : isAllBlank (trim cs) = isAllBlank cs := by
  rw [Bool.eq_iff_iff, ← trim_eq_nil_iff, ← trim_eq_nil_iff, trim_trim]

/-- Behind a blank character the rest of a text stands as on its own. -/
theorem lowerFrom_cons_of_isBlank {c : Char} (blank : isBlank c = true) (before : Bool)
    (rest : List Char) : lowerFrom before (c :: rest) = c :: lowerFrom false rest := by
  have plain := isPlainBlank_of_isBlank blank
  obtain ⟨form, cut, -, -, same⟩ := lowerFrom_cons before c rest
  have alone : casedAfter before c = false := by simp [casedAfter, plain.counted, plain.uncased]
  rw [cut, same plain.lower, alone, List.singleton_append]

theorem lowerFrom_concat_of_isBlank {c : Char} (blank : isBlank c = true) (before : Bool)
    (cs : List Char) : lowerFrom before (cs ++ [c]) = lowerFrom before cs ++ [c] := by
  have plain := isPlainBlank_of_isBlank blank
  have alone : startsCased [c] = false := by simp [startsCased, plain.counted, plain.uncased]
  rw [lowerFrom_append, alone, lowerWithin_false, lowerFrom_cons_of_isBlank blank]
  rfl

/-- The parts of a text on both sides of a blank character are put in lower case on their own. -/
theorem lower_append_of_isBlank {c : Char} (blank : isBlank c = true) (front back : List Char) :
    lower (front ++ c :: back) = lower front ++ c :: lower back := by
  have plain := isPlainBlank_of_isBlank blank
  have alone : startsCased (c :: back) = false := by simp [startsCased, plain.counted, plain.uncased]
  rw [lower, lowerFrom_append, alone, lowerWithin_false, lowerFrom_cons_of_isBlank blank]
  rfl

theorem lowerFrom_dropWhile (cs : List Char) :
    lowerFrom false (cs.dropWhile isBlank) = (lowerFrom false cs).dropWhile isBlank := by
  induction cs with
  | nil => rfl
  | cons c rest ih =>
      by_cases blank : isBlank c = true
      · rw [lowerFrom_cons_of_isBlank blank, List.dropWhile_cons_of_pos blank,
          List.dropWhile_cons_of_pos blank, ih]
      · obtain ⟨form, cut, filled, made, -⟩ := lowerFrom_cons false c rest
        obtain ⟨d, more, rfl⟩ := List.exists_cons_of_ne_nil filled
        have filled : ¬isBlank d = true := by
          intro blank_form
          have same := (made d List.mem_cons_self).2 (by simp [isMark, blank_form])
          exact blank (same ▸ blank_form)
        rw [List.dropWhile_cons_of_neg blank, cut, List.cons_append,
          List.dropWhile_cons_of_neg filled]

theorem lowerFrom_trimEnd (before : Bool) (cs : List Char) :
    lowerFrom before (trimEnd cs) = trimEnd (lowerFrom before cs) := by
  induction cs using List.reverseRecOn with
  | nil => rfl
  | append_singleton cs c ih =>
      rw [trimEnd_concat]
      split
      · rename_i blank
        rw [ih, lowerFrom_concat_of_isBlank blank, trimEnd_concat, if_pos blank]
      · rename_i filled
        refine (List.rdropWhile_eq_self_iff.mpr fun nonempty blank => filled ?_).symm
        have last := getLast?_of_isMark_lowerFrom (by simp [isMark, blank])
          (List.getLast?_eq_getLast_of_ne_nil nonempty)
        rw [List.getLast?_concat, Option.some.injEq] at last
        exact last ▸ blank

/-- A text may be trimmed before or after it is put in lower case. -/
theorem lower_trim (cs : List Char) : lower (trim cs) = trim (lower cs) := by
  rw [trim, trim, lower, lowerFrom_trimEnd, lowerFrom_dropWhile, lower]

/-- A text that is not blank is not so in lower case either. -/
theorem trim_lowerWithin_ne_nil (before after : Bool) {cs : List Char}
    (filled : ∃ c ∈ cs, isBlank c = false) : trim (lowerWithin before after cs) ≠ [] := by
  obtain ⟨c, member, filled⟩ := filled
  obtain ⟨front, back, rfl⟩ := List.append_of_mem member
  rw [lowerWithin_append, lowerWithin]
  generalize front.foldl casedAfter before = near
  obtain ⟨d, more, form_eq⟩ := List.exists_cons_of_ne_nil
    (formOf_ne_nil near (meetsCased after back) c)
  have filled_form : isBlank d = false := by
    rw [Bool.eq_false_iff]
    intro blank
    have made : d ∈ formOf near (meetsCased after back) c := by simp [form_eq]
    rw [eq_of_isMark_of_mem_formOf (by simp [isMark, blank]) made, filled] at blank
    exact Bool.false_ne_true blank
  rw [form_eq, List.cons_append, trim_append_cons filled_form]
  simp

/-! ## A sigma at the end -/

/-- At the end of a text stands a sigma, behind it only characters that are passed over, and the
letters nearest to it in the texts before and after have case. -/
def SigmaMeets (before text after : List Char) : Prop :=
  ∃ front back, text = front ++ 'Σ' :: back ∧ (∀ c ∈ back, isCaseIgnorable c = true) ∧
    startsCased (before ++ front).reverse = true ∧ startsCased after = true

theorem meetsCased_of_passed (beyond : Bool) {cs : List Char}
    (passed : ∀ c ∈ cs, isCaseIgnorable c = true) : meetsCased beyond cs = beyond := by
  induction cs with
  | nil => rfl
  | cons c rest ih =>
      obtain ⟨here, later⟩ := List.forall_mem_cons.mp passed
      rw [meetsCased, if_pos here, ih later]

theorem passed_or_meetsCased_eq (cs : List Char) :
    (∀ c ∈ cs, isCaseIgnorable c = true) ∨ meetsCased true cs = meetsCased false cs := by
  induction cs with
  | nil => exact .inl (List.forall_mem_nil _)
  | cons c rest ih =>
      rw [meetsCased, meetsCased]
      by_cases here : isCaseIgnorable c = true
      · rw [if_pos here, if_pos here]
        exact ih.imp_left fun later => List.forall_mem_cons.mpr ⟨here, later⟩
      · rw [if_neg here, if_neg here]
        exact .inr rfl

theorem lowerWithin_of_passed (before after : Bool) {cs : List Char}
    (passed : ∀ c ∈ cs, isCaseIgnorable c = true) :
    lowerWithin before after cs = cs.flatMap lowerChar := by
  induction cs generalizing before with
  | nil => rfl
  | cons c rest ih =>
      obtain ⟨here, later⟩ := List.forall_mem_cons.mp passed
      have other : c ≠ 'Σ' := by
        rintro rfl
        exact absurd here (by decide +kernel)
      rw [lowerWithin, ih _ later, formOf, if_neg other, List.flatMap_cons]

/-- A sigma at the end takes the form that the text behind it asks for, and nothing else does. -/
theorem lowerWithin_sigma {before : Bool} (after : Bool) {front back : List Char}
    (cased : front.foldl casedAfter before = true)
    (passed : ∀ c ∈ back, isCaseIgnorable c = true) :
    lowerWithin before after (front ++ 'Σ' :: back) =
      lowerWithin before true front ++
        (if after then 'σ' else 'ς') :: back.flatMap lowerChar := by
  have counted : isCaseIgnorable 'Σ' = false := by decide +kernel
  have letter : isCased 'Σ' = true := by decide +kernel
  have meets : meetsCased after ('Σ' :: back) = true := by
    rw [meetsCased, counted, if_neg Bool.false_ne_true, letter]
  rw [lowerWithin_append, meets, cased, lowerWithin, meetsCased_of_passed after passed,
    lowerWithin_of_passed _ after passed]
  cases after <;> rfl

theorem lowerWithin_eq_of_no_sigma {before : Bool} {cs : List Char}
    (none : ∀ front back, cs = front ++ 'Σ' :: back → (∀ c ∈ back, isCaseIgnorable c = true) →
      front.foldl casedAfter before = false) :
    lowerWithin before true cs = lowerWithin before false cs := by
  induction cs generalizing before with
  | nil => rfl
  | cons c rest ih =>
      have later : lowerWithin (casedAfter before c) true rest =
          lowerWithin (casedAfter before c) false rest :=
        ih fun front back cut passed => none (c :: front) back (congrArg (c :: ·) cut) passed
      rw [lowerWithin, lowerWithin, later]
      congr 1
      by_cases sigma : c = 'Σ'
      · subst sigma
        rcases passed_or_meetsCased_eq rest with passed | same
        · have uncased : before = false := none [] rest rfl passed
          rw [uncased]
          rfl
        · rw [same]
      · rw [formOf, formOf, if_neg sigma, if_neg sigma]

/-- What stands behind a text changes its lower-case form exactly if it meets a sigma at its end. -/
theorem trim_lowerWithin_eq_iff (before text after : List Char) :
    trim (lowerWithin (before.foldl casedAfter false) (startsCased after) text) =
        trim (lowerFrom (before.foldl casedAfter false) text) ↔
      ¬SigmaMeets before text after := by
  have cased_eq (front : List Char) : startsCased (before ++ front).reverse =
      front.foldl casedAfter (before.foldl casedAfter false) := by
    rw [← List.foldl_append, foldl_casedAfter, meetsCased_false]
  rw [← lowerWithin_false]
  constructor
  · rintro same ⟨front, back, rfl, passed, cased, met⟩
    rw [cased_eq] at cased
    rw [met, lowerWithin_sigma true cased passed, lowerWithin_sigma false cased passed,
      trim_append_cons (by decide), trim_append_cons (by decide)] at same
    have sigmas := (List.cons.inj (List.append_cancel_left same)).1
    exact absurd sigmas (by decide)
  · intro apart
    cases met : startsCased after with
    | false => rfl
    | true =>
        rw [lowerWithin_eq_of_no_sigma fun front back cut passed => ?_]
        rw [Bool.eq_false_iff]
        intro cased
        exact apart ⟨front, back, cut, passed, (cased_eq front).trans cased, met⟩

end EntrySearch.Text
