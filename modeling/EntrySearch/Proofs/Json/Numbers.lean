import EntrySearch.Json.Reader
import EntrySearch.Json.Writer
import EntrySearch.Proofs.Decimal.EnoughDigits
import EntrySearch.Proofs.Json.Line
import EntrySearch.Proofs.Value.SameKeys

/-!
# Numbers are read back

Whole numbers and doubles are read back from what is written for them, wherever no character follows
that a number could go on with.
-/

namespace EntrySearch

namespace Decimal

/-! ## Digits -/

theorem ofDigits_append (front back : List Char) :
    ofDigits (front ++ back) = ofDigits front * 10 ^ back.length + ofDigits back := by
  induction back using List.reverseRecOn with
  | nil => simp
  | append_singleton back c ih =>
      rw [← List.append_assoc, ofDigits_concat, ofDigits_concat, ih, List.length_append,
        List.length_singleton, pow_succ]
      ring

@[simp]
theorem ofDigits_replicate_zero (count : Nat) : ofDigits (List.replicate count '0') = 0 := by
  rw [ofDigits_eq_ofDigitChars, Nat.ofDigitChars_replicate_zero, Nat.mul_zero]

theorem ofDigits_digits (n : Nat) : ofDigits (digits n) = n := by
  rw [ofDigits_eq_ofDigitChars]
  exact Nat.ofDigitChars_ten_toDigits

@[simp]
theorem ofDigits_zero_cons (ds : List Char) : ofDigits ('0' :: ds) = ofDigits ds :=
  rfl

/-- Digits of a whole number that is not zero: there is one, and the first one is not a zero. -/
structure IsSignificant (ds : List Char) : Prop where
  isDigit : ∀ c ∈ ds, c.isDigit = true
  filled : ds ≠ []
  first : ds.head? ≠ some '0'

theorem isSignificant_digits {n : Nat} (positive : 0 < n) : IsSignificant (digits n) := by
  refine ⟨isDigit_of_mem_digits, Nat.toDigits_ne_nil, fun zero => ?_⟩
  obtain ⟨rest, split⟩ := List.head?_eq_some_iff.mp zero
  have written : ∀ c ∈ '0' :: rest, c.isDigit = true := split ▸ isDigit_of_mem_digits
  have value : ofDigits rest = n := by rw [← ofDigits_zero_cons, ← split, ofDigits_digits]
  have small := ofDigits_lt (List.forall_mem_cons.mp written).2
  rw [value] at small
  cases rest with
  | nil => exact absurd small (by simp; omega)
  | cons c others =>
      have short := (length_digits_le_iff (Nat.succ_pos others.length)).mpr small
      rw [split] at short
      exact absurd short (by simp)

namespace IsSignificant

variable {ds more : List Char}

theorem append (significant : IsSignificant ds) (written : ∀ c ∈ more, c.isDigit = true) :
    IsSignificant (ds ++ more) where
  isDigit := List.forall_mem_append.mpr ⟨significant.isDigit, written⟩
  filled := List.append_ne_nil_of_left_ne_nil significant.filled more
  first := by
    rw [List.head?_append_of_ne_nil _ significant.filled]
    exact significant.first

theorem take (significant : IsSignificant ds) {count : Nat} (positive : 0 < count) :
    IsSignificant (ds.take count) where
  isDigit := fun c member => significant.isDigit c (List.mem_of_mem_take member)
  filled := by simp [positive.ne', significant.filled]
  first := by
    rw [List.head?_take, if_neg positive.ne']
    exact significant.first

theorem head?_ne_minus (significant : IsSignificant ds) (rest : List Char) :
    (ds ++ rest).head? ≠ some '-' := by
  rw [List.head?_append_of_ne_nil _ significant.filled]
  intro minus
  exact absurd (significant.isDigit '-' (List.mem_of_head? minus)) (by decide)

end IsSignificant

theorem exists_zeros (fraction : Fraction) :
    ∃ count, digits fraction.mantissa = fraction.significant.1 ++ List.replicate count '0' := by
  have zeros := List.eq_replicate_of_mem fun c member =>
    of_decide_eq_true (List.mem_takeWhile_imp (p := (· = '0'))
      (l := (digits fraction.mantissa).reverse) (List.mem_reverse.mp member))
  refine ⟨_, Eq.trans ?_ (congrArg _ zeros)⟩
  rw [Fraction.significant, ← List.reverse_append, List.takeWhile_append_dropWhile,
    List.reverse_reverse]

theorem significant_worth (fraction : Fraction) :
    (ofDigits fraction.significant.1 : ℚ) *
        10 ^ (fraction.significant.2 - fraction.significant.1.length) = fraction.worth := by
  obtain ⟨count, split⟩ := exists_zeros fraction
  have point_eq : fraction.significant.2 - fraction.significant.1.length =
      count + fraction.exponent := by
    change fraction.exponent + ((digits fraction.mantissa).length : Int) - _ = _
    rw [split, List.length_append, List.length_replicate]
    omega
  have mantissa_eq : (fraction.mantissa : ℚ) = ofDigits fraction.significant.1 * 10 ^ count := by
    rw [← ofDigits_digits fraction.mantissa, split, ofDigits_append]
    simp
  rw [point_eq, Fraction.worth, mantissa_eq, zpow_add₀ (by norm_num), zpow_natCast, mul_assoc]

theorem isSignificant_significant {fraction : Fraction} (positive : 0 < fraction.mantissa) :
    IsSignificant fraction.significant.1 := by
  obtain ⟨count, split⟩ := exists_zeros fraction
  have significant := isSignificant_digits positive
  have filled : fraction.significant.1 ≠ [] := by
    intro none
    have value := ofDigits_digits fraction.mantissa
    rw [split, none, List.nil_append, ofDigits_replicate_zero] at value
    omega
  refine ⟨isDigit_of_mem_significant, filled, ?_⟩
  have first := significant.first
  rwa [split, List.head?_append_of_ne_nil _ filled] at first

end Decimal

namespace Json

open Decimal

/-! ## Parts of a number -/

/-- A text that starts with no digit. -/
def StopsDigits (rest : List Char) : Prop :=
  ∀ c ∈ rest.head?, c.isDigit = false

/-- A text that no number goes on with. -/
def EndsNumber (rest : List Char) : Prop :=
  ∀ c ∈ rest.head?, c.isDigit = false ∧ c ≠ '.' ∧ c ≠ 'e' ∧ c ≠ 'E'

theorem EndsNumber.stopsDigits {rest : List Char} (ends : EndsNumber rest) : StopsDigits rest :=
  fun c first => (ends c first).1

section Parts

variable {ds rest : List Char}

theorem takeWhile_digits (written : ∀ c ∈ ds, c.isDigit = true) (stops : StopsDigits rest) :
    (ds ++ rest).takeWhile Char.isDigit = ds := by
  rw [List.takeWhile_append_of_pos written]
  cases rest with
  | nil => exact List.append_nil ds
  | cons c more => rw [List.takeWhile_cons_of_neg (by simp [stops c rfl]), List.append_nil]

theorem dropWhile_digits (written : ∀ c ∈ ds, c.isDigit = true) (stops : StopsDigits rest) :
    (ds ++ rest).dropWhile Char.isDigit = rest := by
  rw [List.dropWhile_append_of_pos written]
  cases rest with
  | nil => rfl
  | cons c more => rw [List.dropWhile_cons_of_neg (by simp [stops c rfl])]

theorem takeWhole_zero : takeWhole ('0' :: rest) = (['0'], rest) :=
  rfl

theorem takeWhole_append (significant : IsSignificant ds) (stops : StopsDigits rest) :
    takeWhole (ds ++ rest) = (ds, rest) := by
  unfold takeWhole
  split
  · rename_i more same
    obtain ⟨c, others, rfl⟩ := List.exists_cons_of_ne_nil significant.filled
    obtain ⟨rfl, -⟩ := List.cons.inj same
    exact absurd rfl significant.first
  · rw [takeWhile_digits significant.isDigit stops, dropWhile_digits significant.isDigit stops]

theorem takeFraction_of_ends (ends : EndsNumber rest) : takeFraction rest = (none, rest) := by
  unfold takeFraction
  split
  · exact absurd rfl (ends '.' rfl).2.1
  · rfl

theorem takeFraction_append (written : ∀ c ∈ ds, c.isDigit = true) (filled : ds ≠ [])
    (stops : StopsDigits rest) :
    takeFraction ('.' :: (ds ++ rest)) = (some ds, rest) := by
  have some_digit : ds.isEmpty = false := List.isEmpty_eq_false_iff.mpr filled
  rw [takeFraction, takeWhile_digits written stops, dropWhile_digits written stops]
  simp [some_digit]

theorem takeExponent_of_ends (ends : EndsNumber rest) : takeExponent rest = (none, rest) := by
  cases rest with
  | nil => rfl
  | cons c more =>
      obtain ⟨-, -, not_small, not_great⟩ := ends c rfl
      simp [takeExponent, not_small, not_great]

theorem takeExponent_append (negative : Bool) (written : ∀ c ∈ ds, c.isDigit = true)
    (filled : ds ≠ []) (stops : StopsDigits rest) :
    takeExponent ('e' :: (if negative then '-' else '+') :: (ds ++ rest)) =
      (some (signed negative (ofDigits ds)), rest) := by
  have some_digit : ds.isEmpty = false := List.isEmpty_eq_false_iff.mpr filled
  have cut :
      splitSign ((if negative then '-' else '+') :: (ds ++ rest)) = (negative, ds ++ rest) := by
    cases negative <;> rfl
  simp only [takeExponent, cut, takeWhile_digits written stops, dropWhile_digits written stops,
    some_digit, true_or, Bool.not_false, and_self, if_true]

end Parts

/-! ## Numbers -/

/-- A minus for a negative number. -/
def minus (negative : Bool) : List Char :=
  if negative then ['-'] else []

/-- A number that is cut into its parts, one after another. -/
structure IsCutInto (unsigned whole : List Char) (fraction : Option (List Char))
    (exponent : Option Int) (rest : List Char) : Prop where
  no_minus : unsigned.head? ≠ some '-'
  filled : whole ≠ []
  parts : ∃ behind later, takeWhole unsigned = (whole, behind) ∧
    takeFraction behind = (fraction, later) ∧ takeExponent later = (exponent, rest)

section Numbers

variable {cs unsigned whole rest : List Char} {fraction : Option (List Char)}
  {exponent : Option Int}

theorem splitMinus (negative : Bool) (no_minus : unsigned.head? ≠ some '-') :
    decide ((minus negative ++ unsigned).head? = some '-') = negative ∧
      (if (minus negative ++ unsigned).head? = some '-' then (minus negative ++ unsigned).drop 1
        else minus negative ++ unsigned) = unsigned := by
  cases negative
  · exact ⟨decide_eq_false no_minus, if_neg no_minus⟩
  · exact ⟨rfl, rfl⟩

theorem readNumber_float (limit : Option Nat) (negative : Bool)
    (cut : IsCutInto unsigned whole fraction exponent rest)
    (broken : fraction ≠ none ∨ exponent ≠ none) :
    readNumber limit (minus negative ++ unsigned) =
      .ok (.float (toFloat negative (ofDigits (whole ++ fraction.getD []))
        (exponent.getD 0 - (fraction.getD []).length)), rest) := by
  obtain ⟨no_minus, filled, behind, later, whole_eq, fraction_eq, exponent_eq⟩ := cut
  obtain ⟨sign_eq, unsigned_eq⟩ := splitMinus negative no_minus
  have some_digit : whole.isEmpty = false := List.isEmpty_eq_false_iff.mpr filled
  unfold readNumber
  simp only [sign_eq, unsigned_eq, whole_eq, fraction_eq, exponent_eq, some_digit]
  cases fraction <;> cases exponent <;> simp_all

theorem readNumber_whole (limit : Option Nat) (negative : Bool)
    (cut : IsCutInto unsigned whole none none rest) :
    readNumber limit (minus negative ++ unsigned) =
      if exceeds limit whole.length then .error (.digits ⟨whole.length⟩)
      else .ok (.int (signed negative (ofDigits whole)), rest) := by
  obtain ⟨no_minus, filled, behind, later, whole_eq, fraction_eq, exponent_eq⟩ := cut
  obtain ⟨sign_eq, unsigned_eq⟩ := splitMinus negative no_minus
  have some_digit : whole.isEmpty = false := List.isEmpty_eq_false_iff.mpr filled
  unfold readNumber
  simp only [sign_eq, unsigned_eq, whole_eq, fraction_eq, exponent_eq, some_digit,
    Bool.false_eq_true, if_false]

end Numbers

/-! ## Digits around a point -/

section Place

variable {ds whole behind later rest : List Char} {fraction : Option (List Char)}
  {exponent : Option Int}

theorem isCutInto_of_significant (significant : IsSignificant whole) (stops : StopsDigits behind)
    (fraction_eq : takeFraction behind = (fraction, later))
    (exponent_eq : takeExponent later = (exponent, rest)) :
    IsCutInto (whole ++ behind) whole fraction exponent rest :=
  ⟨significant.head?_ne_minus behind, significant.filled, behind, later,
    takeWhole_append significant stops, fraction_eq, exponent_eq⟩

theorem isCutInto_whole (significant : IsSignificant whole) (ends : EndsNumber rest) :
    IsCutInto (whole ++ rest) whole none none rest :=
  isCutInto_of_significant significant ends.stopsDigits (takeFraction_of_ends ends)
    (takeExponent_of_ends ends)

/-- A number that stands in a text is cut into parts that are worth it. -/
structure IsRead (cs rest : List Char) (worth : ℚ) (whole : List Char)
    (fraction : Option (List Char)) (exponent : Option Int) : Prop where
  cut : IsCutInto cs whole fraction exponent rest
  broken : fraction ≠ none ∨ exponent ≠ none
  worth_eq : (ofDigits (whole ++ fraction.getD []) : ℚ) *
    10 ^ (exponent.getD 0 - (fraction.getD []).length) = worth

theorem stopsDigits_cons {c : Char} (other : c.isDigit = false) (more : List Char) :
    StopsDigits (c :: more) := fun _ first => Option.some.inj first ▸ other

theorem isDigit_of_mem_zeros {count : Nat} : ∀ c ∈ List.replicate count '0', c.isDigit = true :=
  fun _ member => List.eq_of_mem_replicate member ▸ rfl

theorem isRead_small (significant : IsSignificant ds) (ends : EndsNumber rest) (count : Nat) :
    IsRead ('0' :: '.' :: (List.replicate count '0' ++ ds ++ rest)) rest
      (ofDigits ds * 10 ^ (-(count : Int) - ds.length)) ['0']
      (some (List.replicate count '0' ++ ds)) none where
  cut := ⟨by simp, by simp, _, _, takeWhole_zero,
    takeFraction_append (List.forall_mem_append.mpr ⟨isDigit_of_mem_zeros, significant.isDigit⟩)
      (List.append_ne_nil_of_right_ne_nil _ significant.filled) ends.stopsDigits,
    takeExponent_of_ends ends⟩
  broken := .inl (by simp)
  worth_eq := by
    have power_eq : (0 : Int) - (List.replicate count '0' ++ ds).length = -count - ds.length := by
      rw [List.length_append, List.length_replicate]
      omega
    simp only [Option.getD_some, Option.getD_none, List.singleton_append, ofDigits_zero_cons,
      ofDigits_append, ofDigits_replicate_zero, power_eq, Nat.zero_mul, Nat.zero_add]

theorem isRead_great (significant : IsSignificant ds) (ends : EndsNumber rest) (count : Nat) :
    IsRead (ds ++ List.replicate count '0' ++ '.' :: (['0'] ++ rest)) rest
      (ofDigits ds * 10 ^ (count : Int)) (ds ++ List.replicate count '0') (some ['0']) none where
  cut := isCutInto_of_significant (significant.append isDigit_of_mem_zeros)
    (stopsDigits_cons rfl _) (takeFraction_append (by simp) (by simp) ends.stopsDigits)
    (takeExponent_of_ends ends)
  broken := .inl (by simp)
  worth_eq := by
    simp only [Option.getD_some, Option.getD_none, ofDigits_append, ofDigits_replicate_zero,
      List.length_replicate, List.length_singleton]
    push_cast
    simp

theorem isRead_split (significant : IsSignificant ds) (ends : EndsNumber rest) (count : Nat)
    (positive : 0 < count) (inside : count < ds.length) :
    IsRead (ds.take count ++ '.' :: (ds.drop count ++ rest)) rest
      (ofDigits ds * 10 ^ ((count : Int) - ds.length)) (ds.take count) (some (ds.drop count))
      none where
  cut := isCutInto_of_significant (significant.take positive) (stopsDigits_cons rfl _)
    (takeFraction_append (fun c member => significant.isDigit c (List.mem_of_mem_drop member))
      (by simpa using inside) ends.stopsDigits)
    (takeExponent_of_ends ends)
  broken := .inl (by simp)
  worth_eq := by
    have power_eq : (0 : Int) - (ds.drop count).length = count - ds.length := by
      rw [List.length_drop]
      omega
    simp only [Option.getD_some, Option.getD_none, List.take_append_drop, power_eq]

theorem isRead_scientific (significant : IsSignificant ds) (ends : EndsNumber rest)
    (negative : Bool) (width power : Nat) :
    IsRead
      (ds.take 1 ++ ((if (ds.drop 1).isEmpty then [] else '.' :: ds.drop 1) ++
        'e' :: (if negative then '-' else '+') :: (paddedDigits width power ++ rest))) rest
      (ofDigits ds * 10 ^ (signed negative power + 1 - ds.length)) (ds.take 1)
      (if (ds.drop 1).isEmpty then none else some (ds.drop 1)) (some (signed negative power)) where
  cut := by
    have tail_digits : ∀ c ∈ ds.drop 1, c.isDigit = true := fun c member =>
      significant.isDigit c (List.mem_of_mem_drop member)
    have power_filled : paddedDigits width power ≠ [] :=
      List.append_ne_nil_of_right_ne_nil _ Nat.toDigits_ne_nil
    have exponent_eq := takeExponent_append negative isDigit_of_mem_paddedDigits power_filled
      ends.stopsDigits
    rw [ofDigits_paddedDigits] at exponent_eq
    split
    · exact isCutInto_of_significant (significant.take one_pos) (stopsDigits_cons rfl _) rfl
        exponent_eq
    · rename_i filled
      exact isCutInto_of_significant (significant.take one_pos) (stopsDigits_cons rfl _)
        (takeFraction_append tail_digits (by simpa using filled) (stopsDigits_cons rfl _))
        exponent_eq
  broken := .inr (by simp)
  worth_eq := by
    have tail_eq :
        (if (ds.drop 1).isEmpty then none else some (ds.drop 1)).getD [] = ds.drop 1 := by
      split
      · exact (List.isEmpty_iff.mp ‹_›).symm
      · rfl
    have filled := List.length_pos_iff.mpr significant.filled
    have power_eq : signed negative power - (ds.drop 1).length =
        signed negative power + 1 - ds.length := by
      rw [List.length_drop]
      omega
    rw [tail_eq, List.take_append_drop, Option.getD_some, power_eq]

/-- Digits are read with the point where it was placed. -/
theorem isRead_place (layout : Layout) (suffix : layout.wholeSuffix.toList = ['.', '0'])
    (significant : IsSignificant ds) (ends : EndsNumber rest) (point : Int) :
    ∃ whole fraction exponent, IsRead (layout.place ds point ++ rest) rest
      (ofDigits ds * 10 ^ (point - ds.length)) whole fraction exponent := by
  unfold Layout.place
  split
  · split
    · rename_i small
      have point_eq : point = -(point.natAbs : Int) := by omega
      have form := isRead_small significant ends point.natAbs
      rw [← point_eq] at form
      exact ⟨_, _, _, by simpa using form⟩
    · split
      · rename_i positive great
        have power_eq : ((point.toNat - ds.length : Nat) : Int) = point - ds.length := by omega
        have form := isRead_great significant ends (point.toNat - ds.length)
        rw [power_eq] at form
        exact ⟨_, _, _, by simpa [suffix] using form⟩
      · rename_i positive inside
        have point_eq : (point.toNat : Int) = point := by omega
        have form := isRead_split significant ends point.toNat (by omega) (by omega)
        rw [point_eq] at form
        exact ⟨_, _, _, by simpa using form⟩
  · have power_eq : signed (point - 1 < 0) (point - 1).natAbs + 1 = point := by
      rw [signed_natAbs]
      omega
    have form := isRead_scientific significant ends (point - 1 < 0) layout.exponentWidth
      (point - 1).natAbs
    rw [power_eq] at form
    exact ⟨_, _, _, by simpa using form⟩

end Place

/-! ## Doubles and whole numbers -/

section Written

variable {rest : List Char} (ends : EndsNumber rest)

include ends

theorem readNumber_zero (limit : Option Nat) (negative : Bool) :
    readNumber limit (minus negative ++ ['0', '.', '0'] ++ rest) =
      .ok (.float (if negative then -0 else 0), rest) := by
  have cut : IsCutInto ('0' :: '.' :: (['0'] ++ rest)) ['0'] (some ['0']) none rest :=
    ⟨by simp, by simp, _, _, takeWhole_zero,
      takeFraction_append (by simp) (by simp) ends.stopsDigits, takeExponent_of_ends ends⟩
  have form := readNumber_float limit negative cut (.inl (by simp))
  have zero : toFloat negative 0 (-1) = if negative then -0 else 0 := by
    apply ofFloat_injective
    cases negative <;> decide +kernel
  rw [List.append_assoc]
  exact form.trans (congrArg _ (by simpa using zero))

/-- A double is read back from its digits. -/
theorem readNumber_write (limit : Option Nat) {x : Float} {negative : Bool} {significand : Nat}
    {exponent : Int} (parts : Binary.ofFloat x = .finite negative significand exponent) :
    readNumber limit (layout.write x ++ rest) = .ok (.float x, rest) := by
  rw [Layout.write, parts]
  change readNumber limit (minus negative ++ _ ++ rest) = _
  rcases Nat.eq_zero_or_pos significand with rfl | positive
  · rw [eq_zero_of_ofFloat parts]
    exact readNumber_zero ends limit negative
  · have canonical := isCanonical_of_ofFloat parts
    obtain ⟨whole, fraction, power, cut, broken, worth_eq⟩ := isRead_place layout rfl
      (isSignificant_significant (shortest_mantissa_pos canonical positive)) ends
      (shortest significand exponent).significant.2
    rw [significant_worth] at worth_eq
    have rounds := shortest_roundsTo canonical positive
    rw [← worth_eq] at rounds
    rw [if_neg positive.ne', List.append_assoc, readNumber_float limit negative cut broken,
      toFloat_eq parts positive rounds]

/-- A whole number that is short enough is read back. -/
theorem readNumber_integer {n : Int} (written : Decimal.isWritable n = true) :
    readNumber (some digitLimit) (integer n ++ rest) = .ok (.int n, rest) := by
  have short : (digits n.natAbs).length ≤ digitLimit := of_decide_eq_true written
  have text_eq : integer n = minus (n < 0) ++ digits n.natAbs := by
    rw [integer, minus]
    by_cases negative : n < 0 <;> simp [negative]
  have cut : IsCutInto (digits n.natAbs ++ rest) (digits n.natAbs) none none rest := by
    rcases Nat.eq_zero_or_pos n.natAbs with zero | positive
    · rw [zero]
      exact ⟨by simp [digits], by simp [digits], _, _, takeWhole_zero, takeFraction_of_ends ends,
        takeExponent_of_ends ends⟩
    · exact isCutInto_whole (isSignificant_digits positive) ends
  have fits : ¬exceeds (some digitLimit) (digits n.natAbs).length :=
    mt exceeds_some_iff.mp (Nat.not_lt.mpr short)
  rw [text_eq, List.append_assoc, readNumber_whole _ _ cut, if_neg fits, ofDigits_digits,
    signed_natAbs]

end Written

/-! ## Numbers and names -/

/-- What is read as a number starts with a digit, after a minus or at once. -/
theorem exists_digit_of_readNumber {limit : Option Nat} {cs : List Char}
    {read : Value × List Char} (taken : readNumber limit cs = .ok read) :
    ∃ negative c more, c.isDigit = true ∧ cs = minus negative ++ c :: more := by
  have starts {unsigned : List Char} (some : (takeWhole unsigned).1.isEmpty = false) :
      ∃ c more, c.isDigit = true ∧ unsigned = c :: more := by
    cases unsigned with
    | nil => exact absurd some (by decide)
    | cons c more =>
        refine ⟨c, more, Bool.not_eq_false _ |>.mp fun other => ?_, rfl⟩
        have zero : c ≠ '0' := by
          rintro rfl
          contradiction
        rw [takeWhole, List.takeWhile_cons_of_neg (by simp [other])] at some
        · contradiction
        · simpa using zero
  unfold readNumber at taken
  dsimp only at taken
  generalize unsigned_eq : (if cs.head? = some '-' then cs.drop 1 else cs) = unsigned at taken
  split at taken
  · contradiction
  · rename_i some
    obtain ⟨c, more, digit, rfl⟩ := starts (Bool.eq_false_iff.mpr some)
    split at unsigned_eq
    · rename_i minus_first
      obtain ⟨tail, rfl⟩ := List.head?_eq_some_iff.mp minus_first
      exact ⟨true, c, more, digit, congrArg (List.cons '-') unsigned_eq⟩
    · exact ⟨false, c, more, digit, unsigned_eq⟩

/-- No name starts like a number. -/
theorem readScalar_eq_readNumber (limit : Option Nat) (negative : Bool) {c : Char}
    (digit : c.isDigit = true) (more : List Char) :
    readScalar limit (minus negative ++ c :: more) =
      readNumber limit (minus negative ++ c :: more) := by
  have apart (letter : Char) (other : letter.isDigit = false) : letter ≠ c := by
    rintro rfl
    exact Bool.noConfusion (other.symm.trans digit)
  have unnamed : names.find? (fun name => name.1.isPrefixOf (minus negative ++ c :: more)) =
      none := by
    refine List.find?_eq_none.mpr ?_
    cases negative <;>
      simp [names, minus, apart 'n' rfl, apart 't' rfl, apart 'f' rfl, apart 'N' rfl, apart 'I' rfl,
        apart '-' rfl]
  rw [readScalar, unnamed]

end Json

end EntrySearch
