import EntrySearch.Proofs.Decimal.Doubles

/-!
# Rounding to doubles

Every rational that lies nearer to a double than to the others, or half way with the double being
the even one, is rounded to it.
-/

namespace EntrySearch.Decimal

open Float.Model Float.Model.UnpackedFloat

/-! ## Residual bits -/

/-- A mantissa stands for a number: the round bit is the next one, and the sticky bit tells whether
there is a tail behind it. -/
def Represents (mantissa : ExtendedMantissa) (x : ℚ) : Prop :=
  ∃ tail : ℚ, 0 ≤ tail ∧ tail < 1 ∧ (tail = 0 ↔ mantissa.stickyBit = false) ∧
    x = mantissa.mantissa + (mantissa.roundBit.toNat + tail) / 2

theorem Represents.shiftRightOne {mantissa : ExtendedMantissa} {x : ℚ}
    (represents : Represents mantissa x) : Represents mantissa.shiftRightOne (x / 2) := by
  obtain ⟨n, round, sticky⟩ := mantissa
  obtain ⟨tail, least, most, tail_eq, rfl⟩ := represents
  have split : ((n % 2 : Nat) : ℚ) + 2 * (n / 2 : Nat) = n := by exact_mod_cast Nat.mod_add_div n 2
  have bit : ((n % 2 != 0).toNat : ℚ) = (n % 2 : Nat) := by
    rcases Nat.mod_two_eq_zero_or_one n with even | odd <;> simp [*]
  refine ⟨(round.toNat + tail) / 2, ?_, ?_, ?_, ?_⟩
  · positivity
  · cases round <;> simp <;> linarith
  · cases round
    · simpa [ExtendedMantissa.shiftRightOne] using tail_eq
    · simp [ExtendedMantissa.shiftRightOne]
      linarith
  · simp only [ExtendedMantissa.shiftRightOne, bit, ← split]
    ring

theorem Represents.shiftRight {mantissa : ExtendedMantissa} {x : ℚ}
    (represents : Represents mantissa x) (count : Nat) :
    Represents (mantissa >>> count) (x / 2 ^ count) := by
  change Represents (count.repeat ExtendedMantissa.shiftRightOne mantissa) _
  induction count with
  | zero => simpa [Nat.repeat] using represents
  | succ count ih =>
      rw [Nat.repeat, pow_succ, ← div_div]
      exact ih.shiftRightOne

/-- A whole number is nearest to a number; half way between two it is the even one. -/
def IsNearest (n : Nat) (x : ℚ) : Prop :=
  |x - n| ≤ 1 / 2 ∧ (|x - n| = 1 / 2 → n % 2 = 0)

theorem Represents.roundedMantissa_eq {mantissa : ExtendedMantissa} {x : ℚ} {n : Nat}
    (represents : Represents mantissa x) (nearest : IsNearest n x) :
    mantissa.roundedMantissa = n := by
  obtain ⟨m, round, sticky⟩ := mantissa
  obtain ⟨tail, least, most, tail_eq, rfl⟩ := represents
  obtain ⟨close, tie⟩ := nearest
  obtain ⟨above, below⟩ := abs_le.mp close
  have tail_pos (known : sticky = true) : 0 < tail := by
    refine lt_of_le_of_ne least fun none => ?_
    rw [known] at tail_eq
    exact Bool.noConfusion (tail_eq.mp none.symm)
  simp only at tail_eq above below tie
  cases round <;> cases sticky
  · have none := tail_eq.mpr rfl
    simp only [none, Bool.toNat_false, Nat.cast_zero] at above below
    have upper : (n : ℚ) < m + 1 := by linarith
    have lower : (m : ℚ) < n + 1 := by linarith
    norm_cast at upper lower
    show m = n
    omega
  · have some := tail_pos rfl
    simp only [Bool.toNat_false, Nat.cast_zero] at above below
    have upper : (n : ℚ) < m + 1 := by linarith
    have lower : (m : ℚ) < n + 1 := by linarith
    norm_cast at upper lower
    show m = n
    omega
  · -- Half way the rounded mantissa is even, and so is the nearest number.
    have none := tail_eq.mpr rfl
    simp only [none, Bool.toNat_true, Nat.cast_one] at above below tie
    have upper : (n : ℚ) < m + 2 := by linarith
    have lower : (m : ℚ) < n + 1 := by linarith
    norm_cast at upper lower
    show m + m % 2 = n
    rcases (show n = m ∨ n = m + 1 by omega) with rfl | rfl
    · have := tie (by norm_num)
      omega
    · have := tie (by push_cast; norm_num)
      omega
  · have some := tail_pos rfl
    simp only [Bool.toNat_true, Nat.cast_one] at above below
    have upper : (n : ℚ) < m + 2 := by linarith
    have lower : (m : ℚ) < n := by linarith
    norm_cast at upper lower
    show m + 1 = n
    omega

theorem represents_exact (n : Nat) : Represents (.ofMantissaAndAccuracy n .exact) n :=
  ⟨0, le_rfl, one_pos, by simp [ExtendedMantissa.ofMantissaAndAccuracy],
    by simp [ExtendedMantissa.ofMantissaAndAccuracy]⟩

/-- A quotient with the accuracy of its remainder stands for the exact quotient. -/
theorem represents_quotient (n : Nat) {divisor : Nat} (positive : 0 < divisor) :
    Represents (.ofMantissaAndAccuracy (n / divisor) (accuracyOfFraction (n % divisor) divisor))
      (n / divisor) := by
  have divisor_pos : (0 : ℚ) < divisor := by exact_mod_cast positive
  have split : ((n % divisor : Nat) : ℚ) + divisor * (n / divisor : Nat) = n := by
    exact_mod_cast Nat.mod_add_div n divisor
  have small := Nat.mod_lt n positive
  have value : (n : ℚ) / divisor = (n / divisor : Nat) + (n % divisor : Nat) / divisor := by
    rw [← split]
    field_simp
    ring
  rw [accuracyOfFraction, value]
  generalize n % divisor = rest at *
  split
  · rename_i none
    simpa [none] using represents_exact (n / divisor)
  · rename_i some
    have rest_pos : (0 : ℚ) < rest := by exact_mod_cast Nat.pos_of_ne_zero some
    have rest_lt : (rest : ℚ) < divisor := by exact_mod_cast small
    rcases lt_trichotomy (2 * rest) divisor with less | half | more
    · rw [Nat.compare_eq_lt.mpr less]
      have less_half : (2 * rest : ℚ) < divisor := by exact_mod_cast less
      refine ⟨2 * rest / divisor, by positivity, (div_lt_one divisor_pos).mpr less_half, ?_, ?_⟩
      · simp [ExtendedMantissa.ofMantissaAndAccuracy, some, positive.ne']
      · simp only [ExtendedMantissa.ofMantissaAndAccuracy, Bool.toNat_false, Nat.cast_zero]
        ring
    · rw [Nat.compare_eq_eq.mpr half]
      refine ⟨0, le_rfl, one_pos, by simp [ExtendedMantissa.ofMantissaAndAccuracy], ?_⟩
      simp only [ExtendedMantissa.ofMantissaAndAccuracy, Bool.toNat_true, Nat.cast_one, add_zero,
        ← half]
      push_cast
      field_simp
    · rw [Nat.compare_eq_gt.mpr more]
      have more_half : (divisor : ℚ) < 2 * rest := by exact_mod_cast more
      refine ⟨(2 * rest - divisor) / divisor, ?_, ?_, ?_, ?_⟩
      · exact div_nonneg (by linarith) divisor_pos.le
      · rw [div_lt_one divisor_pos]
        linarith
      · simp [ExtendedMantissa.ofMantissaAndAccuracy, positive.ne', sub_eq_zero, more_half.ne']
      · simp only [ExtendedMantissa.ofMantissaAndAccuracy, Bool.toNat_true, Nat.cast_one]
        field_simp
        ring

/-! ## Intervals -/

/-- Half of the step down from a double, as a part of its own step: below a power of two the doubles
are twice as dense. -/
def halfStepDown (significand : Nat) (exponent : Int) : ℚ :=
  if significand = 2 ^ 52 ∧ leastExponent < exponent then 1 / 4 else 1 / 2

/-- A number lies nearest to a double; half way between two doubles it belongs to the even one. -/
structure RoundsTo (q : ℚ) (significand : Nat) (exponent : Int) : Prop where
  low : (significand - halfStepDown significand exponent) * 2 ^ exponent ≤ q
  high : q ≤ (significand + 1 / 2) * 2 ^ exponent
  tie : q = (significand - halfStepDown significand exponent) * 2 ^ exponent ∨
    q = (significand + 1 / 2) * 2 ^ exponent → significand % 2 = 0

/-- An exponent at which a number fills a significand, or the least one. -/
structure IsExponentOf (exponent : Int) (q : ℚ) : Prop where
  least : leastExponent ≤ exponent
  lt : q < 2 ^ 53 * 2 ^ exponent
  full : exponent = leastExponent ∨ 2 ^ 52 * 2 ^ exponent ≤ q

variable {q : ℚ} {significand : Nat} {exponent target : Int}

theorem halfStepDown_le (significand : Nat) (exponent : Int) :
    halfStepDown significand exponent ≤ 1 / 2 := by
  rw [halfStepDown]
  split <;> norm_num

theorem halfStepDown_pos (significand : Nat) (exponent : Int) :
    0 < halfStepDown significand exponent := by
  rw [halfStepDown]
  split <;> norm_num

/-- Between the ends the question of the even one does not arise. -/
theorem RoundsTo.of_lt (low : (significand - halfStepDown significand exponent) * 2 ^ exponent < q)
    (high : q < (significand + 1 / 2) * 2 ^ exponent) : RoundsTo q significand exponent := by
  refine ⟨low.le, high.le, ?_⟩
  rintro (same | same)
  · exact absurd same low.ne'
  · exact absurd same high.ne

theorem two_zpow_pos (exponent : Int) : (0 : ℚ) < 2 ^ exponent :=
  zpow_pos two_pos exponent

theorem two_zpow_le {first second : Int} (ordered : first ≤ second) :
    (2 : ℚ) ^ first ≤ 2 ^ second :=
  zpow_le_zpow_right₀ one_le_two ordered

theorem two_zpow_sub_one (exponent : Int) : (2 : ℚ) ^ (exponent - 1) = 2 ^ exponent / 2 := by
  rw [zpow_sub_one₀ two_ne_zero, div_eq_mul_inv]

theorem two_zpow_add_one (exponent : Int) : (2 : ℚ) ^ (exponent + 1) = 2 ^ exponent * 2 :=
  zpow_add_one₀ two_ne_zero exponent

theorem two_pow_mul_zpow (power : Nat) (exponent : Int) :
    (2 : ℚ) ^ power * 2 ^ exponent = 2 ^ (power + exponent) := by
  rw [zpow_add₀ two_ne_zero, zpow_natCast]

/-- A number that rounds to a double has the exponent of the double, or it lies just below a power
of two. -/
theorem RoundsTo.exponent_cases (rounds : RoundsTo q significand exponent)
    (canonical : IsCanonical significand exponent) (fits : IsExponentOf target q) :
    target = exponent ∨
      target = exponent - 1 ∧ significand = 2 ^ 52 ∧ leastExponent < exponent := by
  have unit_pos := two_zpow_pos exponent
  rcases lt_trichotomy target exponent with before | same | after
  · right
    have later : leastExponent < exponent := fits.least.trans_lt before
    have full : 2 ^ 52 ≤ significand := canonical.full.resolve_right later.ne'
    have below : (2 : ℚ) ^ target ≤ 2 ^ exponent / 2 := by
      rw [← two_zpow_sub_one]
      exact two_zpow_le (by omega)
    have power : significand = 2 ^ 52 := by
      by_contra other
      have greater : (2 ^ 52 + 1 : ℚ) ≤ significand := by
        exact_mod_cast Nat.lt_of_le_of_ne full (Ne.symm other)
      have := halfStepDown_le significand exponent
      have := mul_le_mul_of_nonneg_right
        (show (2 ^ 52 : ℚ) ≤ significand - halfStepDown significand exponent by linarith)
        unit_pos.le
      linarith [rounds.low, fits.lt]
    refine ⟨?_, power, later⟩
    by_contra other
    have far : (2 : ℚ) ^ target ≤ 2 ^ exponent / 2 / 2 := by
      rw [← two_zpow_sub_one, ← two_zpow_sub_one]
      exact two_zpow_le (by omega)
    have low := rounds.low
    rw [halfStepDown, if_pos ⟨power, later⟩, power] at low
    push_cast at low
    linarith [fits.lt]
  · exact .inl same
  · have filled := fits.full.resolve_left (canonical.least.trans_lt after).ne'
    have above : (2 : ℚ) ^ exponent * 2 ≤ 2 ^ target := by
      rw [← two_zpow_add_one]
      exact two_zpow_le (by omega)
    have significand_le : (significand + 1 : ℚ) ≤ 2 ^ 53 := by
      exact_mod_cast canonical.significand_lt
    have := mul_le_mul_of_nonneg_right
      (show (significand + 1 / 2 : ℚ) ≤ 2 ^ 53 - 1 / 2 by linarith) unit_pos.le
    linarith [rounds.high]

/-- In units of its exponent a double is the whole number nearest to the numbers that round to it. -/
theorem RoundsTo.isNearest (rounds : RoundsTo q significand exponent) :
    IsNearest significand (q / 2 ^ exponent) := by
  have unit_pos := two_zpow_pos exponent
  obtain ⟨low, high, tie⟩ := rounds
  have := halfStepDown_le significand exponent
  rw [← le_div_iff₀ unit_pos] at low
  rw [← div_le_iff₀ unit_pos] at high
  refine ⟨abs_le.mpr ⟨by linarith, by linarith⟩, fun half => tie ?_⟩
  rw [← div_eq_iff unit_pos.ne', ← div_eq_iff unit_pos.ne']
  rcases abs_eq (by norm_num) |>.mp half with above | below
  · exact .inr (by linarith)
  · exact .inl (by linarith)

theorem RoundsTo.isNearest_of_power (rounds : RoundsTo q (2 ^ 52) exponent)
    (later : leastExponent < exponent) (below : q < 2 ^ 52 * 2 ^ exponent) :
    IsNearest (2 ^ 53) (q / 2 ^ (exponent - 1)) := by
  have unit_pos := two_zpow_pos exponent
  have low := rounds.low
  rw [halfStepDown, if_pos ⟨rfl, later⟩] at low
  rw [← le_div_iff₀ unit_pos] at low
  rw [← div_lt_iff₀ unit_pos] at below
  have double : q / 2 ^ (exponent - 1) = 2 * (q / 2 ^ exponent) := by
    rw [two_zpow_sub_one]
    field_simp
  push_cast at low
  rw [double]
  refine ⟨abs_le.mpr ⟨?_, ?_⟩, fun _ => by decide⟩
  · push_cast
    linarith
  · push_cast
    linarith

/-! ## Rounding -/

theorem Represents.bounds {mantissa : ExtendedMantissa} {x : ℚ}
    (represents : Represents mantissa x) :
    (mantissa.mantissa : ℚ) ≤ x ∧ x < mantissa.mantissa + 1 := by
  obtain ⟨tail, least, most, _, rfl⟩ := represents
  cases mantissa.roundBit <;> simp <;> constructor <;> linarith

/-- The exponent that a mantissa is brought to. -/
abbrev targetOf (mantissa : Nat) (exponent : Int) : Int :=
  Format.binary64.targetExponent (totalExponent mantissa exponent)

theorem targetOf_eq (mantissa : Nat) (exponent : Int) :
    targetOf mantissa exponent = max (mantissa.log2 + exponent - 52) leastExponent := by
  change max ((mantissa.log2 : Int) + 1 + exponent - 53) (-1074) = max _ (-1074)
  congr 1
  omega

theorem isExponentOf_targetOf {mantissa : Nat} {accuracy : Accuracy} {x : ℚ}
    (represents : Represents (.ofMantissaAndAccuracy mantissa accuracy) x)
    (full : 2 ^ 52 ≤ mantissa ∨ exponent = leastExponent) :
    IsExponentOf (targetOf mantissa exponent) (x * 2 ^ exponent) := by
  have bounds : (mantissa : ℚ) ≤ x ∧ x < mantissa + 1 := by
    rcases accuracy with _ | _ | _ | _ <;> exact represents.bounds
  have unit_pos := two_zpow_pos exponent
  rw [targetOf_eq]
  refine ⟨le_max_right _ _, ?_, ?_⟩
  · have upper : (mantissa + 1 : ℚ) ≤ 2 ^ (mantissa.log2 + 1) := by
      exact_mod_cast Nat.lt_log2_self
    calc x * 2 ^ exponent < 2 ^ (mantissa.log2 + 1) * 2 ^ exponent :=
          mul_lt_mul_of_pos_right (bounds.2.trans_le upper) unit_pos
      _ = 2 ^ 53 * 2 ^ (mantissa.log2 + exponent - 52) := by
          rw [two_pow_mul_zpow, two_pow_mul_zpow]
          congr 1
          push_cast
          omega
      _ ≤ 2 ^ 53 * 2 ^ max (mantissa.log2 + exponent - 52) leastExponent :=
          mul_le_mul_of_nonneg_left (two_zpow_le (le_max_left _ _)) (by positivity)
  · rcases le_total ((mantissa.log2 : Int) + exponent - 52) leastExponent with low | high
    · exact .inl (max_eq_right low)
    · have some : mantissa ≠ 0 := by
        rintro rfl
        rw [full.resolve_left (by decide), show Nat.log2 0 = 0 from rfl] at high
        omega
      have lower : (2 ^ mantissa.log2 : ℚ) ≤ mantissa := by exact_mod_cast Nat.log2_self_le some
      right
      calc (2 : ℚ) ^ 52 * 2 ^ max ((mantissa.log2 : Int) + exponent - 52) leastExponent =
            2 ^ mantissa.log2 * 2 ^ exponent := by
            rw [max_eq_left high, two_pow_mul_zpow, two_pow_mul_zpow]
            congr 1
            omega
        _ ≤ x * 2 ^ exponent :=
            mul_le_mul_of_nonneg_right (lower.trans bounds.1) unit_pos.le

theorem le_targetOf {mantissa : Nat} (full : 2 ^ 52 ≤ mantissa ∨ exponent = leastExponent) :
    exponent ≤ targetOf mantissa exponent := by
  rw [targetOf_eq]
  rcases full with full | rfl
  · have : 52 ≤ mantissa.log2 := (Nat.le_log2 (by omega)).mpr full
    omega
  · exact le_max_right _ _

/-- Shifting to a greater exponent leaves the number as it is. -/
theorem Represents.shiftToExponent {mantissa : Nat} {accuracy : Accuracy} {x : ℚ}
    (represents : Represents (.ofMantissaAndAccuracy mantissa accuracy) x)
    (ordered : exponent ≤ target) :
    Represents (shiftToExponent mantissa exponent accuracy target).1
        (x * 2 ^ exponent / 2 ^ target) ∧
      (shiftToExponent mantissa exponent accuracy target).2 = target := by
  obtain ⟨count, rfl⟩ := Int.le.dest ordered
  have count_eq : (exponent + count - exponent).toNat = count := by omega
  rw [UnpackedFloat.shiftToExponent, count_eq]
  refine ⟨?_, rfl⟩
  have value : x * 2 ^ exponent / 2 ^ (exponent + (count : Int)) = x / 2 ^ count := by
    rw [zpow_add₀ two_ne_zero, zpow_natCast]
    have := (two_zpow_pos exponent).ne'
    field_simp
  rw [value]
  exact represents.shiftRight count

theorem shiftToTargetExponent_of_lt {n : Nat} (small : n < 2 ^ 53)
    (least : leastExponent ≤ exponent) :
    shiftToTargetExponent Format.binary64 n exponent .exact =
      (.ofMantissaAndAccuracy n .exact, exponent) := by
  have short : n.log2 ≤ 52 := by
    by_cases none : n = 0
    · rw [none]
      decide
    · exact Nat.le_of_lt_succ ((Nat.log2_lt none).mpr small)
  have count_eq : (targetOf n exponent - exponent).toNat = 0 := by
    rw [targetOf_eq]
    omega
  rw [shiftToTargetExponent, UnpackedFloat.shiftToExponent, count_eq]
  exact congrArg (Prod.mk _) (Int.add_zero exponent)

theorem shiftToTargetExponent_of_power (least : leastExponent ≤ exponent) :
    shiftToTargetExponent Format.binary64 (2 ^ 53) exponent .exact =
      (.ofMantissaAndAccuracy (2 ^ 52) .exact, exponent + 1) := by
  have count_eq : (targetOf (2 ^ 53) exponent - exponent).toNat = 1 := by
    rw [targetOf_eq, Nat.log2_two_pow]
    omega
  rw [shiftToTargetExponent, UnpackedFloat.shiftToExponent, count_eq]
  rfl

/-- A mantissa that is rounded and brought to its exponent. -/
def settled (sign : Sign) (mantissa : ExtendedMantissa) (exponent : Int) : UnpackedFloat :=
  let last := shiftToTargetExponent Format.binary64 mantissa.roundedMantissa exponent .exact
  if none : last.1.mantissa = 0 then .zero sign
  else .finite sign last.1.mantissa last.2 (Nat.pos_of_ne_zero none)

theorem roundWithAccuracy_eq_settled (sign : Sign) (mantissa : Nat) (start : Int)
    (accuracy : Accuracy) :
    roundWithAccuracy Format.binary64 sign mantissa start accuracy =
      settled sign (shiftToExponent mantissa start accuracy (targetOf mantissa start)).1
        (shiftToExponent mantissa start accuracy (targetOf mantissa start)).2 :=
  rfl

theorem settled_eq {sign : Sign} {mantissa : ExtendedMantissa} {n : Nat} {last : Int}
    (shifted : shiftToTargetExponent Format.binary64 mantissa.roundedMantissa exponent .exact =
      (.ofMantissaAndAccuracy n .exact, last)) (positive : 0 < n) :
    settled sign mantissa exponent = .finite sign n last positive := by
  unfold settled
  simp only [shifted]
  exact dif_neg positive.ne'

/-- A number is rounded to the double that it lies nearest to. -/
theorem roundWithAccuracy_eq {sign : Sign} {mantissa : Nat} {start : Int} {accuracy : Accuracy}
    {x : ℚ} (represents : Represents (.ofMantissaAndAccuracy mantissa accuracy) x)
    (full : 2 ^ 52 ≤ mantissa ∨ start = leastExponent)
    (canonical : IsCanonical significand exponent) (positive : 0 < significand)
    (rounds : RoundsTo (x * 2 ^ start) significand exponent) :
    roundWithAccuracy Format.binary64 sign mantissa start accuracy =
      .finite sign significand exponent positive := by
  have fits := isExponentOf_targetOf represents full
  obtain ⟨shifted, target_eq⟩ := represents.shiftToExponent (le_targetOf full)
  rw [roundWithAccuracy_eq_settled, target_eq]
  rcases rounds.exponent_cases canonical fits with same | ⟨before, rfl, later⟩
  · rw [same] at shifted ⊢
    refine settled_eq ?_ positive
    rw [shifted.roundedMantissa_eq rounds.isNearest,
      shiftToTargetExponent_of_lt canonical.significand_lt canonical.least]
  · rw [before] at shifted fits ⊢
    have below : x * 2 ^ start < 2 ^ 52 * 2 ^ exponent := by
      have := fits.lt
      rw [two_zpow_sub_one] at this
      linarith
    refine settled_eq ?_ positive
    rw [shifted.roundedMantissa_eq (rounds.isNearest_of_power later below),
      shiftToTargetExponent_of_power (by omega), Int.sub_add_cancel]

end EntrySearch.Decimal
