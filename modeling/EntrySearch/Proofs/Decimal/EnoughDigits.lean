import EntrySearch.Decimal.Shortest
import EntrySearch.Proofs.Decimal.Nearest

/-!
# Enough digits

The fraction with the fewest digits rounds to the double it is written for. There is one, since with
seventeen digits two neighbouring fractions lie closer than the numbers that round to a double reach.
-/

namespace EntrySearch.Decimal

variable {significand : Nat} {exponent : Int}

/-- The number that a fraction is. -/
def Fraction.worth (fraction : Fraction) : ℚ :=
  fraction.mantissa * 10 ^ fraction.exponent

theorem ten_zpow_mul (power : Int) : (10 : ℚ) ^ power * 10 ^ (-power).toNat = 10 ^ power.toNat := by
  rw [← zpow_natCast, ← zpow_natCast, ← zpow_add₀ (by norm_num)]
  congr 1
  omega

namespace Interval

/-! ## Ends -/

/-- An interval holds what rounds to a double. -/
structure IsAround (interval : Interval) (significand : Nat) (exponent : Int) : Prop where
  unit_pos : 0 < interval.unit
  low : (interval.low : ℚ) =
    (significand - halfStepDown significand exponent) * 2 ^ exponent * interval.unit
  value : (interval.value : ℚ) = significand * 2 ^ exponent * interval.unit
  high : (interval.high : ℚ) = (significand + 1 / 2) * 2 ^ exponent * interval.unit
  closed : interval.closed = true ↔ significand % 2 = 0

theorem isAround_around (positive : 0 < significand) (exponent : Int) :
    (around significand exponent).IsAround significand exponent := by
  have scale_eq : ((if 0 ≤ exponent then Nat.pow 2 exponent.toNat else 1 : Nat) : ℚ) =
      2 ^ exponent * (if 0 ≤ exponent then 1 else Nat.pow 2 exponent.natAbs : Nat) := by
    split
    · rename_i natural
      obtain ⟨power, rfl⟩ := Int.eq_ofNat_of_zero_le natural
      simp
    · obtain ⟨power, rfl⟩ : ∃ power : Nat, exponent = -(power : Int) :=
        ⟨exponent.natAbs, by omega⟩
      simp
  have down_eq : ((4 * significand - (if significand = Nat.pow 2 52 ∧ leastExponent < exponent
      then 1 else 2) : Nat) : ℚ) = 4 * (significand - halfStepDown significand exponent) := by
    rw [halfStepDown, Nat.pow_eq]
    split
    · rw [Nat.cast_sub (by omega)]
      push_cast
      ring
    · rw [Nat.cast_sub (by omega)]
      push_cast
      ring
  refine ⟨?_, ?_, ?_, ?_, ?_⟩
  · show 0 < 4 * (if _ then _ else _)
    split
    · decide
    · exact Nat.mul_pos (by decide) (Nat.pow_pos (by decide))
  · simp only [around, Nat.cast_mul, scale_eq, down_eq]
    push_cast
    ring
  · simp only [around, Nat.cast_mul, scale_eq]
    push_cast
    ring
  · simp only [around, Nat.cast_mul, scale_eq]
    push_cast
    ring
  · simp [around]

section Scale

variable {interval : Interval}

/-- The common denominator for fractions with a power of ten. -/
def scale (interval : Interval) (power : Int) : ℚ :=
  interval.unit * 10 ^ (-power).toNat

theorem cast_mul_down {n : Nat} {bound : ℚ} (value : (n : ℚ) = bound * interval.unit)
    (power : Int) :
    ((n * Nat.pow 10 (-power).toNat : Nat) : ℚ) = bound * interval.scale power := by
  rw [Nat.cast_mul, value, Nat.pow_eq, scale, mul_assoc]
  push_cast
  rfl

theorem cast_unit_mul_up (interval : Interval) (power : Int) :
    ((interval.unit * Nat.pow 10 power.toNat : Nat) : ℚ) = 10 ^ power * interval.scale power := by
  rw [Nat.pow_eq, scale]
  push_cast
  rw [← ten_zpow_mul]
  ring

end Scale

variable {interval : Interval} (is_around : interval.IsAround significand exponent)

include is_around

theorem IsAround.scale_pos (power : Int) : 0 < interval.scale power := by
  have : (0 : ℚ) < interval.unit := by exact_mod_cast is_around.unit_pos
  rw [scale]
  positivity

/-- A fraction is held by the interval if and only if it rounds to the double. -/
theorem holds_iff (fraction : Fraction) :
    interval.holds fraction = true ↔ RoundsTo fraction.worth significand exponent := by
  have scale_pos := is_around.scale_pos fraction.exponent
  have scaled : ((fraction.mantissa * interval.unit * Nat.pow 10 fraction.exponent.toNat : Nat) : ℚ) =
      fraction.worth * interval.scale fraction.exponent := by
    rw [mul_assoc, Nat.cast_mul, cast_unit_mul_up, Fraction.worth, mul_assoc]
  have low_end := cast_mul_down is_around.low fraction.exponent
  have high_end := cast_mul_down is_around.high fraction.exponent
  rw [holds]
  split
  · rename_i even
    simp only [Bool.and_eq_true, decide_eq_true_iff, ← Nat.cast_le (α := ℚ), scaled, low_end,
      high_end, mul_le_mul_iff_left₀ scale_pos]
    exact ⟨fun ⟨above, below⟩ => ⟨above, below, fun _ => is_around.closed.mp even⟩,
      fun rounds => ⟨rounds.low, rounds.high⟩⟩
  · rename_i odd
    rw [is_around.closed] at odd
    simp only [Bool.and_eq_true, decide_eq_true_iff, ← Nat.cast_lt (α := ℚ), scaled, low_end,
      high_end, mul_lt_mul_iff_left₀ scale_pos]
    constructor
    · rintro ⟨above, below⟩
      exact .of_lt above below
    · intro rounds
      exact ⟨lt_of_le_of_ne rounds.low fun same => odd (rounds.tie (.inl same.symm)),
        lt_of_le_of_ne rounds.high fun same => odd (rounds.tie (.inr same))⟩

/-! ## Neighbouring fractions -/

theorem floor_bounds (power : Int) :
    (interval.floor power * 10 ^ power : ℚ) ≤ significand * 2 ^ exponent ∧
      (significand * 2 ^ exponent : ℚ) < (interval.floor power + 1 : Nat) * 10 ^ power := by
  have scale_pos := is_around.scale_pos power
  have number := cast_mul_down is_around.value power
  have step := cast_unit_mul_up interval power
  have step_pos : 0 < interval.unit * Nat.pow 10 power.toNat :=
    Nat.mul_pos is_around.unit_pos (Nat.pow_pos (by decide))
  rw [floor]
  generalize interval.value * Nat.pow 10 (-power).toNat = numerator at *
  generalize interval.unit * Nat.pow 10 power.toNat = denominator at *
  have low : ((numerator / denominator : Nat) : ℚ) * denominator ≤ numerator := by
    exact_mod_cast Nat.div_mul_le_self numerator denominator
  have high : (numerator : ℚ) < (numerator / denominator + 1 : Nat) * denominator := by
    exact_mod_cast (Nat.div_lt_iff_lt_mul step_pos).mp (Nat.lt_succ_self _)
  rw [step, number, ← mul_assoc] at low high
  exact ⟨le_of_mul_le_mul_right low scale_pos, lt_of_mul_lt_mul_right high scale_pos.le⟩

theorem nearest?_roundsTo {power : Int} {fraction : Fraction}
    (found : interval.nearest? power = some fraction) :
    RoundsTo fraction.worth significand exponent := by
  rw [← holds_iff is_around]
  unfold nearest? at found
  dsimp only at found
  split at found
  · rename_i below above
    split at found
    · exact Option.some.inj found ▸ below
    · exact Option.some.inj found ▸ above
    · obtain rfl := Option.some.inj found
      split
      · exact below
      · exact above
  · rename_i below _
    exact Option.some.inj found ▸ below
  · rename_i above
    exact Option.some.inj found ▸ above
  · contradiction

theorem nearest?_ne_none {power : Int}
    (close : (10 : ℚ) ^ power < (1 / 2 + halfStepDown significand exponent) * 2 ^ exponent) :
    interval.nearest? power ≠ none := by
  intro none
  have neither : interval.holds ⟨interval.floor power, power⟩ = false ∧
      interval.holds ⟨interval.floor power + 1, power⟩ = false := by
    unfold nearest? at none
    dsimp only at none
    split at none
    · split at none <;> contradiction
    · contradiction
    · contradiction
    · exact ⟨‹_›, ‹_›⟩
  obtain ⟨not_below, not_above⟩ := neither
  obtain ⟨low, high⟩ := floor_bounds is_around power
  have unit_pos := two_zpow_pos exponent
  have step_pos : 0 < halfStepDown significand exponent := halfStepDown_pos _ _
  have below_low : (interval.floor power * 10 ^ power : ℚ) ≤
      (significand - halfStepDown significand exponent) * 2 ^ exponent := by
    by_contra inside
    rw [Bool.eq_false_iff, Ne, holds_iff is_around] at not_below
    refine not_below (.of_lt (not_le.mp inside) (low.trans_lt ?_))
    exact mul_lt_mul_of_pos_right (by linarith) unit_pos
  have above_high : ((significand + 1 / 2) * 2 ^ exponent : ℚ) ≤
      (interval.floor power + 1 : Nat) * 10 ^ power := by
    by_contra inside
    rw [Bool.eq_false_iff, Ne, holds_iff is_around] at not_above
    refine not_above (.of_lt (lt_trans ?_ high) (not_le.mp inside))
    exact mul_lt_mul_of_pos_right (by linarith) unit_pos
  push_cast at above_high
  linarith

/-! ## Seventeen digits -/

theorem zpow_neg_le_of_unit_le {count : Nat}
    (reached : interval.unit ≤ interval.value * 10 ^ count) :
    (10 : ℚ) ^ (-(count : Int)) ≤ significand * 2 ^ exponent := by
  have unit_pos : (0 : ℚ) < interval.unit := by exact_mod_cast is_around.unit_pos
  have reached_rat : (interval.unit : ℚ) ≤ interval.value * 10 ^ count := by exact_mod_cast reached
  rw [is_around.value] at reached_rat
  rw [zpow_neg, zpow_natCast, inv_le_iff_one_le_mul₀ (by positivity)]
  refine le_of_mul_le_mul_right ?_ unit_pos
  linarith

theorem pow_point_le (positive : 0 < significand) :
    (10 : ℚ) ^ (interval.point - 1) ≤ significand * 2 ^ exponent := by
  have unit_pos : (0 : ℚ) < interval.unit := by exact_mod_cast is_around.unit_pos
  have value_pos : 0 < interval.value := by
    have : (0 : ℚ) < interval.value := by
      rw [is_around.value]
      positivity
    exact_mod_cast this
  have filled (n : Nat) : 0 < (digits n).length := Nat.length_toDigits_pos
  rw [point]
  dsimp only
  split
  · rename_i whole
    have whole_le : ((interval.value / interval.unit : Nat) : ℚ) ≤ significand * 2 ^ exponent := by
      refine le_of_mul_le_mul_right ?_ unit_pos
      rw [← is_around.value]
      exact_mod_cast Nat.div_mul_le_self _ _
    have digits_le : (10 : ℚ) ^ ((digits (interval.value / interval.unit)).length - 1) ≤
        (interval.value / interval.unit : Nat) := by
      exact_mod_cast pow_length_digits_le whole
    refine le_trans (le_of_eq ?_) (digits_le.trans whole_le)
    rw [← zpow_natCast]
    congr 1
    have := filled (interval.value / interval.unit)
    omega
  · have := filled (interval.unit / interval.value)
    split
    · rename_i reached
      have exponent_eq : (2 - (digits (interval.unit / interval.value)).length - 1 : Int) =
          -((digits (interval.unit / interval.value)).length - 1 : Nat) := by omega
      rw [exponent_eq]
      exact zpow_neg_le_of_unit_le is_around reached
    · have exponent_eq : (1 - (digits (interval.unit / interval.value)).length - 1 : Int) =
          -((digits (interval.unit / interval.value)).length : Nat) := by omega
      have below := (Nat.div_lt_iff_lt_mul value_pos).mp
        (lt_pow_length_digits (interval.unit / interval.value))
      rw [exponent_eq]
      exact zpow_neg_le_of_unit_le is_around (by rw [mul_comm]; exact below.le)

/-- With as many digits as a double needs one of the two neighbouring fractions rounds to it. -/
theorem nearest?_mostDigits (canonical : IsCanonical significand exponent)
    (positive : 0 < significand) : interval.nearest? (interval.point - mostDigits) ≠ none := by
  have unit_pos := two_zpow_pos exponent
  have step_eq :
      (10 : ℚ) ^ (interval.point - mostDigits) * 10 ^ 16 = 10 ^ (interval.point - 1) := by
    rw [← zpow_natCast, ← zpow_add₀ (by norm_num)]
    congr 1
    rw [mostDigits]
    omega
  have step_le := pow_point_le is_around positive
  rw [← step_eq] at step_le
  apply nearest?_ne_none is_around
  rw [halfStepDown]
  split
  · rename_i power
    rw [power.1] at step_le
    push_cast at step_le
    linarith
  · have small : (significand : ℚ) * 2 ^ exponent ≤ 2 ^ 53 * 2 ^ exponent :=
      mul_le_mul_of_nonneg_right (by exact_mod_cast canonical.significand_lt.le) unit_pos.le
    linarith

/-- A search that comes to a number of digits at which there is a fraction finds one that rounds to
the double. -/
theorem search_roundsTo {point : Int} {last : Nat}
    (known : interval.nearest? (point - last) ≠ none) {fuel count : Nat} (first : count ≤ last)
    (enough : last < count + fuel) :
    RoundsTo (interval.search point fuel count).worth significand exponent := by
  induction fuel generalizing count with
  | zero => omega
  | succ fuel ih =>
      rw [search]
      split
      · rename_i found
        exact nearest?_roundsTo is_around found
      · rename_i none
        have later : count ≠ last := by
          rintro rfl
          exact known none
        exact ih (by omega) (by omega)

end Interval

/-- The shortest fraction of a double rounds to it. -/
theorem shortest_roundsTo (canonical : IsCanonical significand exponent)
    (positive : 0 < significand) :
    RoundsTo (shortest significand exponent).worth significand exponent := by
  have is_around := Interval.isAround_around positive exponent
  exact Interval.search_roundsTo is_around
    (Interval.nearest?_mostDigits is_around canonical positive) (by decide) (by decide)

/-- It has a digit that is not zero. -/
theorem shortest_mantissa_pos (canonical : IsCanonical significand exponent)
    (positive : 0 < significand) : 0 < (shortest significand exponent).mantissa :=
  (shortest_roundsTo canonical positive).mantissa_pos canonical positive

end EntrySearch.Decimal
