import EntrySearch.Proofs.Decimal.Padding
import EntrySearch.Proofs.Decimal.Rounding

/-!
# Nearest doubles

Reading a decimal fraction gives the double that it rounds to.
-/

namespace EntrySearch.Decimal

open Float.Model Float.Model.UnpackedFloat

variable {significand : Nat} {exponent : Int}

/-! ## Packing -/

theorem ofUnpacked_unpack_packComponents (sign : Sign) (biased : BitVec 11) (fraction : BitVec 52) :
    Binary.ofUnpacked (UnpackedFloat.unpack Format.binary64
        (packComponents Format.binary64 sign biased fraction)) =
      Binary.ofParts (isMinus sign) biased.toNat fraction.toNat := by
  rw [ofUnpacked_unpack, ← toNat_unpackSign, ← toNat_unpackExponent, ← toNat_unpackMantissa,
    ← isMinus_ofBitVec, unpackSign_packComponents, unpackExponent_packComponents,
    unpackMantissa_packComponents, Sign.ofBitVec_toBitVec]

/-- The exponent as it is packed. -/
def biasedOf (significand : Nat) (exponent : Int) : Nat :=
  if 2 ^ 52 ≤ significand then (exponent + 1023 + 52).toNat else 0

theorem IsCanonical.biasedOf_lt (canonical : IsCanonical significand exponent) :
    biasedOf significand exponent < 2047 := by
  have := canonical.exponent_le
  rw [biasedOf]
  split <;> omega

theorem pack_eq (canonical : IsCanonical significand exponent) (positive : 0 < significand)
    (sign : Sign) :
    UnpackedFloat.pack Format.binary64 (.finite sign significand exponent positive) =
      packComponents Format.binary64 sign (BitVec.ofNat 11 (biasedOf significand exponent))
        (BitVec.ofNat 52 significand) := by
  obtain ⟨small, least, greatest, full⟩ := canonical
  rw [leastExponent] at least full
  have bits : significand.log2 + 1 = 53 ↔ 2 ^ 52 ≤ significand := by
    rw [← Nat.le_log2 positive.ne']
    have := (Nat.log2_lt positive.ne').mpr small
    omega
  rw [UnpackedFloat.pack, if_neg]
  · change (if significand.log2 + 1 = 53 then _ else _) = _
    rw [biasedOf]
    split
    · rename_i normal
      rw [if_pos (bits.mp normal)]
      rfl
    · rename_i subnormal
      rw [if_neg (mt bits.mpr subnormal)]
  · change ¬2048 ≤ (exponent + 1023 + 52).toNat + 1
    omega

theorem unpack_pack (canonical : IsCanonical significand exponent) (positive : 0 < significand)
    (sign : Sign) :
    UnpackedFloat.unpack Format.binary64
        (UnpackedFloat.pack Format.binary64 (.finite sign significand exponent positive)) =
      .finite sign significand exponent positive := by
  apply Binary.ofUnpacked_injective
  rw [pack_eq canonical, ofUnpacked_unpack_packComponents, BitVec.toNat_ofNat, BitVec.toNat_ofNat,
    Nat.mod_eq_of_lt (canonical.biasedOf_lt.trans (by decide)), Binary.ofUnpacked, Binary.ofParts,
    if_neg canonical.biasedOf_lt.ne]
  obtain ⟨small, least, greatest, full⟩ := canonical
  rw [leastExponent] at least full
  rw [biasedOf]
  by_cases normal : 2 ^ 52 ≤ significand
  · rw [if_pos normal, if_neg (by omega), leastExponent]
    congr 1
    · simp only [Nat.pow_eq]
      omega
    · omega
  · rw [if_neg normal, if_pos rfl, Nat.mod_eq_of_lt (by omega), full.resolve_left normal]
    rfl

/-! ## Products and quotients -/

theorem mul_eq {sign other : Sign} {m n : Nat} {d e : Int} (m_pos : 0 < m) (n_pos : 0 < n)
    (full : 2 ^ 52 ≤ m * n) (canonical : IsCanonical significand exponent)
    (positive : 0 < significand)
    (rounds : RoundsTo (m * 2 ^ d * (n * 2 ^ e)) significand exponent) :
    mul Format.binary64 (.finite sign m d m_pos) (.finite other n e n_pos) =
      .finite (sign * other) significand exponent positive := by
  refine roundWithAccuracy_eq (represents_exact (m * n)) (.inl full) canonical positive ?_
  rwa [zpow_add₀ two_ne_zero, Nat.cast_mul, mul_mul_mul_comm]

theorem div_eq (sign other : Sign) {m n : Nat} {d e : Int} (m_pos : 0 < m) (n_pos : 0 < n)
    (least : leastExponent ≤ d - e) (canonical : IsCanonical significand exponent)
    (positive : 0 < significand)
    (rounds : RoundsTo (m * 2 ^ d / (n * 2 ^ e)) significand exponent) :
    UnpackedFloat.div Format.binary64 (.finite sign m d m_pos) (.finite other n e n_pos) =
      .finite (sign / other) significand exponent positive := by
  have target_eq : Format.binary64.targetExponent (totalExponent m d - totalExponent n e) =
      max (m.log2 + d - n.log2 - e - 53) leastExponent := by
    change max ((m.log2 : Int) + 1 + d - (n.log2 + 1 + e) - 53) (-1074) = max _ (-1074)
    congr 1
    omega
  rw [UnpackedFloat.div, divCore, target_eq]
  generalize start_eq :
    min (d - e) (max ((m.log2 : Int) + d - n.log2 - e - 53) leastExponent) = start
  generalize count_eq : (d - e - start).toNat = count
  rw [Nat.shiftLeft_eq]
  refine roundWithAccuracy_eq (represents_quotient (m * 2 ^ count) n_pos) ?_ canonical positive ?_
  · refine or_iff_not_imp_right.mpr fun above => (Nat.le_div_iff_mul_le n_pos).mpr ?_
    calc 2 ^ 52 * n ≤ 2 ^ 52 * 2 ^ (n.log2 + 1) := Nat.mul_le_mul_left _ Nat.lt_log2_self.le
      _ = 2 ^ (52 + (n.log2 + 1)) := (pow_add 2 52 _).symm
      _ ≤ 2 ^ (m.log2 + count) := Nat.pow_le_pow_right (by decide) (by omega)
      _ = 2 ^ m.log2 * 2 ^ count := pow_add 2 _ _
      _ ≤ m * 2 ^ count := Nat.mul_le_mul_right _ (Nat.log2_self_le m_pos.ne')
  · have split : (2 : ℚ) ^ d = 2 ^ count * 2 ^ start * 2 ^ e := by
      rw [two_pow_mul_zpow, ← zpow_add₀ two_ne_zero]
      congr 1
      omega
    have value : ((m * 2 ^ count : Nat) : ℚ) / n * 2 ^ start = m * 2 ^ d / (n * 2 ^ e) := by
      have := (two_zpow_pos e).ne'
      have : (n : ℚ) ≠ 0 := by exact_mod_cast n_pos.ne'
      rw [split]
      push_cast
      field_simp
    rwa [value]

/-! ## Decimal fractions -/

theorem roundsTo_self (significand : Nat) (exponent : Int) :
    RoundsTo (significand * 2 ^ exponent) significand exponent := by
  have unit_pos := two_zpow_pos exponent
  have step_pos := halfStepDown_pos significand exponent
  exact .of_lt (mul_lt_mul_of_pos_right (by linarith) unit_pos)
    (mul_lt_mul_of_pos_right (by linarith) unit_pos)

/-- A double is a natural number, with a full significand and neither great nor small. -/
def IsExactly (x : Float) (n : Nat) : Prop :=
  ∃ significand exponent, Binary.ofFloat x = .finite false significand exponent ∧
    (significand : ℚ) * 2 ^ exponent = n ∧ 2 ^ 52 ≤ significand ∧ -52 ≤ exponent ∧ exponent ≤ 52

theorem isExactly_toFloat {n : Nat} (positive : 0 < n) (small : n < 2 ^ 53) :
    IsExactly n.toUInt64.toFloat n := by
  have log_le : n.log2 ≤ 52 := Nat.le_of_lt_succ ((Nat.log2_lt positive.ne').mpr small)
  have target_eq : targetOf n 0 = -((52 - n.log2 : Nat) : Int) := by
    rw [targetOf_eq, leastExponent]
    omega
  have full : 2 ^ 52 ≤ n * 2 ^ (52 - n.log2) := by
    calc 2 ^ 52 = 2 ^ n.log2 * 2 ^ (52 - n.log2) := by rw [← pow_add]; congr 1; omega
      _ ≤ n * 2 ^ (52 - n.log2) := Nat.mul_le_mul_right _ (Nat.log2_self_le positive.ne')
  have short : n * 2 ^ (52 - n.log2) < 2 ^ 53 := by
    calc n * 2 ^ (52 - n.log2) < 2 ^ (n.log2 + 1) * 2 ^ (52 - n.log2) :=
          Nat.mul_lt_mul_of_pos_right Nat.lt_log2_self (Nat.two_pow_pos _)
      _ = 2 ^ 53 := by rw [← pow_add]; congr 1; omega
  have canonical : IsCanonical (n * 2 ^ (52 - n.log2)) (-((52 - n.log2 : Nat) : Int)) :=
    ⟨short, by rw [leastExponent]; omega, by omega, .inl full⟩
  have some : 0 < n * 2 ^ (52 - n.log2) := by omega
  refine ⟨n * 2 ^ (52 - n.log2), -((52 - n.log2 : Nat) : Int), ?_, ?_, full, by omega, by omega⟩
  · have word : n.toUInt64.toNat = n := by
      rw [UInt64.toNat_ofNat']
      exact Nat.mod_eq_of_lt (by omega)
    have rounded : UnpackedFloat.normalize Format.binary64 (n : Int) 0 .positive =
        .finite .positive (n * 2 ^ (52 - n.log2)) (-((52 - n.log2 : Nat) : Int)) some := by
      have count_eq : (0 - targetOf n 0).toNat = 52 - n.log2 := by omega
      have exponent_eq : (0 : Int) - (52 - n.log2 : Nat) = -((52 - n.log2 : Nat) : Int) := by omega
      unfold UnpackedFloat.normalize
      rw [Int.compare_eq_gt.mpr (by omega)]
      change UnpackedFloat.round _ _ (n : Int).toNat 0 = _
      rw [Int.toNat_natCast, UnpackedFloat.round, decreaseExponent, count_eq, Nat.shiftLeft_eq,
        exponent_eq]
      exact roundWithAccuracy_eq (represents_exact _) (.inl full) canonical some
        (roundsTo_self _ _)
    rw [ofFloat_eq]
    change Binary.ofUnpacked (UnpackedFloat.unpack _ (UnpackedFloat.pack _
      (UnpackedFloat.normalize _ (n.toUInt64.toNat : Int) 0 .positive))) = _
    rw [word, rounded, unpack_pack canonical]
    rfl
  · rw [zpow_neg, zpow_natCast]
    push_cast
    field_simp

/-- Whether a double is a power of ten, with a full significand and neither great nor small. -/
def isPowerOfTen (power : Nat) (x : Float) : Bool :=
  match Binary.ofFloat x with
  | .finite false significand exponent =>
    significand * 2 ^ exponent.toNat == 10 ^ power * 2 ^ (-exponent).toNat &&
      2 ^ 52 ≤ significand && -52 ≤ exponent && exponent ≤ 52
  | _ => false

theorem isPowerOfTen_table : ∀ power : Fin 23,
    isPowerOfTen power Float.exactlyRepresentablePowersOfTen[power] = true := by
  decide +kernel

theorem isExactly_of_isPowerOfTen {power : Nat} {x : Float} (known : isPowerOfTen power x = true) :
    IsExactly x (10 ^ power) := by
  rw [isPowerOfTen] at known
  split at known
  · rename_i significand exponent parts
    simp only [Bool.and_eq_true, beq_iff_eq, decide_eq_true_iff] at known
    obtain ⟨⟨⟨value, full⟩, least⟩, greatest⟩ := known
    refine ⟨significand, exponent, parts, ?_, full, least, greatest⟩
    have value_rat : (significand : ℚ) * 2 ^ exponent.toNat =
        (10 ^ power : Nat) * 2 ^ (-exponent).toNat := by
      exact_mod_cast value
    have split : (2 : ℚ) ^ exponent.toNat = 2 ^ exponent * 2 ^ (-exponent).toNat := by
      rw [mul_comm, two_pow_mul_zpow, ← zpow_natCast]
      congr 1
      omega
    rw [split, ← mul_assoc] at value_rat
    exact mul_right_cancel₀ (by positivity) value_rat
  · contradiction

theorem unpack_of_ofFloat {x : Float} {negative : Bool}
    (parts : Binary.ofFloat x = .finite negative significand exponent)
    (positive : 0 < significand) :
    ∃ sign, isMinus sign = negative ∧
      x.toModel.unpack = .finite sign significand exponent positive := by
  rw [ofFloat_eq] at parts
  cases unpacked : x.toModel.unpack with
  | finite sign n d n_pos =>
      rw [unpacked] at parts
      obtain ⟨sign_eq, rfl, rfl⟩ := Binary.finite.inj parts
      exact ⟨sign, sign_eq, rfl⟩
  | zero sign =>
      rw [unpacked] at parts
      obtain ⟨_, rfl, _⟩ := Binary.finite.inj parts
      contradiction
  | infinity | notANumber =>
      rw [unpacked] at parts
      contradiction

theorem ofFloat_pack (canonical : IsCanonical significand exponent) (positive : 0 < significand)
    (sign : Sign) :
    Binary.ofFloat (.ofModel (.pack (.finite sign significand exponent positive))) =
      .finite (isMinus sign) significand exponent := by
  rw [ofFloat_eq]
  exact congrArg Binary.ofUnpacked (unpack_pack canonical positive sign)

section Exact

variable {x y : Float} {a b : Nat} (canonical : IsCanonical significand exponent)
  (positive : 0 < significand)

include canonical positive

theorem ofFloat_mul (exact_x : IsExactly x a) (exact_y : IsExactly y b)
    (rounds : RoundsTo (a * b) significand exponent) :
    Binary.ofFloat (x * y) = .finite false significand exponent := by
  obtain ⟨m, d, x_parts, x_value, x_full, _⟩ := exact_x
  obtain ⟨n, e, y_parts, y_value, y_full, _⟩ := exact_y
  obtain ⟨sign, sign_eq, x_unpacked⟩ := unpack_of_ofFloat x_parts (by omega)
  obtain ⟨other, other_eq, y_unpacked⟩ := unpack_of_ofFloat y_parts (by omega)
  change Binary.ofFloat (.ofModel (.pack (mul _ x.toModel.unpack y.toModel.unpack))) = _
  rw [← x_value, ← y_value] at rounds
  rw [x_unpacked, y_unpacked, mul_eq _ _ (by nlinarith) canonical positive rounds,
    ofFloat_pack canonical]
  cases sign <;> cases other <;> first | rfl | contradiction

theorem ofFloat_div (exact_x : IsExactly x a) (exact_y : IsExactly y b)
    (rounds : RoundsTo (a / b) significand exponent) :
    Binary.ofFloat (x / y) = .finite false significand exponent := by
  obtain ⟨m, d, x_parts, x_value, x_full, x_least, _⟩ := exact_x
  obtain ⟨n, e, y_parts, y_value, y_full, _, y_greatest⟩ := exact_y
  obtain ⟨sign, sign_eq, x_unpacked⟩ := unpack_of_ofFloat x_parts (by omega)
  obtain ⟨other, other_eq, y_unpacked⟩ := unpack_of_ofFloat y_parts (by omega)
  change Binary.ofFloat
    (.ofModel (.pack (UnpackedFloat.div _ x.toModel.unpack y.toModel.unpack))) = _
  rw [← x_value, ← y_value] at rounds
  rw [x_unpacked, y_unpacked,
    div_eq _ _ _ _ (by rw [leastExponent]; omega) canonical positive rounds, ofFloat_pack canonical]
  cases sign <;> cases other <;> first | rfl | contradiction

/-- A decimal fraction is rounded to the double that it lies nearest to. -/
theorem ofScientific_model_eq {mantissa : Nat} {power : Int} (some : 0 < mantissa)
    (power_le : power ≤ 2048) (le_power : -(2048 + mantissa.log2 : Int) ≤ power)
    (rounds : RoundsTo (mantissa * 10 ^ power) significand exponent) :
    UnpackedFloat.ofScientific Format.binary64 mantissa power =
      .finite .positive significand exponent positive := by
  rw [UnpackedFloat.ofScientific, dif_neg some.ne']
  change (if power > 2048 then _ else if power < -(2048 + (mantissa.log2 : Int)) then _ else
    if 0 ≤ power then mul _ (.finite _ (mantissa <<< 53) (-53) _) _ else _) = _
  rw [if_neg (not_lt.mpr power_le), if_neg (not_lt.mpr le_power)]
  split
  · rename_i whole
    obtain ⟨count, rfl⟩ := Int.eq_ofNat_of_zero_le whole
    have full : 2 ^ 52 ≤ mantissa <<< 53 * 10 ^ count := by
      rw [Nat.shiftLeft_eq]
      have : 1 ≤ mantissa * 10 ^ count := Nat.mul_pos some (Nat.pow_pos (by decide))
      nlinarith
    have value : ((mantissa <<< 53 : Nat) : ℚ) * 2 ^ (-53 : Int) *
        ((10 ^ count : Nat) * 2 ^ (0 : Int)) = mantissa * 10 ^ (count : Int) := by
      rw [Nat.shiftLeft_eq, zpow_neg, zpow_natCast]
      push_cast
      norm_num
      ring
    exact mul_eq _ _ full canonical positive (by rwa [value])
  · rename_i fractional
    obtain ⟨count, rfl⟩ : ∃ count : Nat, power = -(count : Int) := ⟨power.natAbs, by omega⟩
    have value : (mantissa : ℚ) * 2 ^ (0 : Int) / ((10 ^ count : Nat) * 2 ^ (0 : Int)) =
        mantissa * 10 ^ (-(count : Int)) := by
      rw [zpow_neg, zpow_natCast]
      push_cast
      simp [div_eq_mul_inv]
    refine div_eq .positive .positive _ _ (by decide) canonical positive ?_
    rwa [neg_neg, Int.toNat_natCast, value]

theorem ofFloat_ofScientific {mantissa places : Nat} {negative : Bool} (some : 0 < mantissa)
    (power_le : signed negative places ≤ 2048)
    (le_power : -(2048 + mantissa.log2 : Int) ≤ signed negative places)
    (rounds : RoundsTo (mantissa * 10 ^ signed negative places) significand exponent) :
    Binary.ofFloat (Float.ofScientific mantissa negative places) =
      .finite false significand exponent := by
  rw [Float.ofScientific]
  split
  · rename_i fast
    have exact_mantissa := isExactly_toFloat some fast.1
    have known := isPowerOfTen_table ⟨places, Nat.lt_succ_of_le fast.2⟩
    have exact_power := isExactly_of_isPowerOfTen known
    cases negative with
    | true =>
        refine ofFloat_div canonical positive exact_mantissa exact_power ?_
        rwa [Nat.cast_pow, div_eq_mul_inv, ← zpow_natCast, ← zpow_neg]
    | false =>
        refine ofFloat_mul canonical positive exact_mantissa exact_power ?_
        rwa [Nat.cast_pow, ← zpow_natCast]
  · have power_eq : (if negative = true then Int.negOfNat places else Int.ofNat places) =
        signed negative places := by
      cases negative
      · rfl
      · exact Int.negOfNat_eq
    dsimp only
    rw [power_eq]
    change Binary.ofFloat (.ofModel (.pack (UnpackedFloat.ofScientific _ mantissa _))) = _
    rw [ofScientific_model_eq canonical positive some power_le le_power rounds,
      ofFloat_pack canonical]
    rfl

end Exact

theorem ofFloat_neg {x : Float} {negative : Bool}
    (parts : Binary.ofFloat x = .finite negative significand exponent)
    (positive : 0 < significand) :
    Binary.ofFloat (-x) = .finite (!negative) significand exponent := by
  obtain ⟨sign, rfl, unpacked⟩ := unpack_of_ofFloat parts positive
  change Binary.ofFloat (.ofModel (.pack (UnpackedFloat.neg x.toModel.unpack))) = _
  rw [unpacked]
  change Binary.ofFloat (.ofModel (.pack (.finite (-sign) significand exponent positive))) = _
  rw [ofFloat_pack (isCanonical_of_ofFloat parts)]
  cases sign <;> rfl

/-! ## Places -/

theorem length_digits_le_iff {n count : Nat} (positive : 0 < count) :
    (digits n).length ≤ count ↔ n < 10 ^ count :=
  Nat.length_toDigits_le_iff (by decide) positive

theorem lt_pow_length_digits (n : Nat) : n < 10 ^ (digits n).length :=
  (length_digits_le_iff Nat.length_toDigits_pos).mp le_rfl

theorem pow_length_digits_le {n : Nat} (positive : 0 < n) : 10 ^ ((digits n).length - 1) ≤ n := by
  by_contra short
  rcases Nat.eq_zero_or_pos ((digits n).length - 1) with one | more
  · rw [one] at short
    omega
  · have := (length_digits_le_iff more).mpr (not_le.mp short)
    omega

theorem places_bounds {mantissa : Nat} (some : 0 < mantissa) (power : Int) :
    (10 : ℚ) ^ ((digits mantissa).length + power - 1) ≤ mantissa * 10 ^ power ∧
      (mantissa * 10 ^ power : ℚ) < 10 ^ ((digits mantissa).length + power) := by
  have scale : (0 : ℚ) < 10 ^ power := by positivity
  have filled : 0 < (digits mantissa).length := Nat.length_toDigits_pos
  constructor
  · have lower : (10 : ℚ) ^ ((digits mantissa).length - 1) ≤ mantissa := by
      exact_mod_cast pow_length_digits_le some
    refine le_trans (le_of_eq ?_) (mul_le_mul_of_nonneg_right lower scale.le)
    rw [← zpow_natCast, ← zpow_add₀ (by norm_num)]
    congr 1
    omega
  · have upper : (mantissa : ℚ) < 10 ^ (digits mantissa).length := by
      exact_mod_cast lt_pow_length_digits mantissa
    rw [zpow_add₀ (by norm_num), zpow_natCast]
    exact mul_lt_mul_of_pos_right upper scale

theorem two_pow_lt_placeBound : (2 : ℚ) ^ (1200 : Int) < 10 ^ placeBound := by
  have eight : (2 : ℚ) ^ (1200 : Int) = (2 ^ (3 : Int)) ^ (400 : Int) := zpow_mul 2 3 400
  rw [eight, placeBound]
  exact zpow_left_strictMonoOn₀ (by decide) (show (0 : ℚ) ≤ _ by norm_num)
    (show (0 : ℚ) ≤ _ by norm_num) (by norm_num)

/-- Numbers that round to a positive double are neither too great nor too small. -/
theorem RoundsTo.bounds {q : ℚ} (rounds : RoundsTo q significand exponent)
    (canonical : IsCanonical significand exponent) (positive : 0 < significand) :
    (10 : ℚ) ^ (-placeBound) < q ∧ q < 10 ^ placeBound := by
  obtain ⟨low, high, -⟩ := rounds
  obtain ⟨small, least, greatest, -⟩ := canonical
  have unit_pos := two_zpow_pos exponent
  constructor
  · have one : (1 : ℚ) ≤ significand := by exact_mod_cast positive
    have := halfStepDown_le significand exponent
    calc (10 : ℚ) ^ (-placeBound) < 2 ^ (-1200 : Int) := by
          rw [zpow_neg, zpow_neg]
          exact inv_strictAnti₀ (two_zpow_pos _) two_pow_lt_placeBound
      _ ≤ 2 ^ (leastExponent - 1) := two_zpow_le (by decide)
      _ = 1 / 2 * 2 ^ leastExponent := by
          rw [two_zpow_sub_one]
          ring
      _ ≤ 1 / 2 * 2 ^ exponent := mul_le_mul_of_nonneg_left (two_zpow_le least) (by norm_num)
      _ ≤ (significand - halfStepDown significand exponent) * 2 ^ exponent :=
          mul_le_mul_of_nonneg_right (by linarith) unit_pos.le
      _ ≤ q := low
  · have upper : (significand + 1 : ℚ) ≤ 2 ^ 53 := by exact_mod_cast small
    calc q ≤ (significand + 1 / 2) * 2 ^ exponent := high
      _ ≤ 2 ^ 53 * 2 ^ exponent := mul_le_mul_of_nonneg_right (by linarith) unit_pos.le
      _ ≤ 2 ^ 53 * 2 ^ (971 : Int) := mul_le_mul_of_nonneg_left (two_zpow_le greatest) (by norm_num)
      _ = 2 ^ (1024 : Int) := two_pow_mul_zpow 53 971
      _ ≤ 2 ^ (1200 : Int) := two_zpow_le (by decide)
      _ < 10 ^ placeBound := two_pow_lt_placeBound

theorem RoundsTo.mantissa_pos {mantissa : Nat} {power : Int}
    (rounds : RoundsTo (mantissa * 10 ^ power) significand exponent)
    (canonical : IsCanonical significand exponent) (positive : 0 < significand) : 0 < mantissa := by
  refine Nat.pos_of_ne_zero fun none => ?_
  have bounds := rounds.bounds canonical positive
  rw [none, Nat.cast_zero, zero_mul] at bounds
  exact absurd bounds.1 (not_lt.mpr (by positivity))

/-- Reading a decimal fraction gives the double that it rounds to. -/
theorem toFloat_eq {x : Float} {negative : Bool} {mantissa : Nat} {power : Int}
    (parts : Binary.ofFloat x = .finite negative significand exponent)
    (positive : 0 < significand)
    (rounds : RoundsTo (mantissa * 10 ^ power) significand exponent) :
    toFloat negative mantissa power = x := by
  have canonical := isCanonical_of_ofFloat parts
  obtain ⟨q_low, q_high⟩ := rounds.bounds canonical positive
  have some := rounds.mantissa_pos canonical positive
  obtain ⟨low, high⟩ := places_bounds some power
  have least := (zpow_lt_zpow_iff_right₀ (by norm_num)).mp (q_low.trans high)
  have greatest := (zpow_lt_zpow_iff_right₀ (by norm_num)).mp (low.trans_lt q_high)
  have bound_eq : placeBound = 400 := rfl
  have digits_le : (digits mantissa).length ≤ mantissa.log2 + 1 := by
    have : 2 ^ ((digits mantissa).length - 1) ≤ mantissa :=
      (Nat.pow_le_pow_left (by decide) _).trans (pow_length_digits_le some)
    have := (Nat.le_log2 some.ne').mpr this
    omega
  have magnitude : Binary.ofFloat (Float.ofScientific mantissa (power < 0) power.natAbs) =
      .finite false significand exponent := by
    apply ofFloat_ofScientific canonical positive some <;> rw [signed_natAbs]
    · omega
    · omega
    · exact rounds
  have not_small : ¬(mantissa = 0 ∨ (digits mantissa).length + power < -placeBound) := by omega
  have not_great : ¬placeBound < (digits mantissa).length + power := by omega
  rw [toFloat, if_neg not_small, if_neg not_great]
  apply ofFloat_injective
  rw [parts]
  cases negative with
  | true => exact ofFloat_neg magnitude positive
  | false => exact magnitude

end EntrySearch.Decimal
