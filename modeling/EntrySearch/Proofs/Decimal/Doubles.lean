import EntrySearch.Decimal.Binary
import Mathlib

/-!
# Doubles taken apart

A double-precision number is told by its sign, its significand and its exponent, and no two
significands with their exponents are worth the same. The lemmas on packed numbers that this rests
on come with no smaller part of Mathlib than the whole.
-/

namespace EntrySearch.Decimal

open Float.Model

/-- Whether a sign is a minus. -/
def isMinus : UnpackedFloat.Sign → Bool
  | .negative => true
  | .positive => false

namespace Binary

/-- An unpacked number as a multiple of a power of two. -/
def ofUnpacked : UnpackedFloat → Binary
  | .infinity sign => .infinite (isMinus sign)
  | .notANumber => .undefined
  | .zero sign => .finite (isMinus sign) 0 leastExponent
  | .finite sign significand exponent _ => .finite (isMinus sign) significand exponent

theorem ofUnpacked_injective : Function.Injective ofUnpacked := by
  have signs : Function.Injective isMinus := by
    intro sign other same
    cases sign <;> cases other <;> first | rfl | contradiction
  intro x y same
  cases x <;> cases y <;> simp only [ofUnpacked, Binary.finite.injEq, Binary.infinite.injEq,
    reduceCtorEq] at same <;> grind [Function.Injective]

end Binary

theorem toNat_unpackMantissa (bits : BitVec 64) :
    (@UnpackedFloat.unpackMantissa Format.binary64 bits).toNat =
      bits.toNat % Nat.pow 2 52 := by
  rw [UnpackedFloat.unpackMantissa_def]
  simp

theorem toNat_unpackExponent (bits : BitVec 64) :
    (@UnpackedFloat.unpackExponent Format.binary64 bits).toNat =
      bits.toNat / Nat.pow 2 52 % Nat.pow 2 11 := by
  rw [UnpackedFloat.unpackExponent_def]
  simp [Nat.shiftRight_eq_div_pow]

theorem toNat_unpackSign (bits : BitVec 64) :
    (@UnpackedFloat.unpackSign Format.binary64 bits).toNat =
      bits.toNat / Nat.pow 2 63 := by
  rw [UnpackedFloat.unpackSign_def]
  have := bits.isLt
  simp [Nat.shiftRight_eq_div_pow]
  omega

theorem isMinus_ofBitVec (bit : BitVec 1) :
    isMinus (UnpackedFloat.Sign.ofBitVec bit) = (bit.toNat == 1) := by
  decide +revert

/-- The number with a sign, a biased exponent and a fraction. -/
def Binary.ofParts (negative : Bool) (biased fraction : Nat) : Binary :=
  if biased = 2047 then
    if fraction = 0 then .infinite negative else .undefined
  else if biased = 0 then .finite negative fraction leastExponent
  else .finite negative (Nat.pow 2 52 + fraction) (leastExponent + (biased : Int) - 1)

theorem toNat_leading_one (fraction : BitVec 52) :
    (1#1 ++ fraction).toNat = Nat.pow 2 52 + fraction.toNat := by
  rw [BitVec.toNat_append, ← Nat.shiftLeft_add_eq_or_of_lt fraction.isLt]
  rfl

theorem ofUnpacked_unpack (bits : BitVec 64) :
    Binary.ofUnpacked (UnpackedFloat.unpack Format.binary64 bits) =
      Binary.ofParts (bits.toNat / Nat.pow 2 63 == 1)
        (bits.toNat / Nat.pow 2 52 % Nat.pow 2 11) (bits.toNat % Nat.pow 2 52) := by
  rw [← toNat_unpackSign, ← toNat_unpackExponent, ← toNat_unpackMantissa, ← isMinus_ofBitVec,
    Binary.ofParts]
  fun_cases UnpackedFloat.unpack Format.binary64 bits with
  | case1 fraction biased _ _ last empty =>
      have biased_eq : biased.toNat = 2047 := congrArg BitVec.toNat last
      have fraction_eq : fraction.toNat = 0 := congrArg BitVec.toNat empty
      rw [if_pos biased_eq, if_pos fraction_eq]
      rfl
  | case2 fraction biased last filled =>
      have biased_eq : biased.toNat = 2047 := congrArg BitVec.toNat last
      have fraction_ne : ¬fraction.toNat = 0 := fun same => filled (BitVec.eq_of_toNat_eq same)
      rw [if_pos biased_eq, if_neg fraction_ne]
      rfl
  | case3 fraction biased _ _ not_last first empty =>
      have biased_ne : ¬biased.toNat = 2047 := fun same => not_last (BitVec.eq_of_toNat_eq same)
      have biased_eq : biased.toNat = 0 := congrArg BitVec.toNat first
      have fraction_eq : fraction.toNat = 0 := congrArg BitVec.toNat empty
      rw [if_neg biased_ne, if_pos biased_eq, fraction_eq]
      rfl
  | case4 fraction biased exponent _ _ not_last first _ =>
      have biased_ne : ¬biased.toNat = 2047 := fun same => not_last (BitVec.eq_of_toNat_eq same)
      have biased_eq : biased.toNat = 0 := congrArg BitVec.toNat first
      have exponent_eq : exponent + 1 = leastExponent := by
        change (biased.toNat : Int) - (1023 + 52) + 1 = -1074
        omega
      rw [if_neg biased_ne, if_pos biased_eq, exponent_eq]
      rfl
  | case5 fraction biased exponent _ _ not_last not_first =>
      have biased_ne : ¬biased.toNat = 2047 := fun same => not_last (BitVec.eq_of_toNat_eq same)
      have biased_pos : ¬biased.toNat = 0 := fun same => not_first (BitVec.eq_of_toNat_eq same)
      have exponent_eq : exponent = leastExponent + biased.toNat - 1 := by
        change (biased.toNat : Int) - (1023 + 52) = -1074 + biased.toNat - 1
        omega
      rw [if_neg biased_ne, if_neg biased_pos, exponent_eq, ← toNat_leading_one]
      rfl

/-- The two ways to take a number apart agree. -/
theorem ofFloat_eq (x : Float) : Binary.ofFloat x = Binary.ofUnpacked x.toModel.unpack :=
  (ofUnpacked_unpack x.toModel.toBits.toBitVec).symm

/-- A number is told by its parts. -/
theorem ofFloat_injective : Function.Injective Binary.ofFloat := by
  intro x y same
  rw [ofFloat_eq, ofFloat_eq] at same
  have bits := (UnpackedFloat.unpack_inj_of_valid x.toModel.valid y.toModel.valid).mp
    (Binary.ofUnpacked_injective same)
  exact Float.toBits_inj.mp (UInt64.toBitVec_inj.mp bits)

/-- A significand with as many bits as it can have at its exponent. -/
structure IsCanonical (significand : Nat) (exponent : Int) : Prop where
  significand_lt : significand < 2 ^ 53
  least : leastExponent ≤ exponent
  exponent_le : exponent ≤ 971
  full : 2 ^ 52 ≤ significand ∨ exponent = leastExponent

theorem isCanonical_of_ofFloat {x : Float} {negative : Bool} {significand : Nat} {exponent : Int}
    (parts : Binary.ofFloat x = .finite negative significand exponent) :
    IsCanonical significand exponent := by
  change Binary.ofParts _ _ _ = _ at parts
  have biased := Nat.mod_lt (x.toBits.toNat / Nat.pow 2 52) (show 0 < Nat.pow 2 11 by decide)
  have fraction := Nat.mod_lt x.toBits.toNat (show 0 < Nat.pow 2 52 by decide)
  generalize x.toBits.toNat / Nat.pow 2 52 % Nat.pow 2 11 = biased_part at *
  generalize x.toBits.toNat % Nat.pow 2 52 = fraction_part at *
  simp only [Nat.pow_eq, Binary.ofParts, leastExponent] at *
  split at parts
  · split at parts <;> contradiction
  · split at parts <;> obtain ⟨-, rfl, rfl⟩ := Binary.finite.inj parts
    · exact ⟨by omega, by rw [leastExponent], by omega, .inr rfl⟩
    · exact ⟨by omega, by rw [leastExponent]; omega, by omega, .inl (by omega)⟩

/-- Of two significands that are worth the same the one with the lesser exponent is the greater. -/
theorem eq_mul_two_pow {significand other : Nat} {exponent later : Int} (ordered : exponent ≤ later)
    (same : (significand : ℚ) * 2 ^ exponent = other * 2 ^ later) :
    significand = other * 2 ^ (later - exponent).toNat := by
  have shifted : (2 : ℚ) ^ later = 2 ^ (later - exponent).toNat * 2 ^ exponent := by
    rw [← zpow_natCast, ← zpow_add₀ two_ne_zero]
    congr 1
    omega
  have scale : (2 : ℚ) ^ exponent ≠ 0 := zpow_ne_zero exponent two_ne_zero
  rw [shifted, ← mul_assoc, mul_left_inj' scale] at same
  exact_mod_cast same

theorem IsCanonical.eq_of_le {significand other : Nat} {exponent later : Int}
    (canonical : IsCanonical significand exponent) (other_canonical : IsCanonical other later)
    (ordered : exponent ≤ later)
    (same : (significand : ℚ) * 2 ^ exponent = other * 2 ^ later) :
    significand = other ∧ exponent = later := by
  have greater := eq_mul_two_pow ordered same
  rcases ordered.eq_or_lt with rfl | before
  · simpa using greater
  · have step : 2 ≤ 2 ^ (later - exponent).toNat :=
      Nat.le_pow (a := 2) (by omega)
    have least := canonical.least
    have full : 2 ^ 52 ≤ other := other_canonical.full.resolve_right (by omega)
    have := canonical.significand_lt
    have := Nat.mul_le_mul full step
    omega

/-- No two canonical significands are worth the same. -/
theorem IsCanonical.unique {significand other : Nat} {exponent later : Int}
    (canonical : IsCanonical significand exponent) (other_canonical : IsCanonical other later)
    (same : (significand : ℚ) * 2 ^ exponent = other * 2 ^ later) :
    significand = other ∧ exponent = later := by
  rcases le_total exponent later with ordered | ordered
  · exact canonical.eq_of_le other_canonical ordered same
  · obtain ⟨significands, exponents⟩ := other_canonical.eq_of_le canonical ordered same.symm
    exact ⟨significands.symm, exponents.symm⟩

end EntrySearch.Decimal
