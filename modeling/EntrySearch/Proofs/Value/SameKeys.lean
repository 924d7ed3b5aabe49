import EntrySearch.Proofs.Decimal.Doubles
import EntrySearch.Proofs.Decimal.Padding
import EntrySearch.Proofs.Value.Paths

/-!
# Which keys are the same

Being the same key is an equivalence: two scalars are the same key if and only if they are worth the
same. So putting pairs one after another gives each key the value of its last pair.
-/

namespace EntrySearch

namespace Decimal

/-- The number that a finite double is. -/
def worth (negative : Bool) (significand : Nat) (exponent : Int) : ℚ :=
  signed negative significand * 2 ^ exponent

theorem signed_mul (negative : Bool) (n factor : Nat) :
    signed negative (n * factor) = signed negative n * factor := by
  cases negative <;> simp [signed]

theorem toInt?_finite_eq_some_iff {negative : Bool} {significand : Nat} {exponent n : Int} :
    (Binary.finite negative significand exponent).toInt? = some n ↔
      worth negative significand exponent = n := by
  rw [Binary.toInt?, worth]
  split
  · rename_i natural
    obtain ⟨power, rfl⟩ := Int.eq_ofNat_of_zero_le natural
    rw [Option.some_inj, Int.toNat_natCast, zpow_natCast, Nat.pow_eq, signed_mul]
    exact_mod_cast Iff.rfl
  · rename_i negative_power
    obtain ⟨power, rfl⟩ : ∃ power : Nat, exponent = -(power : Int) :=
      ⟨exponent.natAbs, by omega⟩
    have unit_ne : (2 : ℚ) ^ power ≠ 0 := pow_ne_zero power two_ne_zero
    rw [Int.natAbs_neg, Int.natAbs_natCast, zpow_neg, zpow_natCast, ← div_eq_mul_inv,
      div_eq_iff unit_ne]
    simp only [Nat.pow_eq]
    rw [Option.ite_none_right_eq_some, Option.some_inj]
    constructor
    · rintro ⟨whole, rfl⟩
      have split := Nat.div_mul_cancel (Nat.dvd_of_mod_eq_zero whole)
      rw [← split, signed_mul, Nat.mul_div_cancel _ (Nat.two_pow_pos power)]
      push_cast
      rfl
    · intro same
      have same_int : signed negative significand = n * (2 ^ power : Nat) := by exact_mod_cast same
      obtain rfl : significand = n.natAbs * 2 ^ power := by
        rw [← natAbs_signed negative significand, same_int, Int.natAbs_mul, Int.natAbs_natCast]
      rw [signed_mul] at same_int
      refine ⟨Nat.mul_mod_left _ _, ?_⟩
      rw [Nat.mul_div_cancel _ (Nat.two_pow_pos power)]
      exact Int.eq_of_mul_eq_mul_right (by positivity) same_int

theorem exists_worth_of_toInt? {x : Float} {n : Int}
    (whole : (Binary.ofFloat x).toInt? = some n) : ∃ negative significand exponent,
      Binary.ofFloat x = .finite negative significand exponent ∧
        worth negative significand exponent = n := by
  cases parts : Binary.ofFloat x with
  | finite negative significand exponent =>
      rw [parts] at whole
      exact ⟨_, _, _, rfl, toInt?_finite_eq_some_iff.mp whole⟩
  | infinite | undefined =>
      rw [parts] at whole
      contradiction

theorem abs_worth (negative : Bool) (significand : Nat) (exponent : Int) :
    |worth negative significand exponent| = significand * 2 ^ exponent := by
  have scale : (0 : ℚ) ≤ 2 ^ exponent := zpow_nonneg two_pos.le exponent
  cases negative <;> simp [worth, signed, abs_mul, abs_of_nonneg scale]

theorem eq_zero_of_worth_eq {negative other : Bool} {significand : Nat} {exponent : Int}
    (differ : negative ≠ other)
    (same : worth negative significand exponent = worth other significand exponent) :
    significand = 0 := by
  have scale : (2 : ℚ) ^ exponent ≠ 0 := zpow_ne_zero exponent two_ne_zero
  have signs : signed negative significand = signed other significand := by
    exact_mod_cast mul_right_cancel₀ scale same
  cases negative <;> cases other <;> simp [signed] at differ signs <;> omega

theorem eq_zero_of_ofFloat {x : Float} {negative : Bool} {exponent : Int}
    (parts : Binary.ofFloat x = .finite negative 0 exponent) :
    x = if negative then -0 else 0 := by
  obtain rfl : exponent = leastExponent :=
    (isCanonical_of_ofFloat parts).full.resolve_left (by decide)
  apply ofFloat_injective
  rw [parts]
  cases negative <;> rfl

theorem eq_or_zeros_of_toInt? {x y : Float} {n : Int}
    (whole : (Binary.ofFloat x).toInt? = some n)
    (other_whole : (Binary.ofFloat y).toInt? = some n) :
    x = y ∨ (x = 0 ∧ y = -0) ∨ (x = -0 ∧ y = 0) := by
  obtain ⟨negative, significand, exponent, parts, value⟩ := exists_worth_of_toInt? whole
  obtain ⟨other_negative, other, later, other_parts, other_value⟩ :=
    exists_worth_of_toInt? other_whole
  have magnitudes : (significand : ℚ) * 2 ^ exponent = other * 2 ^ later := by
    rw [← abs_worth negative, ← abs_worth other_negative, value, other_value]
  obtain ⟨rfl, rfl⟩ := (isCanonical_of_ofFloat parts).unique
    (isCanonical_of_ofFloat other_parts) magnitudes
  by_cases signs : negative = other_negative
  · subst signs
    exact .inl (ofFloat_injective (parts.trans other_parts.symm))
  · obtain rfl := eq_zero_of_worth_eq signs (value.trans other_value.symm)
    rw [eq_zero_of_ofFloat parts, eq_zero_of_ofFloat other_parts]
    cases negative <;> cases other_negative <;> simp at signs ⊢

/-- Doubles are taken for the same if and only if they are equal or the same whole number. -/
theorem beq_or_bits_iff {x y : Float} : (x == y || x.toBits == y.toBits) = true ↔
    x = y ∨ ∃ n, (Binary.ofFloat x).toInt? = some n ∧ (Binary.ofFloat y).toInt? = some n := by
  rw [Bool.or_eq_true, beq_iff_eq (a := x.toBits), Float.toBits_inj,
    Float.beq_iff_ne_nan_and_eq]
  have zero_whole (negative : Bool) :
      (Binary.finite negative 0 leastExponent).toInt? = some 0 :=
    toInt?_finite_eq_some_iff.mpr (by cases negative <;> simp [worth, signed])
  constructor
  · rintro (⟨-, -, rfl | ⟨rfl, rfl⟩ | ⟨rfl, rfl⟩⟩ | rfl)
    · exact .inl rfl
    · exact .inr ⟨0, zero_whole false, zero_whole true⟩
    · exact .inr ⟨0, zero_whole true, zero_whole false⟩
    · exact .inl rfl
  · rintro (rfl | ⟨n, whole, other_whole⟩)
    · exact .inr rfl
    · have defined {z : Float} (known : (Binary.ofFloat z).toInt? = some n) : z ≠ Float.nan := by
        rintro rfl
        rw [show Binary.ofFloat Float.nan = .undefined by decide] at known
        exact Option.some_ne_none n known.symm
      rcases eq_or_zeros_of_toInt? whole other_whole with same | zeros
      · exact .inr same
      · exact .inl ⟨defined whole, defined other_whole, .inr zeros⟩

end Decimal

namespace Scalar

variable {key other : Scalar}

/-- Two scalars are the same key if and only if they are equal or the same whole number. -/
theorem beq_iff : (key == other) = true ↔
    key = other ∨ ∃ n, key.integer? = some n ∧ other.integer? = some n := by
  change key.same other = true ↔ _
  fun_cases Scalar.same key other with
  | case1 => simp
  | case2 a b => simp [integer?]
  | case3 a b => simp [integer?]
  | case4 x y => simpa [integer?] using Decimal.beq_or_bits_iff (x := x) (y := y)
  | case5 _ _ _ _ _ _ m n other_known known =>
      rw [beq_iff_eq, known, other_known]
      constructor
      · rintro rfl
        exact .inr ⟨m, rfl, rfl⟩
      · rintro (rfl | ⟨_, same, other_same⟩)
        · exact Option.some.inj (known.symm.trans other_known)
        · exact Option.some.inj (same.trans other_same.symm)
  | case6 _ _ not_null not_text not_date not_float apart =>
      refine iff_of_false Bool.false_ne_true ?_
      rintro (rfl | ⟨n, known, other_known⟩)
      · cases key with
        | null => exact not_null rfl rfl
        | text s => exact not_text s s rfl rfl
        | date d => exact not_date d d rfl rfl
        | float x => exact not_float x x rfl rfl
        | bool b => exact apart _ _ rfl rfl
        | int n => exact apart n n rfl rfl
      · exact apart n n known other_known

instance : EquivBEq Scalar where
  rfl := beq_self _
  symm same := by
    rcases beq_iff.mp same with rfl | ⟨n, known, other_known⟩
    · exact same
    · exact beq_iff.mpr (.inr ⟨n, other_known, known⟩)
  trans same later := by
    rcases beq_iff.mp same with rfl | ⟨n, known, between⟩
    · exact later
    · rcases beq_iff.mp later with rfl | ⟨m, between_too, known_too⟩
      · exact same
      · obtain rfl := Option.some.inj (between.symm.trans between_too)
        exact beq_iff.mpr (.inr ⟨n, known, known_too⟩)

end Scalar

namespace Entries

variable {β : Type}

theorem get?_append {κ : Type} [BEq κ] (key : κ) (front back : List (κ × β)) :
    get? key (front ++ back) = (get? key front).or (get? key back) := by
  induction front with
  | nil => rfl
  | cons entry rest ih =>
      rw [List.cons_append, get?, get?]
      split
      · rfl
      · exact ih

theorem get?_put (key other : Scalar) (value : β) (entries : List (Scalar × β)) :
    get? other (put key value entries) =
      if key == other then some value else get? other entries := by
  induction entries with
  | nil => rfl
  | cons entry rest ih =>
      obtain ⟨first, old⟩ := entry
      rw [put, upsert]
      split
      · rename_i same
        rw [get?, get?, BEq.congr_left same]
        split <;> rfl
      · rename_i differ
        rw [get?, get?]
        split
        · rename_i here
          rw [if_neg fun same => differ (BEq.trans here (BEq.symm same))]
        · exact ih

/-- Of keys with one more at the end the last one stands for itself if it is new. -/
theorem eraseDups_concat (known : List Scalar) (key : Scalar) :
    (known ++ [key]).eraseDups = known.eraseDups ++ newKeys known.eraseDups [key] := by
  generalize length_eq : known.length = count
  induction count using Nat.strong_induction_on generalizing known with
  | h count ih =>
      cases known with
      | nil => rfl
      | cons first rest =>
          rw [List.cons_append, List.eraseDups_cons, List.eraseDups_cons, List.filter_append]
          have shorter := List.length_filter_le (fun other => !other == first) rest
          by_cases same : (first == key) = true
          · simp [newKeys, same, BEq.symm same]
          · have differs : (key == first) = false :=
              Bool.eq_false_iff.mpr fun backward => same (BEq.symm backward)
            rw [newKeys_cons_of_ne same, List.cons_append, ← ih _ (by grind) _ rfl]
            simp [differs]

/-- Entries are a table of pairs: the same keys once each, where they came first, and each with the
value of its last pair. -/
structure IsTableOf (entries pairs : List (Scalar × β)) : Prop where
  keys : keys entries = (keys pairs).eraseDups
  get?_eq : ∀ key, get? key entries = get? key pairs.reverse

/-- Putting pairs one after another makes a table of them. -/
theorem isTableOf_ofPairs (pairs : List (Scalar × β)) : IsTableOf (ofPairs pairs) pairs := by
  induction pairs using List.reverseRecOn with
  | nil => exact ⟨rfl, fun _ => rfl⟩
  | append_singleton pairs pair ih =>
      have last : ofPairs (pairs ++ [pair]) = put pair.1 pair.2 (ofPairs pairs) := by
        rw [ofPairs, List.foldl_append]
        rfl
      rw [last]
      constructor
      · rw [put, keys_upsert, ih.keys, Entries.keys, Entries.keys, List.map_append]
        exact (eraseDups_concat _ _).symm
      · intro key
        rw [get?_put, ih.get?_eq, List.reverse_append]
        rfl

end Entries

end EntrySearch
