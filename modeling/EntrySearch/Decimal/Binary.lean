import EntrySearch.Decimal.Digits

/-!
# Binary fractions

A double-precision number as an exact multiple of a power of two, and the number nearest to a
decimal fraction.
-/

namespace EntrySearch.Decimal

/-- A double-precision number. -/
inductive Binary where
  /-- The number `±significand · 2^exponent`. -/
  | finite (negative : Bool) (significand : Nat) (exponent : Int)
  /-- An infinity. -/
  | infinite (negative : Bool)
  /-- Not a number. -/
  | undefined
  deriving DecidableEq, Repr

/-- Exponent of the least positive number. -/
def leastExponent : Int :=
  -1074

/-- Take a double-precision number apart. -/
def Binary.ofFloat (x : Float) : Binary :=
  let bits := x.toBits.toNat
  let negative := bits / Nat.pow 2 63 == 1
  let biased : Nat := bits / Nat.pow 2 52 % Nat.pow 2 11
  let fraction : Nat := bits % Nat.pow 2 52
  if biased = 2047 then
    if fraction = 0 then .infinite negative else .undefined
  else if biased = 0 then .finite negative fraction leastExponent
  else .finite negative (Nat.pow 2 52 + fraction) (leastExponent + (biased : Int) - 1)

/-- The integer equal to a finite number, when there is one. -/
def Binary.toInt? : Binary → Option Int
  | .finite negative significand exponent =>
    if 0 ≤ exponent then some (signed negative (significand * Nat.pow 2 exponent.toNat))
    else
      let unit := Nat.pow 2 exponent.natAbs
      if significand % unit = 0 then some (signed negative (significand / unit)) else none
  | _ => none

/-- Beyond this many places to the left or right of the point, a decimal fraction is infinite or
zero in double precision. -/
def placeBound : Int :=
  400

/-- The double-precision number nearest to `±mantissa · 10^exponent`. -/
def toFloat (negative : Bool) (mantissa : Nat) (exponent : Int) : Float :=
  let places : Int := (digits mantissa).length + exponent
  let magnitude : Float :=
    if mantissa = 0 ∨ places < -placeBound then 0.0
    else if placeBound < places then 1.0 / 0.0
    else Float.ofScientific mantissa (exponent < 0) exponent.natAbs
  if negative then -magnitude else magnitude

/-- The double-precision number nearest to an integer, `none` when it would be infinite. -/
def floatOfInt? (n : Int) : Option Float :=
  let x := toFloat (n < 0) n.natAbs 0
  if x.isInf then none else some x

end EntrySearch.Decimal
