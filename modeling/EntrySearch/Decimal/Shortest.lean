import EntrySearch.Decimal.Binary

/-!
# Shortest decimals

The fewest digits that read back as the same double-precision number, and of those the nearest to
it; and how digits are laid out around the decimal point.
-/

namespace EntrySearch.Decimal

/-- The fraction `mantissa · 10^exponent`. -/
structure Fraction where
  /-- Digits as one number. -/
  mantissa : Nat
  /-- Power of ten that scales them. -/
  exponent : Int
  deriving DecidableEq, Repr

/-- The reals that round to a number, and the number itself, as multiples of `1 / unit`. -/
structure Interval where
  /-- Common denominator. -/
  unit : Nat
  /-- Lower end. -/
  low : Nat
  /-- The number. -/
  value : Nat
  /-- Upper end. -/
  high : Nat
  /-- Whether the ends round to the number too. -/
  closed : Bool

/-- The interval around `significand · 2^exponent`. -/
def Interval.around (significand : Nat) (exponent : Int) : Interval :=
  let scale := if 0 ≤ exponent then Nat.pow 2 exponent.toNat else 1
  let unit := 4 * (if 0 ≤ exponent then 1 else Nat.pow 2 exponent.natAbs)
  let below := if significand = Nat.pow 2 52 ∧ leastExponent < exponent then 1 else 2
  { unit
    low := (4 * significand - below) * scale
    value := 4 * significand * scale
    high := (4 * significand + 2) * scale
    closed := significand % 2 = 0 }

/-- Whether a fraction rounds to the number. -/
def Interval.holds (interval : Interval) (fraction : Fraction) : Bool :=
  let scaled := fraction.mantissa * interval.unit * Nat.pow 10 fraction.exponent.toNat
  let down := Nat.pow 10 (-fraction.exponent).toNat
  if interval.closed then interval.low * down ≤ scaled && scaled ≤ interval.high * down
  else interval.low * down < scaled && scaled < interval.high * down

/-- Largest multiple of `10^exponent` that is not above the number. -/
def Interval.floor (interval : Interval) (exponent : Int) : Nat :=
  interval.value * Nat.pow 10 (-exponent).toNat / (interval.unit * Nat.pow 10 exponent.toNat)

/-- Compare twice the distance of the number above `floor` with the step `10^exponent`. -/
def Interval.compareHalf (interval : Interval) (exponent : Int) : Ordering :=
  let step := interval.unit * Nat.pow 10 exponent.toNat
  let rest := interval.value * Nat.pow 10 (-exponent).toNat % step
  compare (2 * rest) step

/-- The multiple of `10^exponent` that rounds to the number and is nearest to it; a tie goes to the
even multiple. -/
def Interval.nearest? (interval : Interval) (exponent : Int) : Option Fraction :=
  let below : Fraction := ⟨interval.floor exponent, exponent⟩
  let above : Fraction := ⟨interval.floor exponent + 1, exponent⟩
  match interval.holds below, interval.holds above with
  | true, true =>
    match interval.compareHalf exponent with
    | .lt => some below
    | .gt => some above
    | .eq => some (if below.mantissa % 2 = 0 then below else above)
  | true, false => some below
  | false, true => some above
  | false, false => none

/-- Position of the decimal point of the number: it lies below `10^point` and not below a tenth of
that. -/
def Interval.point (interval : Interval) : Int :=
  let whole := interval.value / interval.unit
  if 0 < whole then (digits whole).length
  else
    let inverse := interval.unit / interval.value
    let places := (digits inverse).length
    if interval.unit ≤ interval.value * Nat.pow 10 (places - 1) then 2 - (places : Int)
    else 1 - (places : Int)

/-- Most digits that a double-precision number needs. -/
def mostDigits : Nat :=
  17

/-- Try `count`, `count + 1`, … digits, `fuel` times. -/
def Interval.search (interval : Interval) (point : Int) : Nat → Nat → Fraction
  | 0, count => ⟨interval.floor (point - count), point - count⟩
  | fuel + 1, count =>
    match interval.nearest? (point - count) with
    | some fraction => fraction
    | none => interval.search point fuel (count + 1)

/-- The shortest fraction that rounds to a positive number. -/
def shortest (significand : Nat) (exponent : Int) : Fraction :=
  let interval := Interval.around significand exponent
  interval.search interval.point mostDigits 1

/-- How digits are laid out around the decimal point. -/
structure Layout where
  /-- Least position of the point that is written without an exponent. -/
  leastPoint : Int
  /-- Greatest position of the point that is written without an exponent. -/
  greatestPoint : Int
  /-- What follows a whole number. -/
  wholeSuffix : String
  /-- Least number of digits of an exponent. -/
  exponentWidth : Nat
  /-- How an infinity is written. -/
  infinity : String
  /-- How an undefined number is written. -/
  undefined : String

/-- Lay out digits whose point stands after the first `point` of them. -/
def Layout.place (layout : Layout) (ds : List Char) (point : Int) : List Char :=
  if layout.leastPoint ≤ point ∧ point ≤ layout.greatestPoint then
    if point ≤ 0 then ['0', '.'] ++ List.replicate point.natAbs '0' ++ ds
    else if ds.length ≤ point.toNat then
      ds ++ List.replicate (point.toNat - ds.length) '0' ++ layout.wholeSuffix.toList
    else ds.take point.toNat ++ ['.'] ++ ds.drop point.toNat
  else
    let power := point - 1
    let tail := ds.drop 1
    ds.take 1 ++ (if tail.isEmpty then [] else '.' :: tail) ++
      ['e', if power < 0 then '-' else '+'] ++ paddedDigits layout.exponentWidth power.natAbs

/-- Digits of a fraction without trailing zeros, and the position of its point. -/
def Fraction.significant (fraction : Fraction) : List Char × Int :=
  let ds := digits fraction.mantissa
  ((ds.reverse.dropWhile (· = '0')).reverse, fraction.exponent + ds.length)

/-- Write a double-precision number. -/
def Layout.write (layout : Layout) (x : Float) : List Char :=
  let sign (negative : Bool) : List Char := if negative then ['-'] else []
  match Binary.ofFloat x with
  | .undefined => layout.undefined.toList
  | .infinite negative => sign negative ++ layout.infinity.toList
  | .finite negative significand exponent =>
    sign negative ++
      (if significand = 0 then '0' :: layout.wholeSuffix.toList
       else
        let parts := (shortest significand exponent).significant
        layout.place parts.1 parts.2)

end EntrySearch.Decimal
