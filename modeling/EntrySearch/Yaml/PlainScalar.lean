import EntrySearch.Decimal.Binary
import EntrySearch.Json.Reader
import EntrySearch.Text.Pieces
import EntrySearch.Value.Basic
import EntrySearch.Yaml.Fault

/-!
# Plain scalars

What a scalar without quotes stands for: a truth value, nothing, a number, a day, or else its text.
Numbers may hold underlines, have a base other than ten, or count in sixties.
-/

namespace EntrySearch.Yaml.PlainScalar

/-- Scalars that stand for true. -/
def trueWords : List String :=
  ["yes", "Yes", "YES", "true", "True", "TRUE", "on", "On", "ON"]

/-- Scalars that stand for false. -/
def falseWords : List String :=
  ["no", "No", "NO", "false", "False", "FALSE", "off", "Off", "OFF"]

/-- Scalars that stand for nothing. -/
def nullWords : List String :=
  ["", "~", "null", "Null", "NULL"]

/-- Scalars that stand for an infinity, after a sign. -/
def infinityWords : List String :=
  [".inf", ".Inf", ".INF"]

/-- Scalars that stand for an undefined number. -/
def undefinedWords : List String :=
  [".nan", ".NaN", ".NAN"]

/-- Drop the underlines of a number. -/
def withoutUnderlines (cs : List Char) : List Char :=
  cs.filter (· ≠ '_')

/-- A digit or an underline. -/
def isDigitOrUnderline (c : Char) : Bool :=
  c.isDigit || c = '_'

/-- A digit, and then digits and underlines. -/
def isDecimal : List Char → Bool
  | [] => false
  | c :: rest => c.isDigit && rest.all isDigitOrUnderline

/-- A digit other than zero, and then digits and underlines. -/
def isCount (cs : List Char) : Bool :=
  isDecimal cs && cs.head? ≠ some '0'

/-- The digits of a base with underlines, at least one of either. -/
def isBased (base : Nat) (cs : List Char) : Bool :=
  !cs.isEmpty && cs.all fun c => c = '_' || ((Json.hexValue? c).any (· < base))

/-- One or two digits below sixty. -/
def isSixtieth : List Char → Bool
  | [c] => c.isDigit
  | [t, c] => '0' ≤ t && t ≤ '5' && c.isDigit
  | _ => false

/-- The parts of a number that counts in sixties, of which the first satisfies `isFirst`. -/
def sixtieths? (isFirst : List Char → Bool) (cs : List Char) : Option (List (List Char)) :=
  match Text.pieces (· = ':') cs with
  | first :: second :: others =>
    if isFirst first ∧ (second :: others).all isSixtieth then some (first :: second :: others)
    else none
  | _ => none

/-- Read digits of a base, among underlines. -/
def readBased (base : Nat) (cs : List Char) : Except Fault Nat :=
  let ds := (withoutUnderlines cs).filterMap Json.hexValue?
  if ds.isEmpty then .error (.noDigits base)
  else .ok (ds.foldl (fun n d => base * n + d) 0)

/-- Read decimal digits, among underlines. -/
def readDecimal (cs : List Char) : Except Fault Nat := do
  let n ← (Decimal.readInteger (withoutUnderlines cs)).mapError .digits
  return n.natAbs

/-- Read a number that counts in sixties. -/
def readSixtieths (parts : List (List Char)) : Except Fault Nat := do
  let ns ← parts.mapM readDecimal
  return ns.foldl (fun total n => 60 * total + n) 0

/-- The whole number without sign that a scalar has the form of. -/
def natural? (cs : List Char) : Option (Except Fault Nat) :=
  match cs with
  | '0' :: 'b' :: ds => if isBased 2 ds then some (readBased 2 ds) else none
  | '0' :: 'x' :: ds => if isBased 16 ds then some (readBased 16 ds) else none
  | '0' :: ds => if ds.isEmpty ∨ isBased 8 ds then some (readBased 8 cs) else none
  | _ =>
    if isCount cs then some (readDecimal cs)
    else (sixtieths? isCount cs).map readSixtieths

/-- The whole number that a scalar has the form of. -/
def integer? (cs : List Char) : Option (Except Fault Scalar) :=
  let (negative, unsigned) := Decimal.splitSign cs
  (natural? unsigned).map fun outcome => return .int (Decimal.signed negative (← outcome))

/-- The exponent at the end of a number, which has a sign; zero when there is none. -/
def exponent? : List Char → Option Int
  | [] => some 0
  | c :: rest =>
    let (negative, ds) := Decimal.splitSign rest
    if (c = 'e' ∨ c = 'E') ∧ ds.length < rest.length ∧ !ds.isEmpty ∧ ds.all Char.isDigit then
      some (Decimal.signed negative (Decimal.ofDigits ds))
    else none

/-- Read a number with digits before and behind a point. -/
def fraction (negative : Bool) (whole places : List Char) (exponent : Int) : Float :=
  let ds := withoutUnderlines places
  Decimal.toFloat negative (Decimal.ofDigits (withoutUnderlines whole ++ ds))
    (exponent - ds.length)

/-- The fractional number that counts in sixties and has the form of a scalar without sign. -/
def sixtiethFraction? (whole places : List Char) : Option Float := do
  let parts ← sixtieths? isDecimal whole
  if !places.all isDigitOrUnderline then failure
  let numbers := parts.dropLast.map fun part => fraction false part [] 0
  let last := fraction false (parts.getLastD []) places 0
  let (total, _) :=
    (last :: numbers.reverse).foldl (fun (total, unit) x => (total + x * unit, unit * 60.0))
      ((0.0 : Float), (1.0 : Float))
  return total

/-- The fractional number that a scalar has the form of. -/
def float? (cs : List Char) : Option Float :=
  let (negative, unsigned) := Decimal.splitSign cs
  let word := String.ofList unsigned
  if infinityWords.contains word then some (if negative then -1.0 / 0.0 else 1.0 / 0.0)
  else if undefinedWords.contains (String.ofList cs) then some (0.0 / 0.0)
  else
    match Text.cutAt '.' unsigned with
    | (_, none) => none
    | (whole, some rest) =>
      let places := rest.takeWhile isDigitOrUnderline
      let exponent := exponent? (rest.dropWhile isDigitOrUnderline)
      if isDecimal whole then exponent.map (fraction negative whole places)
      else if whole.isEmpty then
        if isDecimal places ∧ unsigned.length = cs.length then
          exponent.map (fraction negative whole places)
        else none
      else (sixtiethFraction? whole rest).map fun x => if negative then -x else x

/-- The day that a scalar has the form of. -/
def date? (cs : List Char) : Option (Except Fault Scalar) :=
  match Text.pieces (· = '-') cs with
  | [year, month, day] =>
    if year.length = 4 ∧ month.length = 2 ∧ day.length = 2 ∧
        (year ++ month ++ day).all Char.isDigit then
      let y := Decimal.ofDigits year
      some <|
        match Time.Date.of y (Decimal.ofDigits month) (Decimal.ofDigits day) with
        | .ok date => .ok (.date date)
        | .error fault => .error (.date fault y)
    else none
  | _ => none

/-- What a plain scalar stands for. -/
def read (cs : List Char) : Except Fault Scalar :=
  let text := String.ofList cs
  if trueWords.contains text then .ok (.bool true)
  else if falseWords.contains text then .ok (.bool false)
  else if nullWords.contains text then .ok .null
  else
    match float? cs with
    | some x => .ok (.float x)
    | none => ((integer? cs).orElse fun _ => date? cs).getD (.ok (.text text))

end EntrySearch.Yaml.PlainScalar
