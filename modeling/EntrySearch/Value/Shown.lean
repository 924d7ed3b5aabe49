import EntrySearch.Text.Quoted
import EntrySearch.Value.Basic

/-!
# Values as text

How a value reads as the text of a parameter or of an identifier: a text stands for itself, texts
inside lists and objects are quoted.
-/

namespace EntrySearch

/-- Numbers have sixteen places before and three zeros behind the point before an exponent is
written, and exponents have two digits. -/
def Decimal.plainLayout : Decimal.Layout where
  leastPoint := -3
  greatestPoint := 16
  wholeSuffix := ".0"
  exponentWidth := 2
  infinity := "inf"
  undefined := "nan"

/-- A scalar inside a list or an object. -/
def Scalar.shown : Scalar → String
  | .null => "None"
  | .bool b => if b then "True" else "False"
  | .int n => String.ofList (Decimal.integer n)
  | .float x => String.ofList (Decimal.plainLayout.write x)
  | .text s => Text.quoted s
  | .date d => d.text

mutual

/-- A value inside a list or an object. -/
def Value.shown : Value → String
  | .scalar s => s.shown
  | .list items => "[" ++ String.intercalate ", " (shownItems items) ++ "]"
  | .object entries => "\x7b" ++ String.intercalate ", " (shownEntries entries) ++ "\x7d"

/-- The items of a list. -/
def shownItems : List Value → List String
  | [] => []
  | item :: rest => item.shown :: shownItems rest

/-- The entries of an object. -/
def shownEntries : List (Scalar × Value) → List String
  | [] => []
  | (key, value) :: rest => (key.shown ++ ": " ++ value.shown) :: shownEntries rest

end

/-- A value that stands alone. -/
def Value.plain : Value → String
  | .text s => s
  | value => value.shown

end EntrySearch
