/-!
# Decimal digits

Reading and writing natural numbers and integers in base ten. Whole numbers of more than
`digitLimit` digits are not read.
-/

namespace EntrySearch.Decimal

/-- The value of a digit. -/
def digitValue (c : Char) : Nat :=
  c.toNat - '0'.toNat

/-- The number written by digits, after the number `start`. -/
def ofDigitsFrom (start : Nat) : List Char → Nat
  | [] => start
  | c :: rest => ofDigitsFrom (10 * start + digitValue c) rest

/-- The number written by digits. -/
def ofDigits (cs : List Char) : Nat :=
  ofDigitsFrom 0 cs

/-- The digits of a natural number, without leading zeros. -/
def digits (n : Nat) : List Char :=
  Nat.toDigits 10 n

/-- The digits of a natural number, filled up with zeros on the left. -/
def paddedDigits (width n : Nat) : List Char :=
  let ds := digits n
  List.replicate (width - ds.length) '0' ++ ds

/-- An integer in base ten. -/
def integer (n : Int) : List Char :=
  if n < 0 then '-' :: digits n.natAbs else digits n.natAbs

/-- The greatest number of digits of a whole number that is read or written. -/
def digitLimit : Nat :=
  4300

/-- A whole number that is not too long to be written. -/
def isWritable (n : Int) : Bool :=
  (digits n.natAbs).length ≤ digitLimit

/-- What is said about a whole number that is too long to be written. -/
def unwritableMessage : String :=
  s!"Exceeds the limit ({digitLimit} digits) for integer string conversion; " ++
    "use sys.set_int_max_str_digits() to increase the limit"

/-- A whole number with more digits than are read. -/
structure TooManyDigits where
  /-- Number of digits, the sign not counted. -/
  count : Nat
  deriving DecidableEq, Repr

/-- What is said about a whole number that is too long. -/
def TooManyDigits.message (fault : TooManyDigits) : String :=
  s!"Exceeds the limit ({digitLimit} digits) for integer string conversion: " ++
    s!"value has {fault.count} digits; use sys.set_int_max_str_digits() to increase the limit"

/-- Split a leading sign off; the flag tells whether it is a minus. -/
def splitSign : List Char → Bool × List Char
  | '-' :: rest => (true, rest)
  | '+' :: rest => (false, rest)
  | cs => (false, cs)

/-- Give a natural number a sign. -/
def signed (negative : Bool) (n : Nat) : Int :=
  if negative then -(n : Int) else n

/-- Read a whole number that is known to be an optional sign and digits. -/
def readInteger (cs : List Char) : Except TooManyDigits Int :=
  let (negative, ds) := splitSign cs
  if ds.length > digitLimit then .error ⟨ds.length⟩ else .ok (signed negative (ofDigits ds))

/-- An optional sign and at least one digit, and nothing else. -/
def isSignedDigits (cs : List Char) : Bool :=
  let ds := (splitSign cs).2
  !ds.isEmpty && ds.all Char.isDigit

end EntrySearch.Decimal
