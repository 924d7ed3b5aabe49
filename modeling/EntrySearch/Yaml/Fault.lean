import EntrySearch.Decimal.Digits
import EntrySearch.Time.Calendar

/-!
# Why a YAML text is not read
-/

namespace EntrySearch.Yaml

/-- Why a YAML text is not read. -/
inductive Fault where
  /-- The text holds a character that cannot be printed. -/
  | unprintable
  /-- No token can be made of the characters at some place. -/
  | lexical
  /-- No document can be made of the tokens. -/
  | structural
  /-- An alias stands for nothing. -/
  | noAnchor
  /-- A name is given twice. -/
  | sameAnchor
  /-- There is more than one document. -/
  | manyDocuments
  /-- A list or a mapping is used as a key. -/
  | badKey
  /-- A scalar has the form of a date that is none. -/
  | date (fault : Time.DateFault) (year : Nat)
  /-- A whole number is too long. -/
  | digits (fault : Decimal.TooManyDigits)
  /-- A whole number in some base has no digits. -/
  | noDigits (base : Nat)
  /-- An escape asks for a character that does not exist. -/
  | badCode (code : Nat)
  deriving DecidableEq, Repr

/-- The greatest code that is compared with those of the characters at all. -/
def greatestCode : Nat :=
  0x7FFFFFFF

/-- What is said about a fault; of what is no YAML nothing is said. -/
def Fault.message? : Fault → Option String
  | .date fault year => some (fault.message year)
  | .digits fault => some fault.message
  | .noDigits base => some s!"invalid literal for int() with base {base}: ''"
  | .badCode code =>
    some (if code ≤ greatestCode then "chr() arg not in range(0x110000)"
      else "Python int too large to convert to C int")
  | _ => none

end EntrySearch.Yaml
