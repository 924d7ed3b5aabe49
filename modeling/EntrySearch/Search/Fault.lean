import EntrySearch.Decimal.Digits
import EntrySearch.Search.Parameters
import EntrySearch.Search.Timestamp

/-!
# Why a search is not compiled
-/

namespace EntrySearch

/-- One end of a time span. -/
inductive Bound where
  /-- The earlier end. -/
  | earliest
  /-- The later end. -/
  | latest
  deriving DecidableEq, Repr

/-- A timestamp of a search parameter that cannot be read. -/
structure Malformed where
  /-- Name of the parameter. -/
  key : String
  /-- The text that is no timestamp. -/
  value : String
  /-- Why it is none. -/
  reason : Timestamp.Fault
  deriving DecidableEq, Repr

/-- What is said about a timestamp that cannot be read. -/
def Malformed.message (fault : Malformed) : String :=
  s!"Malformed search parameter {fault.key}={Text.quoted fault.value}: {fault.reason.message}"

/-- Why search parameters are not understood. -/
inductive SearchFault where
  /-- A value has no parts. -/
  | notIterable (fault : NotIterable)
  /-- A timestamp cannot be read. -/
  | malformed (fault : Malformed)
  /-- A limit is too long to be read. -/
  | digits (fault : Decimal.TooManyDigits)
  /-- There is no time to choose the earliest or latest from. -/
  | noTime (bound : Bound)
  /-- There is no limit to take. -/
  | noLimit
  deriving DecidableEq, Repr

/-- What is said about search parameters that are not understood. -/
def SearchFault.message : SearchFault → String
  | .notIterable fault => fault.message
  | .malformed fault => fault.message
  | .digits fault => fault.message
  | .noTime .earliest => "min() arg is an empty sequence"
  | .noTime .latest => "max() arg is an empty sequence"
  | .noLimit => "tuple index out of range"

/-- Read the timestamp of a parameter as a moment of the local zone. -/
def Timestamp.moment (zone : Time.Zone) (key value : String) : Except Malformed Time.Moment :=
  match Timestamp.read value with
  | .ok wall => .ok (zone.moment wall)
  | .error reason => .error ⟨key, value, reason⟩

end EntrySearch
