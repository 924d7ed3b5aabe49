import EntrySearch.Decimal.Shortest
import EntrySearch.Time.Calendar
import EntrySearch.Value.Entries

/-!
# Values

The values of stored documents, responses and settings files: scalars, lists, and objects whose
entries keep their order. A key of an object may be any scalar.
-/

namespace EntrySearch

/-- A value without parts. -/
inductive Scalar where
  /-- The absent value. -/
  | null
  /-- A truth value. -/
  | bool (b : Bool)
  /-- A whole number of any size. -/
  | int (n : Int)
  /-- A double-precision number. -/
  | float (x : Float)
  /-- A text. -/
  | text (s : String)
  /-- A day of the calendar. -/
  | date (d : Time.Date)

/-- A value of a document. -/
inductive Value where
  /-- A value without parts. -/
  | scalar (s : Scalar)
  /-- A list. -/
  | list (items : List Value)
  /-- An object. -/
  | object (entries : List (Scalar × Value))

namespace Scalar

/-- The whole number that a scalar equals; truth values count as zero and one. -/
def integer? : Scalar → Option Int
  | .bool b => some (if b then 1 else 0)
  | .int n => some n
  | .float x => (Decimal.Binary.ofFloat x).toInt?
  | _ => none

/-- Whether two scalars are the same key: numbers are compared by what they are worth, and an
undefined number is the same as itself. -/
def same : Scalar → Scalar → Bool
  | .null, .null => true
  | .text a, .text b => a == b
  | .date a, .date b => a == b
  | .float x, .float y => x == y || x.toBits == y.toBits
  | a, b =>
    match a.integer?, b.integer? with
    | some m, some n => m == n
    | _, _ => false

instance : BEq Scalar :=
  ⟨same⟩

@[simp]
theorem text_beq_text (a b : String) : (Scalar.text a == Scalar.text b) = (a == b) :=
  rfl

/-- The word for a kind of scalar in messages. -/
def kindName : Scalar → String
  | .null => "NoneType"
  | .bool _ => "bool"
  | .int _ => "int"
  | .float _ => "float"
  | .text _ => "str"
  | .date _ => "datetime.date"

/-- Null, false, zero and the empty text, which count as not given. -/
def isVoid : Scalar → Bool
  | .null => true
  | .bool b => !b
  | .int n => n == 0
  | .float x => x == 0.0
  | .text s => s.isEmpty
  | .date _ => false

end Scalar

/-- No key is the same as one before. -/
def Entries.Distinct {β : Type} (entries : List (Scalar × β)) : Prop :=
  entries.Pairwise fun earlier later => (earlier.1 == later.1) = false

namespace Value

/-- The absent value. -/
@[match_pattern]
abbrev null : Value :=
  .scalar .null

/-- A truth value. -/
@[match_pattern]
abbrev bool (b : Bool) : Value :=
  .scalar (.bool b)

/-- A whole number. -/
@[match_pattern]
abbrev int (n : Int) : Value :=
  .scalar (.int n)

/-- A double-precision number. -/
@[match_pattern]
abbrev float (x : Float) : Value :=
  .scalar (.float x)

/-- A text. -/
@[match_pattern]
abbrev text (s : String) : Value :=
  .scalar (.text s)

/-- An object with texts as keys. -/
def record (fields : List (String × Value)) : Value :=
  .object (fields.map fun field => (.text field.1, field.2))

/-- The word for a kind of value in messages. -/
def kindName : Value → String
  | .scalar s => s.kindName
  | .list _ => "list"
  | .object _ => "dict"

/-- Null, false, zero and what is empty, which count as not given. -/
def isVoid : Value → Bool
  | .scalar s => s.isVoid
  | .list items => items.isEmpty
  | .object entries => entries.isEmpty

/-- The entries of an object. -/
def entries? : Value → Option (List (Scalar × Value))
  | .object entries => some entries
  | _ => none

/-- The value of a text key of an object. -/
def field? (key : String) : Value → Option Value
  | .object entries => Entries.get? (.text key) entries
  | _ => none

end Value

end EntrySearch
