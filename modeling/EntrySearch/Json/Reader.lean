import EntrySearch.Value.Basic

/-!
# Reading JSON

A reader of JSON that also takes the names of infinite and undefined numbers. Of equal keys in an
object the last one counts, at the place of the first. A fault tells where reading stopped. Whole
numbers may be limited to a number of digits.
-/

namespace EntrySearch.Json

/-- What is wrong with a text that should be JSON. -/
inductive Complaint where
  /-- No value starts here. -/
  | value
  /-- No key starts here. -/
  | key
  /-- No colon stands after a key. -/
  | colon
  /-- Neither a comma nor the end of the list or object. -/
  | comma
  /-- Text after the value. -/
  | extra
  /-- A text without its closing quote. -/
  | unterminated
  /-- A control character inside a text. -/
  | control
  /-- A backslash before a character that cannot be escaped. -/
  | escape
  /-- An escape without four hexadecimal digits. -/
  | unitEscape
  deriving DecidableEq, Repr

/-- The wording of a complaint. -/
def Complaint.message : Complaint → String
  | .value => "Expecting value"
  | .key => "Expecting property name enclosed in double quotes"
  | .colon => "Expecting ':' delimiter"
  | .comma => "Expecting ',' delimiter"
  | .extra => "Extra data"
  | .unterminated => "Unterminated string starting at"
  | .control => "Invalid control character at"
  | .escape => "Invalid \\escape"
  | .unitEscape => "Invalid \\uXXXX escape"

/-- Why a text is not read. -/
inductive Fault where
  /-- The text is no JSON, so many characters before its end. -/
  | malformed (complaint : Complaint) (remaining : Nat)
  /-- A whole number is too long. -/
  | digits (fault : Decimal.TooManyDigits)
  deriving DecidableEq, Repr

/-- What is said about a fault in a text: complaint, line, column and offset. -/
def Fault.message (fault : Fault) (text : List Char) : String :=
  match fault with
  | .digits fault => fault.message
  | .malformed complaint remaining =>
    let offset := text.length - remaining
    let read := text.take offset
    let lineNumber := read.count '\n' + 1
    let column := (read.reverse.takeWhile (· ≠ '\n')).length + 1
    s!"{complaint.message}: line {lineNumber} column {column} (char {offset})"

/-- Complain about the place where the rest of the text starts. -/
def complain {α : Type} (complaint : Complaint) (rest : List Char) : Except Fault α :=
  .error (.malformed complaint rest.length)

/-- The characters between the tokens of JSON. -/
def isSpace (c : Char) : Bool :=
  c = ' ' || c = '\t' || c = '\n' || c = '\r'

/-- Drop the space at the front. -/
def skipSpace (cs : List Char) : List Char :=
  cs.dropWhile isSpace

/-- The value of a hexadecimal digit. -/
def hexValue? (c : Char) : Option Nat :=
  if '0' ≤ c ∧ c ≤ '9' then some (c.toNat - '0'.toNat)
  else if 'a' ≤ c ∧ c ≤ 'f' then some (c.toNat - 'a'.toNat + 10)
  else if 'A' ≤ c ∧ c ≤ 'F' then some (c.toNat - 'A'.toNat + 10)
  else none

/-- The value of four hexadecimal digits. -/
def unit? (a b c d : Char) : Option Nat := do
  let a ← hexValue? a
  let b ← hexValue? b
  let c ← hexValue? c
  let d ← hexValue? d
  return 4096 * a + 256 * b + 16 * c + d

/-- The character that a letter stands for after a backslash. -/
def escaped? : Char → Option Char
  | '\"' => some '\"'
  | '\\' => some '\\'
  | '/' => some '/'
  | 'b' => some '\x08'
  | 'f' => some '\x0c'
  | 'n' => some '\n'
  | 'r' => some '\r'
  | 't' => some '\t'
  | _ => none

/-- The character of one unit. Half of a surrogate pair that stands alone is no character: it is
replaced by U+FFFD, although a text of code points could keep it. -/
def ofUnit (n : Nat) : Char :=
  if 0xD800 ≤ n ∧ n < 0xE000 then '\uFFFD' else Char.ofNat n

/-- The character of two units, when they are a pair. -/
def ofPair? (high low : Nat) : Option Char :=
  if 0xD800 ≤ high ∧ high < 0xDC00 ∧ 0xDC00 ≤ low ∧ low < 0xE000 then
    some (Char.ofNat (0x10000 + (high - 0xD800) * 0x400 + (low - 0xDC00)))
  else none

/-- Read the characters of a text up to its closing quote; `opening` is the rest of the input at
the opening quote, and `fuel` bounds the number of characters. -/
def readText (opening : List Char) : Nat → List Char → Except Fault (List Char × List Char)
  | 0, _ => complain .unterminated opening
  | _, [] => complain .unterminated opening
  | _, '\"' :: rest => .ok ([], rest)
  | _, ['\\'] => complain .unterminated opening
  | fuel + 1, '\\' :: 'u' :: rest =>
    match rest with
    | a :: b :: c :: d :: e :: more =>
      match unit? a b c d with
      | none => complain .unitEscape ('u' :: rest)
      | some high =>
        let single : Except Fault (List Char × List Char) := do
          let (cs, rest) ← readText opening fuel (e :: more)
          return (ofUnit high :: cs, rest)
        if 0xD800 ≤ high ∧ high < 0xDC00 then
          match e, more with
          | '\\', 'u' :: p :: q :: r :: s :: t :: others =>
            match unit? p q r s with
            | none => complain .unitEscape more
            | some low =>
              match ofPair? high low with
              | some c => do
                let (cs, rest) ← readText opening fuel (t :: others)
                return (c :: cs, rest)
              | none => single
          | _, _ => single
        else single
    | _ => complain .unitEscape ('u' :: rest)
  | fuel + 1, '\\' :: c :: rest =>
    match escaped? c with
    | none => complain .escape ('\\' :: c :: rest)
    | some plain => do
      let (cs, rest) ← readText opening fuel rest
      return (plain :: cs, rest)
  | fuel + 1, c :: rest =>
    if c.toNat < 32 then complain .control (c :: rest)
    else do
      let (cs, rest) ← readText opening fuel rest
      return (c :: cs, rest)

/-- Read the text after an opening quote. -/
def readQuoted (rest : List Char) : Except Fault (String × List Char) := do
  let (cs, rest) ← readText ('\"' :: rest) (rest.length + 1) rest
  return (String.ofList cs, rest)

/-- Split off the digits of a number before the point: none, a zero, or digits without a leading
zero. -/
def takeWhole : List Char → List Char × List Char
  | '0' :: rest => (['0'], rest)
  | cs => (cs.takeWhile Char.isDigit, cs.dropWhile Char.isDigit)

/-- Split off a point with the digits behind it, if there are any. -/
def takeFraction : List Char → Option (List Char) × List Char
  | '.' :: rest =>
    let ds := rest.takeWhile Char.isDigit
    if ds.isEmpty then (none, '.' :: rest) else (some ds, rest.dropWhile Char.isDigit)
  | cs => (none, cs)

/-- Split off an exponent, if it has digits. -/
def takeExponent (cs : List Char) : Option Int × List Char :=
  match cs with
  | [] => (none, cs)
  | c :: rest =>
    let (negative, unsigned) := Decimal.splitSign rest
    let ds := unsigned.takeWhile Char.isDigit
    if (c = 'e' ∨ c = 'E') ∧ !ds.isEmpty then
      (some (Decimal.signed negative (Decimal.ofDigits ds)), unsigned.dropWhile Char.isDigit)
    else (none, cs)

/-- A whole number of so many digits is too long; without a limit none is. -/
def exceeds (limit : Option Nat) (count : Nat) : Bool :=
  limit.any (· < count)

@[simp]
theorem exceeds_some_iff {limit count : Nat} :
    exceeds (some limit) count = true ↔ limit < count :=
  decide_eq_true_iff

/-- Read a number. -/
def readNumber (limit : Option Nat) (cs : List Char) : Except Fault (Value × List Char) :=
  let negative := cs.head? = some '-'
  let unsigned := if negative then cs.drop 1 else cs
  let (whole, rest) := takeWhole unsigned
  if whole.isEmpty then complain .value cs
  else
    let (fraction, rest) := takeFraction rest
    let (exponent, rest) := takeExponent rest
    match fraction, exponent with
    | none, none =>
      if exceeds limit whole.length then .error (.digits ⟨whole.length⟩)
      else .ok (.int (Decimal.signed negative (Decimal.ofDigits whole)), rest)
    | _, _ =>
      let places := fraction.getD []
      .ok
        (.float
          (Decimal.toFloat negative (Decimal.ofDigits (whole ++ places))
            (exponent.getD 0 - places.length)),
          rest)

/-- Names of values. -/
def names : List (List Char × Value) := [
  ("null".toList, .null),
  ("true".toList, .bool true),
  ("false".toList, .bool false),
  ("NaN".toList, .float (0.0 / 0.0)),
  ("Infinity".toList, .float (1.0 / 0.0)),
  ("-Infinity".toList, .float (-1.0 / 0.0))]

/-- Read a name or a number. -/
def readScalar (limit : Option Nat) (cs : List Char) : Except Fault (Value × List Char) :=
  match names.find? fun name => name.1.isPrefixOf cs with
  | some name => .ok (name.2, cs.drop name.1.length)
  | none => readNumber limit cs

mutual

/-- Read a value, with `fuel` for the values inside it. -/
def readValue (limit : Option Nat) : Nat → List Char → Except Fault (Value × List Char)
  | 0, cs => complain .value cs
  | fuel + 1, cs =>
    match cs with
    | '\"' :: rest => do
      let (s, rest) ← readQuoted rest
      return (.text s, rest)
    | '[' :: rest =>
      match skipSpace rest with
      | ']' :: rest => .ok (.list [], rest)
      | rest => do
        let (items, rest) ← readItems limit fuel rest
        return (.list items, rest)
    | '\x7b' :: rest =>
      match skipSpace rest with
      | '\x7d' :: rest => .ok (.object [], rest)
      | rest => do
        let (pairs, rest) ← readPairs limit fuel rest
        return (.object (Entries.ofPairs pairs), rest)
    | _ => readScalar limit cs

/-- Read the items of a list and its end. -/
def readItems (limit : Option Nat) : Nat → List Char → Except Fault (List Value × List Char)
  | 0, cs => complain .value cs
  | fuel + 1, cs => do
    let (item, rest) ← readValue limit fuel cs
    match skipSpace rest with
    | ']' :: rest => return ([item], rest)
    | ',' :: rest =>
      let (items, rest) ← readItems limit fuel (skipSpace rest)
      return (item :: items, rest)
    | rest => complain .comma rest

/-- Read the entries of an object and its end. -/
def readPairs (limit : Option Nat) :
    Nat → List Char → Except Fault (List (Scalar × Value) × List Char)
  | 0, cs => complain .key cs
  | fuel + 1, cs =>
    match cs with
    | '\"' :: rest => do
      let (key, rest) ← readQuoted rest
      match skipSpace rest with
      | ':' :: rest =>
        let (value, rest) ← readValue limit fuel (skipSpace rest)
        match skipSpace rest with
        | '\x7d' :: rest => return ([(.text key, value)], rest)
        | ',' :: rest =>
          let (pairs, rest) ← readPairs limit fuel (skipSpace rest)
          return ((.text key, value) :: pairs, rest)
        | rest => complain .comma rest
      | rest => complain .colon rest
    | _ => complain .key cs

end

/-- Read one value and nothing else, under a limit for the digits of whole numbers. -/
def readUpTo (limit : Option Nat) (cs : List Char) : Except Fault Value := do
  let (value, rest) ← readValue limit (2 * cs.length + 2) (skipSpace cs)
  let rest := skipSpace rest
  if rest.isEmpty then return value else complain .extra rest

/-- Read one value and nothing else, with whole numbers that are not too long. -/
def readChars (cs : List Char) : Except Fault Value :=
  readUpTo (some Decimal.digitLimit) cs

/-- Read one value and nothing else, with whole numbers that are not too long. -/
def read (text : String) : Except Fault Value :=
  readChars text.toList

end EntrySearch.Json
