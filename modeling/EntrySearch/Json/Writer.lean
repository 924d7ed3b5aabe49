import EntrySearch.Value.Shown

/-!
# Writing JSON

Values as JSON in printable ASCII, on one line or spread over lines with two spaces of indentation
for each level. A value with a whole number that is too long cannot be written.
-/

namespace EntrySearch.Json

/-- Infinite and undefined numbers have names of their own. -/
def layout : Decimal.Layout :=
  { Decimal.plainLayout with infinity := "Infinity", undefined := "NaN" }

/-- One unit of a character beyond ASCII. -/
def unitEscape (n : Nat) : List Char :=
  ['\\', 'u'] ++ Text.hexDigits 4 n

/-- One character of a JSON text. -/
def escapedChar (c : Char) : List Char :=
  match c with
  | '\"' => ['\\', '\"']
  | '\\' => ['\\', '\\']
  | '\n' => ['\\', 'n']
  | '\r' => ['\\', 'r']
  | '\t' => ['\\', 't']
  | '\x0c' => ['\\', 'f']
  | '\x08' => ['\\', 'b']
  | c =>
    let n := c.toNat
    if 32 ≤ n ∧ n < 127 then [c]
    else if n < 0x10000 then unitEscape n
    else unitEscape (0xD800 + (n - 0x10000) / 0x400) ++ unitEscape (0xDC00 + (n - 0x10000) % 0x400)

/-- A text between double quotes. -/
def quoted (cs : List Char) : List Char :=
  '\"' :: cs.flatMap escapedChar ++ ['\"']

/-- The text of a scalar key. -/
def keyChars : Scalar → List Char
  | .null => "null".toList
  | .bool b => if b then "true".toList else "false".toList
  | .int n => Decimal.integer n
  | .float x => layout.write x
  | .text s => s.toList
  | .date d => d.chars

/-- A value without parts. -/
def scalar : Scalar → List Char
  | .text s => quoted s.toList
  | .date d => quoted d.chars
  | s => keyChars s

/-- A scalar that can be written. -/
def isWritableScalar : Scalar → Bool
  | .int n => Decimal.isWritable n
  | _ => true

mutual

/-- A value of which every part can be written. -/
def isWritable : Value → Bool
  | .scalar s => isWritableScalar s
  | .list items => areWritable items
  | .object entries => haveWritable entries

/-- Items that can be written. -/
def areWritable : List Value → Bool
  | [] => true
  | item :: rest => isWritable item && areWritable rest

/-- Entries whose keys and values can be written. -/
def haveWritable : List (Scalar × Value) → Bool
  | [] => true
  | (key, value) :: rest => isWritableScalar key && isWritable value && haveWritable rest

end

/-- Join texts with a separator. -/
def joined (separator : List Char) : List (List Char) → List Char
  | [] => []
  | [item] => item
  | item :: rest => item ++ separator ++ joined separator rest

mutual

/-- A value on one line. -/
def line : Value → List Char
  | .scalar s => scalar s
  | .list items => '[' :: joined [',', ' '] (lineItems items) ++ [']']
  | .object entries => '\x7b' :: joined [',', ' '] (lineEntries entries) ++ ['\x7d']

/-- The items of a list, each on one line. -/
def lineItems : List Value → List (List Char)
  | [] => []
  | item :: rest => line item :: lineItems rest

/-- The entries of an object, each on one line. -/
def lineEntries : List (Scalar × Value) → List (List Char)
  | [] => []
  | (key, value) :: rest =>
    (quoted (keyChars key) ++ [':', ' '] ++ line value) :: lineEntries rest

end

/-- A line break and the indentation of a level. -/
def newline (level : Nat) : List Char :=
  '\n' :: List.replicate (2 * level) ' '

/-- Parts of a list or an object on lines of their own. -/
def spread (opening closing : Char) (level : Nat) (parts : List (List Char)) : List Char :=
  if parts.isEmpty then [opening, closing]
  else
    opening :: newline (level + 1) ++ joined (',' :: newline (level + 1)) parts ++
      newline level ++ [closing]

mutual

/-- A value spread over lines, at a level of indentation. -/
def block (level : Nat) : Value → List Char
  | .scalar s => scalar s
  | .list items => spread '[' ']' level (blockItems (level + 1) items)
  | .object entries => spread '\x7b' '\x7d' level (blockEntries (level + 1) entries)

/-- The items of a list. -/
def blockItems (level : Nat) : List Value → List (List Char)
  | [] => []
  | item :: rest => block level item :: blockItems level rest

/-- The entries of an object. -/
def blockEntries (level : Nat) : List (Scalar × Value) → List (List Char)
  | [] => []
  | (key, value) :: rest =>
    (quoted (keyChars key) ++ [':', ' '] ++ block level value) :: blockEntries level rest

end

end EntrySearch.Json

namespace EntrySearch.Value

/-- A value that can be written as JSON. -/
def isWritable (value : Value) : Bool :=
  Json.isWritable value

/-- A value as JSON on one line. -/
def json (value : Value) : String :=
  String.ofList (Json.line value)

/-- A value as JSON spread over lines. -/
def jsonBlock (value : Value) : String :=
  String.ofList (Json.block 0 value)

end EntrySearch.Value
