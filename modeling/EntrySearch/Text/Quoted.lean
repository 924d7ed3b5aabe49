import EntrySearch.Text.PrintableTable

/-!
# Quoted text

A text as it is shown inside a message: between single quotes, or between double quotes when it
holds a single quote and no double quote; the backslash, the quote in use and what cannot be
printed are escaped.
-/

namespace EntrySearch.Text

/-- The last `width` hexadecimal digits of a number, in small letters. -/
def hexDigits (width n : Nat) : List Char :=
  match width with
  | 0 => []
  | width + 1 => hexDigits width (n / 16) ++ [Nat.digitChar (n % 16)]

/-- One character between quotes of the given kind. -/
def quotedChar (quote c : Char) : List Char :=
  if c = '\\' ∨ c = quote then ['\\', c]
  else if c = '\n' then ['\\', 'n']
  else if c = '\r' then ['\\', 'r']
  else if c = '\t' then ['\\', 't']
  else if isPrintable c then [c]
  else if c.toNat < 0x100 then ['\\', 'x'] ++ hexDigits 2 c.toNat
  else if c.toNat < 0x10000 then ['\\', 'u'] ++ hexDigits 4 c.toNat
  else ['\\', 'U'] ++ hexDigits 8 c.toNat

/-- The quote that encloses a text. -/
def quoteFor (cs : List Char) : Char :=
  if cs.contains '\'' && !cs.contains '"' then '"' else '\''

/-- A text between quotes. -/
def quoted (text : String) : String :=
  let cs := text.toList
  let quote := quoteFor cs
  String.ofList (quote :: cs.flatMap (quotedChar quote) ++ [quote])

end EntrySearch.Text
