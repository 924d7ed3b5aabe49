/-!
# A place in a text

The rest of a text with the number, the line and the column of its first character.
-/

namespace EntrySearch.Yaml

/-- A place in a text. -/
structure Cursor where
  /-- The characters from the place on. -/
  rest : List Char
  /-- Number of characters before the place. -/
  index : Nat
  /-- Number of lines before the place. -/
  line : Nat
  /-- Number of characters before the place on its line. -/
  column : Nat
  deriving DecidableEq, Repr

/-- The mark that may stand at the front of a text. -/
def byteOrderMark : Char :=
  '\uFEFF'

/-- A line break, or a part of one. -/
def isBreak (c : Char) : Bool :=
  c = '\n' || c = '\r' || c = '\x85' || c = '\u2028' || c = '\u2029'

/-- A space or a tab. -/
def isGap (c : Char) : Bool :=
  c = ' ' || c = '\t'

/-- The end of the text or a line break. -/
def endsLine : Option Char → Bool
  | none => true
  | some c => isBreak c

/-- The end of the text, a line break, a space or a tab. -/
def endsWord : Option Char → Bool
  | none => true
  | some c => isBreak c || isGap c

namespace Cursor

/-- The start of a text. -/
def start (cs : List Char) : Cursor :=
  ⟨cs, 0, 0, 0⟩

/-- The character at a distance from the place. -/
def peek (cursor : Cursor) (distance : Nat) : Option Char :=
  cursor.rest[distance]?

/-- The place after one character. -/
def step (cursor : Cursor) : Cursor :=
  match cursor.rest with
  | [] => cursor
  | c :: rest =>
    if isBreak c && !(c = '\r' && rest.head? = some '\n') then
      ⟨rest, cursor.index + 1, cursor.line + 1, 0⟩
    else
      ⟨rest, cursor.index + 1, cursor.line,
        if c = byteOrderMark then cursor.column else cursor.column + 1⟩

/-- The place after a number of characters. -/
def skip (cursor : Cursor) : Nat → Cursor
  | 0 => cursor
  | count + 1 => cursor.step.skip count

/-- The place after the characters that satisfy `p`. -/
def skipWhile (cursor : Cursor) (p : Char → Bool) : Cursor :=
  cursor.skip (cursor.rest.takeWhile p).length

/-- Read a line break; all but two kinds count as a line feed. -/
def lineBreak? (cursor : Cursor) : Option (Char × Cursor) :=
  match cursor.rest with
  | '\r' :: '\n' :: _ => some ('\n', cursor.skip 2)
  | c :: _ =>
    if c = '\u2028' ∨ c = '\u2029' then some (c, cursor.step)
    else if isBreak c then some ('\n', cursor.step)
    else none
  | [] => none

/-- A line that separates documents starts here, if a line starts here. -/
def atSeparator (cursor : Cursor) : Bool :=
  match cursor.rest with
  | '-' :: '-' :: '-' :: rest => endsWord rest.head?
  | '.' :: '.' :: '.' :: rest => endsWord rest.head?
  | _ => false

end Cursor

end EntrySearch.Yaml
