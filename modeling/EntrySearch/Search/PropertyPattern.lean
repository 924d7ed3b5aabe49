import EntrySearch.Text.Blank
import EntrySearch.Text.Pieces

/-!
# Property patterns

A pattern `name.attribute.value` asks for a property with an attribute that has a value. Levels
that are left out or blank are not constrained, and further levels are ignored.
-/

namespace EntrySearch

/-- A pattern for the properties of an entry. -/
structure PropertyPattern where
  /-- Pattern for the name of the property. -/
  name : Option String
  /-- Pattern for the name of an attribute of the property. -/
  attributeName : Option String
  /-- Pattern for the value of that attribute. -/
  value : Option String
  deriving DecidableEq, Repr

namespace PropertyPattern

/-- A segment of a pattern, `none` when it is blank. -/
def segment? (piece : List Char) : Option String :=
  let trimmed := Text.trim piece
  if trimmed.isEmpty then none else some (String.ofList trimmed)

/-- The segment at a position, `none` when it is blank or left out. -/
def segmentAt (parts : List (List Char)) (position : Nat) : Option String :=
  parts[position]?.bind segment?

/-- Read a pattern; there is none without a name and an attribute, and a value without an attribute
is dropped. -/
def ofTerm? (term : String) : Option PropertyPattern :=
  let parts := Text.pieces (· = '.') term.toList
  match segmentAt parts 0, segmentAt parts 1 with
  | none, none => none
  | name, none => some ⟨name, none, none⟩
  | name, some attributeName => some ⟨name, some attributeName, segmentAt parts 2⟩

end PropertyPattern

end EntrySearch
