import EntrySearch.Text.Blank
import EntrySearch.Text.Casing
import EntrySearch.Text.Pieces

/-!
# Search terms

A value of a search parameter is cut into terms. Free text ends a term at a bar, a comma, a
semicolon or a blank character; names may hold blank characters, so a blank ends no name. Terms are
trimmed and in lower case, and empty ones are dropped.
-/

namespace EntrySearch.Term

/-- What ends a name. -/
def endsName (c : Char) : Bool :=
  c = '|' || c = ',' || c = ';'

/-- What ends a word of free text. -/
def endsWord (c : Char) : Bool :=
  endsName c || Text.isBlank c

/-- A piece of a value as a term: trimmed and in lower case. -/
def ofPiece (piece : List Char) : String :=
  String.ofList (Text.lower (Text.trim piece))

/-- The terms among pieces of a value. -/
def ofPieces (parts : List (List Char)) : List String :=
  (parts.map ofPiece).filter (!·.isEmpty)

/-- The terms of free text. -/
def words (value : String) : List String :=
  ofPieces (Text.pieces endsWord value.toList)

/-- The terms of a list of names. -/
def names (value : String) : List String :=
  ofPieces (Text.pieces endsName value.toList)

end EntrySearch.Term
