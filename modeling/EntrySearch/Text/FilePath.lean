import EntrySearch.Text.Pieces

/-!
# Paths of files

A path is compared by its parts: empty parts and dots stand for nothing, and a path that starts at
the root has an empty first part.
-/

namespace EntrySearch

/-- The parts of a path. -/
abbrev FilePath :=
  List String

namespace FilePath

/-- Read a path. -/
def ofText (text : String) : FilePath :=
  let parts := (Text.pieces (· = '/') text.toList).map String.ofList
  let names := parts.filter fun name => name ≠ "" ∧ name ≠ "."
  if text.toList.head? = some '/' then "" :: names else names

/-- Go one step back from a path: its last part goes, but nothing lies above the root, and a path
that leads back already leads back further. -/
def stepBack (path : FilePath) : FilePath :=
  match path.getLast? with
  | some "" => path
  | none | some ".." => path ++ [".."]
  | some _ => path.dropLast

/-- The place that a path leads to once its steps back are taken. -/
def resolved (path : FilePath) : FilePath :=
  path.foldl (fun taken part => if part = ".." then stepBack taken else taken ++ [part]) []

/-- Write a path. -/
def text (path : FilePath) : String :=
  String.intercalate "/" path

end FilePath

end EntrySearch
