/-!
# Pieces between separators

Cutting a text at every separator. There is one piece more than there are separators, so pieces may
be empty.
-/

namespace EntrySearch.Text

/-- Put a character in front of the first piece. -/
def prependToFirst (c : Char) : List (List Char) → List (List Char)
  | [] => [[c]]
  | piece :: others => (c :: piece) :: others

/-- The pieces of a text between the characters that satisfy `isSeparator`. -/
def pieces (isSeparator : Char → Bool) : List Char → List (List Char)
  | [] => [[]]
  | c :: rest =>
    if isSeparator c then [] :: pieces isSeparator rest
    else prependToFirst c (pieces isSeparator rest)

/-- Cut at the first occurrence of a character, which is dropped; the second part is `none` when
the character does not occur. -/
def cutAt (mark : Char) : List Char → List Char × Option (List Char)
  | [] => ([], none)
  | c :: rest =>
    if c = mark then ([], some rest)
    else ((c :: (cutAt mark rest).1), (cutAt mark rest).2)

theorem pieces_ne_nil (isSeparator : Char → Bool) (cs : List Char) :
    pieces isSeparator cs ≠ [] := by
  cases cs with
  | nil => simp [pieces]
  | cons c rest =>
    simp only [pieces]
    split
    · simp
    · cases pieces isSeparator rest <;> simp [prependToFirst]

end EntrySearch.Text
