import EntrySearch.Text.CaseTable

/-!
# Lower case

The full lower-case form of a text. One capital has a two-character form, and a capital sigma at
the end of a word becomes the final sigma; every other letter is mapped on its own.
-/

namespace EntrySearch.Text

/-- A letter with case that ends the search for the neighbours of a sigma. -/
def isCased (c : Char) : Bool :=
  if c.toNat < 128 then c.isAlpha else inRanges casedRanges c.toNat

/-- A character the search for the neighbours of a sigma passes over. -/
def isCaseIgnorable (c : Char) : Bool :=
  inRanges caseIgnorableRanges c.toNat

/-- The code point of the lower-case letter, the code point itself when there is none. -/
def lowerCode (n : Nat) : Nat :=
  match lowerRuns.find? (·.covers n) with
  | some run => run.image n
  | none => n

/-- The lower-case form of one character outside any word. -/
def lowerChar (c : Char) : List Char :=
  if c.toNat < 128 then [c.toLower]
  else if c = '\u0130' then ['i', '\u0307']
  else [Char.ofNat (lowerCode c.toNat)]

/-- The first character that is not passed over is a letter with case. -/
def startsCased : List Char → Bool
  | [] => false
  | c :: rest => if isCaseIgnorable c then startsCased rest else isCased c

/-- Whether a letter with case precedes, once `c` has been read. -/
def casedAfter (before : Bool) (c : Char) : Bool :=
  if isCaseIgnorable c then before else isCased c

/-- Lower case of a text that stands after (`before`) or not after a letter with case. -/
def lowerFrom (before : Bool) : List Char → List Char
  | [] => []
  | c :: rest =>
    let form :=
      if c = 'Σ' then [if before && !startsCased rest then 'ς' else 'σ'] else lowerChar c
    form ++ lowerFrom (casedAfter before c) rest

/-- The lower-case form of a text. -/
def lower (cs : List Char) : List Char :=
  lowerFrom false cs

@[simp]
theorem lower_nil : lower [] = [] :=
  rfl

end EntrySearch.Text
