/-!
# Suggestions

What a misspelt word may have been meant to be: known words that share enough of it. The shared part
of two words is their longest common stretch together with what the parts before it and the parts
behind it share.
-/

namespace EntrySearch.Suggestion

/-- Length of the common start of two words. -/
def commonStart : List Char → List Char → Nat
  | a :: as, b :: bs => if a = b then commonStart as bs + 1 else 0
  | _, _ => 0

/-- A stretch that two words have in common. -/
structure Stretch where
  /-- Where it starts in the first word. -/
  first : Nat
  /-- Where it starts in the second word. -/
  second : Nat
  /-- Its length. -/
  length : Nat
  deriving DecidableEq, Repr

/-- The longest stretch that two words have in common, the first one of several. -/
def longest (word other : List Char) : Stretch :=
  let starts := (List.range word.length).flatMap fun i =>
    (List.range other.length).map fun j =>
      (⟨i, j, commonStart (word.drop i) (other.drop j)⟩ : Stretch)
  starts.foldl (fun best next => if best.length < next.length then next else best) ⟨0, 0, 0⟩

/-- Number of characters that two words share; `fuel` bounds the number of stretches. -/
def sharedWithin : Nat → List Char → List Char → Nat
  | 0, _, _ => 0
  | fuel + 1, word, other =>
    let stretch := longest word other
    if stretch.length = 0 then 0
    else
      stretch.length +
        sharedWithin fuel (word.take stretch.first) (other.take stretch.second) +
        sharedWithin fuel (word.drop (stretch.first + stretch.length))
          (other.drop (stretch.second + stretch.length))

/-- Number of characters that two words share. -/
def shared (word other : String) : Nat :=
  sharedWithin (word.length + 1) word.toList other.toList

/-- Two words are close when they share three fifths of their characters. -/
def isClose (word other : String) : Bool :=
  3 * (word.length + other.length) ≤ 10 * shared word other

/-- Compare how much two known words share of a word, relative to their lengths. -/
def isBetter (word first second : String) : Bool :=
  let left := shared first word * (second.length + word.length)
  let right := shared second word * (first.length + word.length)
  right < left || (right == left && second < first)

/-- Greatest number of suggestions. -/
def most : Nat :=
  3

/-- The known words that a word is close to, in alphabetical order; of many the closest. -/
def suggestions (known : List String) (word : String) : List String :=
  let close := known.filter fun other => isClose other word
  ((close.mergeSort (isBetter word)).take most).mergeSort fun first second => first ≤ second

end EntrySearch.Suggestion
