/-!
# Blank characters

White space together with the four information separators: what trimming removes at the ends of a
text and what separates the words of free text.
-/

namespace EntrySearch.Text

/-- White space, line and paragraph separators, and the information separators. -/
def isBlank (c : Char) : Bool :=
  let n := c.toNat
  (9 ≤ n && n ≤ 13) || (28 ≤ n && n ≤ 32) || n == 0x85 || n == 0xA0 || n == 0x1680 ||
    (0x2000 ≤ n && n ≤ 0x200A) || n == 0x2028 || n == 0x2029 || n == 0x202F || n == 0x205F ||
    n == 0x3000

/-- Remove the blank characters at the end. -/
def trimEnd (cs : List Char) : List Char :=
  (cs.reverse.dropWhile isBlank).reverse

/-- Remove the blank characters at both ends. -/
def trim (cs : List Char) : List Char :=
  trimEnd (cs.dropWhile isBlank)

/-- A text with nothing but blank characters. -/
def isAllBlank (cs : List Char) : Bool :=
  cs.all isBlank

end EntrySearch.Text
