/-!
# Sets of code points

Character properties are stored as lists of closed intervals of code points.
-/

namespace EntrySearch.Text

/-- Membership in a list of closed intervals of code points. -/
def inRanges (ranges : List (Nat × Nat)) (n : Nat) : Bool :=
  ranges.any fun range => range.1 ≤ n && n ≤ range.2

theorem inRanges_iff {ranges : List (Nat × Nat)} {n : Nat} :
    inRanges ranges n = true ↔ ∃ range ∈ ranges, range.1 ≤ n ∧ n ≤ range.2 := by
  simp [inRanges]

end EntrySearch.Text
