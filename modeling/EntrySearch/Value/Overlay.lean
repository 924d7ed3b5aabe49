import EntrySearch.Value.Basic

/-!
# Overlays

One object laid over another: objects under the same key are laid over each other in turn, anything
else is replaced. Keys stay where the lower object has them, new ones follow.
-/

namespace EntrySearch

mutual

/-- Lay a value over another. -/
def Value.overlay (base : Value) : Value → Value
  | .object upper =>
    match base with
    | .object entries => .object (overlayEntries entries upper)
    | _ => .object upper
  | upper => upper

/-- Lay entries over those of another object. -/
def overlayEntries (base : List (Scalar × Value)) : List (Scalar × Value) → List (Scalar × Value)
  | [] => base
  | (key, value) :: rest =>
    overlayEntries
      (Entries.upsert key
        (fun old =>
          match old with
          | some lower => lower.overlay value
          | none => value)
        base)
      rest

end

end EntrySearch
