import EntrySearch.Text.Blank
import EntrySearch.Text.Casing
import EntrySearch.Value.Shown

/-!
# Search parameters

The parameters of a search as they arrive: keys in order, each with a list of texts. Keys that are
the same once trimmed and in lower case belong together.
-/

namespace EntrySearch

/-- Keys with their texts, in order. -/
abbrev Parameters :=
  List (String × List String)

/-- Keys with values of any kind, in order. -/
abbrev RawParameters :=
  List (String × Value)

/-- A parameter whose value has no parts. -/
structure NotIterable where
  /-- Word for the kind of value. -/
  kind : String
  deriving DecidableEq, Repr

/-- What is said about a value without parts where parts are needed. -/
def NotIterable.message (fault : NotIterable) : String :=
  s!"'{fault.kind}' object is not iterable"

namespace Parameters

/-- The texts of a value: a text is one, a list has one for each item, an object one for each
key. -/
def textsOf : Value → Except NotIterable (List String)
  | .text s => .ok [s]
  | .list items => .ok (items.map Value.plain)
  | .object entries => .ok (entries.map fun entry => (Value.scalar entry.1).plain)
  | .scalar s => .error ⟨s.kindName⟩

/-- Read the values of all keys. -/
def ofRaw (raw : RawParameters) : Except NotIterable Parameters :=
  raw.mapM fun pair => return (pair.1, ← textsOf pair.2)

/-- A key as it is compared: trimmed and in lower case. -/
def normalKey (key : String) : String :=
  String.ofList (Text.lower (Text.trim key.toList))

/-- Collect the texts of keys that belong together under the normal key, at the place of its first
key with a text. -/
def normalize (parameters : Parameters) : Parameters :=
  parameters.foldl
    (fun normal entry =>
      if entry.2.isEmpty then normal else Entries.appendAt (normalKey entry.1) entry.2 normal)
    []

end Parameters

end EntrySearch
