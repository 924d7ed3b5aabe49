import EntrySearch.Value.Shown

/-!
# Hits

The entries that a search engine found, taken out of its response. What the response leaves out is
filled in; a response of another form is refused.
-/

namespace EntrySearch

/-- An entry that was found. -/
structure Hit where
  /-- Identifier. -/
  id : String
  /-- Rank, whatever the engine says about it. -/
  score : Value
  /-- What is stored about the entry. -/
  source : List (Scalar × Value)

/-- What a search found. -/
structure SearchResult where
  /-- Number of entries that match, which may be more than were asked for. -/
  total : Int
  /-- The entries, best first. -/
  hits : List Hit

/-- Why a response is refused. -/
inductive ResponseFault where
  /-- An object is expected where there is a value of another kind. -/
  | notObject (kind : String)
  /-- A list is expected where there is a value without parts. -/
  | notIterable (kind : String)
  /-- An entry of a source, by its position, has no parts. -/
  | noPair (position : Nat)
  /-- An entry of a source, by its position, has not two parts. -/
  | pairLength (position length : Nat)
  /-- A key of a source is a list or an object. -/
  | badKey (kind : String)
  deriving DecidableEq, Repr

/-- What is said about a response that is refused. -/
def ResponseFault.message : ResponseFault → String
  | .notObject kind => s!"'{kind}' object has no attribute 'get'"
  | .notIterable kind => s!"'{kind}' object is not iterable"
  | .noPair position =>
    s!"cannot convert dictionary update sequence element #{position} to a sequence"
  | .pairLength position length =>
    s!"dictionary update sequence element #{position} has length {length}; 2 is required"
  | .badKey kind => s!"unhashable type: '{kind}'"

/-- The parts of a value: items of a list, keys of an object, characters of a text. -/
def Value.parts? : Value → Option (List Value)
  | .list items => some items
  | .object entries => some (entries.map fun entry => .scalar entry.1)
  | .text s => some (s.toList.map fun c => .text (String.ofList [c]))
  | .scalar _ => none

namespace Hit

/-- A key and a value made of the parts of an entry of a source. -/
def pairOf (position : Nat) (entry : Value) : Except ResponseFault (Scalar × Value) :=
  match entry.parts? with
  | none => .error (.noPair position)
  | some [.scalar key, value] => .ok (key, value)
  | some [key, _] => .error (.badKey key.kindName)
  | some parts => .error (.pairLength position parts.length)

/-- The pairs among entries, counted from a position. -/
def pairsFrom (position : Nat) : List Value → Except ResponseFault (List (Scalar × Value))
  | [] => .ok []
  | entry :: rest => do
    let pair ← pairOf position entry
    let pairs ← pairsFrom (position + 1) rest
    return pair :: pairs

/-- What is stored about an entry: an object, or the pairs of a list, of which the last one with a
key counts. -/
def sourceOf (source : Value) : Except ResponseFault (List (Scalar × Value)) :=
  match source with
  | .object entries => .ok entries
  | _ =>
    if source.isVoid then .ok []
    else
      match source.parts? with
      | none => .error (.notIterable source.kindName)
      | some parts => return Entries.ofPairs (← pairsFrom 0 parts)

/-- Take an entry out of a response. -/
def ofValue (value : Value) : Except ResponseFault Hit :=
  match value with
  | .object _ => do
    let source ← sourceOf ((value.field? "_source").getD .null)
    return {
      id := ((value.field? "_id").getD (.text "")).plain
      score := (value.field? "_score").getD .null
      source }
  | _ => .error (.notObject value.kindName)

end Hit

namespace SearchResult

/-- A field of an object, the default when it is missing or void. -/
def fieldOr (key : String) (otherwise : Value) (value : Value) : Except ResponseFault Value :=
  match value with
  | .object _ =>
    let field := (value.field? key).getD .null
    .ok (if field.isVoid then otherwise else field)
  | _ => .error (.notObject value.kindName)

/-- The whole number that a response gives as total, directly or as the value of an object. -/
def totalOf? (total : Value) : Option Int :=
  let direct :=
    match total with
    | .object _ => (total.field? "value").getD .null
    | _ => total
  match direct with
  | .int n => some n
  | _ => none

/-- Take what was found out of a response. -/
def ofResponse (response : Value) : Except ResponseFault SearchResult := do
  let found ← fieldOr "hits" (.object []) response
  let list ← fieldOr "hits" (.list []) found
  let parts ←
    match list.parts? with
    | some parts => pure parts
    | none => throw (.notIterable list.kindName)
  let hits ← parts.mapM Hit.ofValue
  let total := totalOf? ((found.field? "total").getD .null)
  return ⟨total.getD hits.length, hits⟩

end SearchResult

/-- An entry as an object: identifier, score and what is stored, which may override the two. -/
def Hit.toValue (hit : Hit) : Value :=
  .object <| Entries.ofPairs <|
    (.text "id", .text hit.id) :: (.text "score", hit.score) :: hit.source

end EntrySearch
