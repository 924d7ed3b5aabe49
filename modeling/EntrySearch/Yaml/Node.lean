import EntrySearch.Yaml.Token

/-!
# Nodes

The scalars, lists and mappings of a document, made of its tokens. Nodes refer to each other by
their numbers, so that a node with a name may stand wherever the name does, even inside of itself.
What is missing is an empty plain scalar. When the tokens end early, that is the fault of what
stopped them.
-/

namespace EntrySearch.Yaml

/-- A part of a text. Other parts are given by their numbers. -/
inductive Node where
  /-- A scalar. -/
  | scalar (plain : Bool) (text : List Char)
  /-- A list. -/
  | list (items : List Nat)
  /-- A mapping. -/
  | mapping (pairs : List (Nat × Nat))

/-- The nodes of a text on its way to a document. -/
structure Draft where
  /-- Tokens that are left. -/
  tokens : List Token
  /-- Nodes by number. -/
  nodes : List Node := []
  /-- Numbers of the nodes that have a name. -/
  names : List (List Char × Nat) := []

/-- A step from tokens to nodes. -/
abbrev Drafting :=
  StateT Draft (Except Fault)

namespace Drafting

/-- The first token, or what stopped the tokens. -/
def peek (stop : Fault) : Drafting Token := do
  match (← get).tokens with
  | [] => throw stop
  | token :: _ => return token

/-- Pass over the first token. -/
def skip : Drafting Unit :=
  modify fun draft => { draft with tokens := draft.tokens.drop 1 }

/-- Expect a token in front. -/
def expect (stop : Fault) (expected : Token) : Drafting Unit := do
  if (← peek stop) = expected then skip else throw .structural

/-- Add a node, which may have a name of its own. -/
def add (name : Option (List Char)) (node : Node) : Drafting Nat := do
  let draft ← get
  let number := draft.nodes.length
  match name with
  | none => set { draft with nodes := draft.nodes ++ [node] }
  | some name =>
    if (Entries.get? name draft.names).isSome then throw .sameAnchor
    set { draft with
      nodes := draft.nodes ++ [node]
      names := (name, number) :: draft.names }
  return number

/-- Add a node that may stand inside of itself: it has its number and its name before its parts are
read. -/
def around (name : Option (List Char)) (read : Drafting Node) : Drafting Nat := do
  let number ← add name (.list [])
  let node ← read
  modify fun draft => { draft with nodes := draft.nodes.set number node }
  return number

/-- The node with a name. -/
def named (name : List Char) : Drafting Nat := do
  match Entries.get? name (← get).names with
  | some number => return number
  | none => throw .noAnchor

end Drafting

namespace Node

open Drafting

/-- What stands for something missing. -/
def missing : Node :=
  .scalar true []

/-- Where a node stands. -/
inductive Place where
  /-- Inside brackets or braces. -/
  | flow
  /-- Where indentation counts. -/
  | block
  /-- Key or value of a mapping where indentation counts, which may be a list that is not
  indented. -/
  | member
  deriving DecidableEq, Repr

/-- A member of a mapping ends before one of these tokens. -/
def endsMember : Token → Bool
  | .key | .value | .blockEnd => true
  | _ => false

/-- An item of a list ends before one of these tokens. -/
def endsItem : Token → Bool
  | .item | .blockEnd => true
  | _ => false

/-- An item of a list that is not indented ends before one of these tokens. -/
def endsLooseItem (token : Token) : Bool :=
  endsItem token || endsMember token

/-- A part inside brackets or braces ends before one of these tokens. -/
def endsPart (closing token : Token) : Bool :=
  token = .value || token = .comma || token = closing

/-- There is no node here; only after a name may one be missing. -/
def readNothing (name : Option (List Char)) : Drafting Nat :=
  if name.isSome then add name missing else throw .structural

mutual

/-- Read a node, which may have a name. -/
def read (stop : Fault) : Nat → Place → Option (List Char) → Drafting Nat
  | 0, _, _ => throw stop
  | fuel + 1, place, name => do
    match ← peek stop with
    | .alias other =>
      if name.isSome then add name missing
      else do
        skip
        named other
    | .anchor own =>
      if name.isSome then add name missing
      else do
        skip
        read stop fuel place (some own)
    | .scalar plain text =>
      skip
      add name (.scalar plain text)
    | .bracketOpen =>
      skip
      around name (return .list (← readParts stop fuel true))
    | .braceOpen =>
      skip
      around name (return .mapping (← readMembers stop fuel true))
    | .listStart =>
      if place = .flow then readNothing name
      else do
        skip
        around name (return .list (← readItems stop fuel))
    | .mappingStart =>
      if place = .flow then readNothing name
      else do
        skip
        around name (return .mapping (← readPairs stop fuel))
    | .item =>
      if place = .member then around name (return .list (← readLooseItems stop fuel))
      else readNothing name
    | _ => readNothing name

/-- Read a node unless it is missing, which a token shows. -/
def readOr (stop : Fault) : Nat → Place → (Token → Bool) → Drafting Nat
  | 0, _, _ => throw stop
  | fuel + 1, place, ends => do
    if ends (← peek stop) then add none missing else read stop fuel place none

/-- Read the items of an indented list and its end. -/
def readItems (stop : Fault) : Nat → Drafting (List Nat)
  | 0 => throw stop
  | fuel + 1 => do
    match ← peek stop with
    | .item =>
      skip
      let item ← readOr stop fuel .block endsItem
      return item :: (← readItems stop fuel)
    | _ =>
      expect stop .blockEnd
      return []

/-- Read the items of a list that is not indented. -/
def readLooseItems (stop : Fault) : Nat → Drafting (List Nat)
  | 0 => throw stop
  | fuel + 1 => do
    match ← peek stop with
    | .item =>
      skip
      let item ← readOr stop fuel .block endsLooseItem
      return item :: (← readLooseItems stop fuel)
    | _ => return []

/-- Read the keys and values of an indented mapping and its end. -/
def readPairs (stop : Fault) : Nat → Drafting (List (Nat × Nat))
  | 0 => throw stop
  | fuel + 1 => do
    match ← peek stop with
    | .key =>
      skip
      let key ← readOr stop fuel .member endsMember
      let value ← readValue stop fuel .member endsMember
      return (key, value) :: (← readPairs stop fuel)
    | _ =>
      expect stop .blockEnd
      return []

/-- Read a value behind its colon, if there is one. -/
def readValue (stop : Fault) : Nat → Place → (Token → Bool) → Drafting Nat
  | 0, _, _ => throw stop
  | fuel + 1, place, ends => do
    match ← peek stop with
    | .value =>
      skip
      readOr stop fuel place ends
    | _ => add none missing

/-- Read the parts of a list in brackets and its end; before all but the first there is a comma. -/
def readParts (stop : Fault) : Nat → Bool → Drafting (List Nat)
  | 0, _ => throw stop
  | fuel + 1, first => do
    if (← peek stop) = .bracketClose then
      skip
      return []
    if !first then expect stop .comma
    match ← peek stop with
    | .bracketClose =>
      skip
      return []
    | .key =>
      skip
      let ends := endsPart .bracketClose
      let part ← around none do
        let key ← readOr stop fuel .flow ends
        let value ← readValue stop fuel .flow fun token => token ≠ .value && ends token
        return .mapping [(key, value)]
      return part :: (← readParts stop fuel false)
    | _ =>
      let part ← read stop fuel .flow none
      return part :: (← readParts stop fuel false)

/-- Read the members of a mapping in braces and its end; before all but the first there is a
comma. A member without a colon is a key. -/
def readMembers (stop : Fault) : Nat → Bool → Drafting (List (Nat × Nat))
  | 0, _ => throw stop
  | fuel + 1, first => do
    if (← peek stop) = .braceClose then
      skip
      return []
    if !first then expect stop .comma
    match ← peek stop with
    | .braceClose =>
      skip
      return []
    | .key =>
      skip
      let ends := endsPart .braceClose
      let key ← readOr stop fuel .flow ends
      let value ← readValue stop fuel .flow fun token => token ≠ .value && ends token
      return (key, value) :: (← readMembers stop fuel false)
    | _ =>
      let key ← read stop fuel .flow none
      let value ← add none missing
      return (key, value) :: (← readMembers stop fuel false)

end

/-- Pass over the ends of documents. -/
def skipEnds : Drafting Unit :=
  modify fun draft => { draft with tokens := draft.tokens.dropWhile (· = .documentEnd) }

/-- Pass over directives; at most one asks for a version, and for the first major one. -/
def skipDirectives (stop : Fault) (asked : Bool) : List Token → Except Fault (List Token)
  | [] => .error stop
  | .directive none :: rest => skipDirectives stop asked rest
  | .directive (some major) :: rest =>
    if asked ∨ major ≠ 1 then .error .structural else skipDirectives stop true rest
  | tokens => .ok tokens

/-- Find the start of the next document, which is marked, unless the text ends. -/
def findDocument (stop : Fault) : Drafting Bool := do
  skipEnds
  if (← peek stop) = .finish then return false
  let draft ← get
  set { draft with tokens := ← skipDirectives stop false draft.tokens }
  expect stop .documentStart
  return true

/-- A document ends before one of these tokens. -/
def endsDocument : Token → Bool
  | .directive _ | .documentStart | .documentEnd | .finish => true
  | _ => false

/-- A document starts with one of these tokens, or there is none. -/
def startsDocument : Token → Bool
  | .directive _ | .documentStart | .finish => true
  | _ => false

/-- Read the document in tokens; there is at most one. -/
def readDocument (stop : Fault) (fuel : Nat) : Drafting (Option Nat) := do
  let root ←
    if startsDocument (← peek stop) then
      if ← findDocument stop then do pure (some (← readOr stop fuel .block endsDocument))
      else pure none
    else do pure (some (← read stop fuel .block none))
  if root.isSome then
    if ← findDocument stop then throw .manyDocuments
  return root

/-- Read the nodes of a text; the first one is given by its number. -/
def ofChars? (cs : List Char) : Except Fault (Option (Nat × List Node)) := do
  let (tokens, fault) := tokens cs
  let (root, draft) ←
    (readDocument (fault.getD .lexical) (4 * tokens.length + 4)).run { tokens }
  return root.map fun number => (number, draft.nodes)

end Node

end EntrySearch.Yaml
