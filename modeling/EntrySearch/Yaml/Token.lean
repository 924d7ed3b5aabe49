import EntrySearch.Yaml.ScalarText

/-!
# Tokens

The punctuation and the scalars of a text. Indentation opens and closes collections, and a key may
turn out to be one only at the colon behind it, so a token is held back as long as it may still
become the start of a key.
-/

namespace EntrySearch.Yaml

/-- A token. -/
inductive Token where
  /-- A line about the text itself, with the version it asks for. -/
  | directive (version : Option Nat)
  /-- The start of a document. -/
  | documentStart
  /-- The end of a document. -/
  | documentEnd
  /-- Indentation opens a list. -/
  | listStart
  /-- Indentation opens a mapping. -/
  | mappingStart
  /-- Indentation closes a list or a mapping. -/
  | blockEnd
  /-- A bracket opens a list. -/
  | bracketOpen
  /-- A bracket closes a list. -/
  | bracketClose
  /-- A brace opens a mapping. -/
  | braceOpen
  /-- A brace closes a mapping. -/
  | braceClose
  /-- A dash before an item. -/
  | item
  /-- A comma between items. -/
  | comma
  /-- What follows is a key. -/
  | key
  /-- What follows is a value. -/
  | value
  /-- A name for what follows. -/
  | anchor (name : List Char)
  /-- A name in place of something. -/
  | alias (name : List Char)
  /-- A scalar. -/
  | scalar (plain : Bool) (text : List Char)
  /-- The end of the text. -/
  | finish
  deriving DecidableEq, Repr

/-- A token that may turn out to be the start of a key. -/
structure KeyCandidate where
  /-- Number of tokens before it. -/
  number : Nat
  /-- Nothing but a key may stand here. -/
  required : Bool
  /-- Where it starts. -/
  place : Cursor

/-- A reader of tokens on its way through a text. -/
structure Lexer where
  /-- Where it is. -/
  cursor : Cursor
  /-- Tokens that have been read and are held back. -/
  held : List Token := []
  /-- Number of tokens that have been given away. -/
  given : Nat := 0
  /-- Number of open brackets and braces. -/
  depth : Nat := 0
  /-- Column of the innermost open collection. -/
  indent : Int := -1
  /-- Columns of the collections around it. -/
  outer : List Int := []
  /-- Whether a key may start here. -/
  keyAllowed : Bool := true
  /-- Tokens that may turn out to be keys, by the number of open brackets and braces. -/
  candidates : List (Nat × KeyCandidate) := []
  /-- The end has been read. -/
  finished : Bool := false

namespace Lexer

/-- How far behind a candidate its colon may stand. -/
def longestKey : Nat :=
  1024

/-- A candidate is out of date once its line has ended, or too far behind. -/
def isStale (lexer : Lexer) (candidate : KeyCandidate) : Bool :=
  candidate.place.line ≠ lexer.cursor.line ||
    longestKey < lexer.cursor.index - candidate.place.index

/-- Drop the candidates that are out of date; where a key is required there has to be one. -/
def dropStale (lexer : Lexer) : Except Fault Lexer :=
  if lexer.candidates.any fun entry => lexer.isStale entry.2 && entry.2.required then
    .error .lexical
  else
    .ok { lexer with
      candidates := lexer.candidates.filter fun entry => !lexer.isStale entry.2 }

/-- Drop the candidate at the present depth, which must not be a required key. -/
def dropCandidate (lexer : Lexer) : Except Fault Lexer :=
  match Entries.get? lexer.depth lexer.candidates with
  | none => .ok lexer
  | some candidate =>
    if candidate.required then .error .lexical
    else
      .ok { lexer with
        candidates := lexer.candidates.filter fun entry => entry.1 ≠ lexer.depth }

/-- What starts here may turn out to be a key. -/
def saveCandidate (lexer : Lexer) : Except Fault Lexer :=
  if lexer.keyAllowed then do
    let required := lexer.depth = 0 && lexer.indent == lexer.cursor.column
    let candidate : KeyCandidate :=
      ⟨lexer.given + lexer.held.length, required, lexer.cursor⟩
    let lexer ← lexer.dropCandidate
    return { lexer with candidates := (lexer.depth, candidate) :: lexer.candidates }
  else .ok lexer

/-- Hold a token. -/
def hold (lexer : Lexer) (token : Token) : Lexer :=
  { lexer with held := lexer.held ++ [token] }

/-- Close the collections that are indented more than a column. -/
def unwindTo (column : Int) : List Int → Lexer → Lexer
  | [], lexer => lexer
  | indent :: outer, lexer =>
    if lexer.indent ≤ column then lexer
    else unwindTo column outer { lexer.hold .blockEnd with indent, outer }

/-- Close the collections that are indented more than a column; inside brackets and braces
indentation means nothing. -/
def unwind (lexer : Lexer) (column : Int) : Lexer :=
  if lexer.depth = 0 then unwindTo column lexer.outer lexer else lexer

/-- Open a collection at a column, if it is indented more than what is open; the flag tells whether
it is. -/
def open? (lexer : Lexer) (column : Nat) : Bool × Lexer :=
  if lexer.indent < column then
    (true, { lexer with indent := column, outer := lexer.indent :: lexer.outer })
  else (false, lexer)

/-- Open a collection at the present column, unless one is open there. -/
def openHere (lexer : Lexer) (token : Token) : Lexer :=
  match lexer.open? lexer.cursor.column with
  | (true, lexer) => lexer.hold token
  | (false, lexer) => lexer

/-- Go to a place. -/
def moveTo (lexer : Lexer) (cursor : Cursor) : Lexer :=
  { lexer with cursor }

/-- Pass over blanks, comments and line breaks; outside brackets and braces a key may start after a
line break. -/
def skipBlanks : Nat → Lexer → Lexer
  | 0, lexer => lexer
  | fuel + 1, lexer =>
    let cursor := lexer.cursor.skipWhile (· = ' ')
    let cursor := if cursor.peek 0 = some '#' then cursor.skipWhile (!isBreak ·) else cursor
    match cursor.lineBreak? with
    | none => lexer.moveTo cursor
    | some (_, cursor) =>
      skipBlanks fuel { lexer with cursor, keyAllowed := lexer.keyAllowed || lexer.depth = 0 }

/-- Pass over a mark at the front of the text. -/
def skipMark (lexer : Lexer) : Lexer :=
  if lexer.cursor.index = 0 ∧ lexer.cursor.peek 0 = some byteOrderMark then
    lexer.moveTo lexer.cursor.step
  else lexer

/-- Read the end of the text. -/
def readFinish (lexer : Lexer) : Except Fault Lexer := do
  let lexer ← (lexer.unwind (-1)).dropCandidate
  return { lexer.hold .finish with keyAllowed := false, candidates := [], finished := true }

/-- Read the start or the end of a document. -/
def readSeparator (lexer : Lexer) (token : Token) : Except Fault Lexer := do
  let lexer ← (lexer.unwind (-1)).dropCandidate
  return { (lexer.moveTo (lexer.cursor.skip 3)).hold token with keyAllowed := false }

/-- A character of a name. -/
def isNameChar (c : Char) : Bool :=
  c.isAlphanum || c = '-' || c = '_'

/-- Read the version that a directive asks for. -/
def readVersion (cursor : Cursor) : Except Fault (Nat × Cursor) :=
  let cursor := cursor.skipWhile (· = ' ')
  let major := cursor.rest.takeWhile Char.isDigit
  let cursor := cursor.skip major.length
  let rest := cursor.rest.drop 1
  let minor := rest.takeWhile Char.isDigit
  if major.isEmpty ∨ minor.isEmpty ∨ cursor.peek 0 ≠ some '.' then .error .lexical
  else
    let cursor := cursor.skip (minor.length + 1)
    if endsLine (cursor.peek 0) ∨ cursor.peek 0 = some ' ' then
      .ok (Decimal.ofDigits major, cursor)
    else .error .lexical

/-- Read a directive. -/
def readDirective (lexer : Lexer) : Except Fault Lexer := do
  let lexer ← (lexer.unwind (-1)).dropCandidate
  let cursor := lexer.cursor.step
  let name := cursor.rest.takeWhile isNameChar
  let cursor := cursor.skip name.length
  if name.isEmpty ∨ ¬(endsLine (cursor.peek 0) ∨ cursor.peek 0 = some ' ') then throw .lexical
  let (version, cursor) ←
    if name = "YAML".toList then do
      let (major, cursor) ← readVersion cursor
      pure (some major, cursor)
    else pure (none, cursor.skipWhile (!isBreak ·))
  let cursor := cursor.skipWhile (· = ' ')
  let cursor := if cursor.peek 0 = some '#' then cursor.skipWhile (!isBreak ·) else cursor
  if !endsLine (cursor.peek 0) then throw .lexical
  let cursor := (cursor.lineBreak?.map Prod.snd).getD cursor
  return { (lexer.moveTo cursor).hold (.directive version) with keyAllowed := false }

/-- Read an opening bracket or brace. -/
def readOpening (lexer : Lexer) (token : Token) : Except Fault Lexer := do
  let lexer ← lexer.saveCandidate
  return { (lexer.moveTo lexer.cursor.step).hold token with
    depth := lexer.depth + 1, keyAllowed := true }

/-- Read a closing bracket or brace. -/
def readClosing (lexer : Lexer) (token : Token) : Except Fault Lexer := do
  let lexer ← lexer.dropCandidate
  return { (lexer.moveTo lexer.cursor.step).hold token with
    depth := lexer.depth - 1, keyAllowed := false }

/-- Read a comma. -/
def readComma (lexer : Lexer) : Except Fault Lexer := do
  let lexer ← { lexer with keyAllowed := true }.dropCandidate
  return (lexer.moveTo lexer.cursor.step).hold .comma

/-- Open a collection here outside brackets and braces, where a key has to be allowed. -/
def openBlock (lexer : Lexer) (token : Token) : Except Fault Lexer :=
  if lexer.depth ≠ 0 then .ok lexer
  else if lexer.keyAllowed then .ok (lexer.openHere token)
  else .error .lexical

/-- Read the dash before an item. -/
def readItem (lexer : Lexer) : Except Fault Lexer := do
  let lexer ← lexer.openBlock .listStart
  let lexer ← { lexer with keyAllowed := true }.dropCandidate
  return (lexer.moveTo lexer.cursor.step).hold .item

/-- Read the question mark before a key. -/
def readKey (lexer : Lexer) : Except Fault Lexer := do
  let lexer ← lexer.openBlock .mappingStart
  let lexer ← { lexer with keyAllowed := lexer.depth = 0 }.dropCandidate
  return (lexer.moveTo lexer.cursor.step).hold .key

/-- Put tokens before the held token with a number. -/
def insertAt (lexer : Lexer) (number : Nat) (tokens : List Token) : Lexer :=
  let position := number - lexer.given
  { lexer with held := lexer.held.take position ++ tokens ++ lexer.held.drop position }

/-- Read the colon before a value: the candidate at the present depth is a key, and outside brackets
and braces it may open a mapping. -/
def readValue (lexer : Lexer) : Except Fault Lexer := do
  let lexer ←
    match Entries.get? lexer.depth lexer.candidates with
    | some candidate =>
      let lexer := { lexer with
        candidates := lexer.candidates.filter fun entry => entry.1 ≠ lexer.depth
        keyAllowed := false }
      let (opened, lexer) :=
        if lexer.depth = 0 then lexer.open? candidate.place.column else (false, lexer)
      pure (lexer.insertAt candidate.number (if opened then [.mappingStart, .key] else [.key]))
    | none => do
      let lexer ← lexer.openBlock .mappingStart
      { lexer with keyAllowed := lexer.depth = 0 }.dropCandidate
  return (lexer.moveTo lexer.cursor.step).hold .value

/-- What may follow a name. -/
def endsName : Option Char → Bool
  | none => true
  | some c => endsWord (some c) || "?:,]\x7d%@`".toList.contains c

/-- Read a name. -/
def readName (lexer : Lexer) (token : List Char → Token) : Except Fault Lexer := do
  let lexer ← lexer.saveCandidate
  let cursor := lexer.cursor.step
  let name := cursor.rest.takeWhile isNameChar
  let cursor := cursor.skip name.length
  if name.isEmpty ∨ !endsName (cursor.peek 0) then throw .lexical
  return { (lexer.moveTo cursor).hold (token name) with keyAllowed := false }

/-- Read a quoted scalar. -/
def readQuoted (lexer : Lexer) (quote : Char) : Except Fault Lexer := do
  let lexer ← lexer.saveCandidate
  let (text, cursor) ← quotedScalar quote lexer.cursor
  return { (lexer.moveTo cursor).hold (.scalar false text) with keyAllowed := false }

/-- Read a plain scalar. -/
def readPlain (lexer : Lexer) : Except Fault Lexer := do
  let lexer ← lexer.saveCandidate
  let (text, endsLine, cursor) :=
    plainScalar (lexer.depth ≠ 0) (lexer.indent + 1) lexer.cursor
  return { (lexer.moveTo cursor).hold (.scalar true text) with keyAllowed := endsLine }

/-- Punctuation that starts no plain scalar. -/
def isIndicator (c : Char) : Bool :=
  "-?:,[]\x7b\x7d#&*!|>'\"%@`".toList.contains c

/-- A plain scalar starts with a character and the next one. -/
def startsPlain (inFlow : Bool) (c : Char) (next : Option Char) : Bool :=
  !(endsWord (some c) || isIndicator c) ||
    (!endsWord next && (c = '-' || (!inFlow && (c = '?' || c = ':'))))

/-- Read the token that starts with a character. -/
def readToken (lexer : Lexer) (c : Char) : Except Fault Lexer :=
  let next := lexer.cursor.peek 1
  let atFront := lexer.cursor.column = 0
  let inFlow : Bool := lexer.depth ≠ 0
  if atFront ∧ c = '%' then lexer.readDirective
  else if atFront ∧ c = '-' ∧ lexer.cursor.atSeparator then lexer.readSeparator .documentStart
  else if atFront ∧ c = '.' ∧ lexer.cursor.atSeparator then lexer.readSeparator .documentEnd
  else if c = '[' then lexer.readOpening .bracketOpen
  else if c = '\x7b' then lexer.readOpening .braceOpen
  else if c = ']' then lexer.readClosing .bracketClose
  else if c = '\x7d' then lexer.readClosing .braceClose
  else if c = ',' then lexer.readComma
  else if c = '-' ∧ endsWord next then lexer.readItem
  else if c = '?' ∧ (inFlow ∨ endsWord next) then lexer.readKey
  else if c = ':' ∧ (inFlow ∨ endsWord next) then lexer.readValue
  else if c = '*' then lexer.readName .alias
  else if c = '&' then lexer.readName .anchor
  else if c = '\'' ∨ c = '\"' then lexer.readQuoted c
  else if startsPlain inFlow c next then lexer.readPlain
  else .error .lexical

/-- Read on. -/
def readOn (lexer : Lexer) : Except Fault Lexer := do
  let lexer := skipBlanks (lexer.cursor.rest.length + 1) lexer.skipMark
  let lexer ← lexer.dropStale
  let lexer := lexer.unwind lexer.cursor.column
  match lexer.cursor.rest with
  | [] => lexer.readFinish
  | c :: _ => lexer.readToken c

/-- The first held token may still turn out to be a key. -/
def isWaiting (lexer : Lexer) : Bool :=
  lexer.candidates.any fun entry => entry.2.number = lexer.given

/-- All tokens of a text, or those before the first fault. -/
def run : Nat → Lexer → List Token × Option Fault
  | 0, _ => ([], none)
  | fuel + 1, lexer =>
    let settled : Except Fault Lexer :=
      if lexer.finished ∨ lexer.held.isEmpty then .ok lexer else lexer.dropStale
    match settled with
    | .error fault => ([], some fault)
    | .ok lexer =>
      match lexer.held with
      | token :: held =>
        if ¬lexer.finished ∧ lexer.isWaiting then
          match lexer.readOn with
          | .error fault => ([], some fault)
          | .ok lexer => run fuel lexer
        else
          let rest := run fuel { lexer with held, given := lexer.given + 1 }
          (token :: rest.1, rest.2)
      | [] =>
        if lexer.finished then ([], none)
        else
          match lexer.readOn with
          | .error fault => ([], some fault)
          | .ok lexer => run fuel lexer

end Lexer

/-- All tokens of a text, or those before the first fault. -/
def tokens (cs : List Char) : List Token × Option Fault :=
  Lexer.run (8 * cs.length + 16) { cursor := .start cs }

end EntrySearch.Yaml
