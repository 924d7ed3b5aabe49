import EntrySearch.Json.Reader
import EntrySearch.Yaml.Cursor
import EntrySearch.Yaml.Fault

/-!
# Scalars in a text

Quoted and plain scalars. Line breaks inside a scalar are folded: a single one counts as a space,
and of several the first one is dropped.
-/

namespace EntrySearch.Yaml

/-- Fold line breaks, of which the first is given apart. -/
def folded (first : Char) (others : List Char) : List Char :=
  (if first ≠ '\n' then [first] else if others.isEmpty then [' '] else []) ++ others

/-- The character that an escape of one letter stands for. -/
def escaped? : Char → Option Char
  | '0' => some '\x00'
  | 'a' => some '\x07'
  | 'b' => some '\x08'
  | 't' => some '\t'
  | '\t' => some '\t'
  | 'n' => some '\n'
  | 'v' => some '\x0b'
  | 'f' => some '\x0c'
  | 'r' => some '\r'
  | 'e' => some '\x1b'
  | ' ' => some ' '
  | '\"' => some '\"'
  | '\\' => some '\\'
  | '/' => some '/'
  | 'N' => some '\x85'
  | '_' => some '\xa0'
  | 'L' => some '\u2028'
  | 'P' => some '\u2029'
  | _ => none

/-- The number of hexadecimal digits that follow the letter of an escape. -/
def escapeWidth? : Char → Option Nat
  | 'x' => some 2
  | 'u' => some 4
  | 'U' => some 8
  | _ => none

/-- The number written by hexadecimal digits. -/
def hexNumber? (cs : List Char) : Option Nat := do
  let ds ← cs.mapM Json.hexValue?
  return ds.foldl (fun n d => 16 * n + d) 0

/-- The character that a code stands for. Half of a surrogate pair is no character: it is replaced
by U+FFFD, although a text of code points could keep it. -/
def characterOf (code : Nat) : Except Fault Char :=
  if code < 0x110000 then .ok (Json.ofUnit code) else .error (.badCode code)

/-- Read the line breaks, spaces and tabs after a line break inside a quoted scalar. -/
def quotedBreaks : Nat → Cursor → Except Fault (List Char × Cursor)
  | 0, cursor => .ok ([], cursor)
  | fuel + 1, cursor =>
    if cursor.atSeparator then .error .lexical
    else
      let cursor := cursor.skipWhile isGap
      match cursor.lineBreak? with
      | none => .ok ([], cursor)
      | some (c, cursor) => do
        let (others, cursor) ← quotedBreaks fuel cursor
        return (c :: others, cursor)

/-- Read white space inside a quoted scalar, which starts here. -/
def quotedSpace (cursor : Cursor) : Except Fault (List Char × Cursor) :=
  let space := cursor.rest.takeWhile isGap
  let cursor := cursor.skip space.length
  match cursor.lineBreak? with
  | none => if cursor.rest.isEmpty then .error .lexical else .ok (space, cursor)
  | some (first, cursor) => do
    let (others, cursor) ← quotedBreaks cursor.rest.length cursor
    return (folded first others, cursor)

/-- Read what follows a backslash in a scalar between double quotes. -/
def escape (cursor : Cursor) : Except Fault (List Char × Cursor) :=
  match cursor.rest with
  | [] => .error .lexical
  | c :: rest =>
    match escaped? c, escapeWidth? c with
    | some plain, _ => .ok ([plain], cursor.step)
    | none, some width =>
      let ds := rest.take width
      match hexNumber? ds with
      | some code => do
        if ds.length < width then throw .lexical
        return ([← characterOf code], cursor.skip (width + 1))
      | none => .error .lexical
    | none, none =>
      match cursor.lineBreak? with
      | some (_, cursor) => quotedBreaks cursor.rest.length cursor
      | none => .error .lexical

/-- Read a quoted scalar up to its closing quote; `fuel` bounds the number of characters. -/
def quotedFrom (quote : Char) : Nat → Cursor → Except Fault (List Char × Cursor)
  | 0, _ => .error .lexical
  | fuel + 1, cursor =>
    match cursor.rest with
    | [] => .error .lexical
    | c :: rest =>
      if c = quote ∧ ¬(quote = '\'' ∧ rest.head? = some quote) then .ok ([], cursor.step)
      else do
        let (part, cursor) ←
          if c = quote then pure ([c], cursor.skip 2)
          else if quote = '\"' ∧ c = '\\' then escape cursor.step
          else if isGap c ∨ isBreak c then quotedSpace cursor
          else pure ([c], cursor.step)
        let (others, cursor) ← quotedFrom quote fuel cursor
        return (part ++ others, cursor)

/-- Read a quoted scalar that starts here. -/
def quotedScalar (quote : Char) (cursor : Cursor) : Except Fault (List Char × Cursor) :=
  quotedFrom quote cursor.rest.length cursor.step

/-- Characters that are punctuation inside brackets and braces. -/
def isBracket (c : Char) : Bool :=
  c = ',' || c = '[' || c = ']' || c = '\x7b' || c = '\x7d'

/-- The characters of a plain scalar up to white space or punctuation. -/
def plainWord (inFlow : Bool) : List Char → List Char
  | [] => []
  | c :: rest =>
    let next := rest.head?
    let colon := c = ':' && (endsWord next || (inFlow && next.any isBracket))
    if endsWord (some c) || colon || (inFlow && (isBracket c || c = '?')) then []
    else c :: plainWord inFlow rest

/-- White space after a word of a plain scalar. -/
structure PlainSpace where
  /-- What it counts as; empty when the scalar ends here. -/
  chars : List Char
  /-- Whether a line ends in it. -/
  endsLine : Bool
  /-- The place after it. -/
  cursor : Cursor

/-- Read the line breaks and spaces after a line break inside a plain scalar; there are none when a
separator of documents follows. -/
def plainBreaks : Nat → Cursor → Option (List Char) × Cursor
  | 0, cursor => (some [], cursor)
  | fuel + 1, cursor =>
    if cursor.atSeparator then (none, cursor)
    else
      let cursor := cursor.skipWhile (· = ' ')
      match cursor.lineBreak? with
      | none => (some [], cursor)
      | some (c, cursor) =>
        let (others, cursor) := plainBreaks fuel cursor
        (others.map (c :: ·), cursor)

/-- Read white space after a word of a plain scalar. -/
def plainSpace (cursor : Cursor) : PlainSpace :=
  let space := cursor.rest.takeWhile (· = ' ')
  let cursor := cursor.skip space.length
  match cursor.lineBreak? with
  | none => ⟨space, false, cursor⟩
  | some (first, cursor) =>
    match plainBreaks cursor.rest.length cursor with
    | (none, cursor) => ⟨[], true, cursor⟩
    | (some others, cursor) => ⟨folded first others, true, cursor⟩

/-- Read a plain scalar whose next word starts here, after `space`. The scalar ends before a
comment and, outside brackets, at a line that is not indented by `indent`. -/
def plainFrom (inFlow : Bool) (indent : Int) : Nat → PlainSpace → List Char × Bool × Cursor
  | 0, space => ([], space.endsLine, space.cursor)
  | fuel + 1, space =>
    let word := plainWord inFlow space.cursor.rest
    if word.isEmpty ∨ space.cursor.peek 0 = some '#' then ([], space.endsLine, space.cursor)
    else
      let next := plainSpace (space.cursor.skip word.length)
      if next.chars.isEmpty ∨ (¬inFlow ∧ (next.cursor.column : Int) < indent) then
        (space.chars ++ word, next.endsLine, next.cursor)
      else
        let (others, endsLine, cursor) := plainFrom inFlow indent fuel next
        (space.chars ++ word ++ others, endsLine, cursor)

/-- Read a plain scalar that starts here, and tell whether a line ends after it. -/
def plainScalar (inFlow : Bool) (indent : Int) (cursor : Cursor) : List Char × Bool × Cursor :=
  plainFrom inFlow indent cursor.rest.length ⟨[], false, cursor⟩

end EntrySearch.Yaml
