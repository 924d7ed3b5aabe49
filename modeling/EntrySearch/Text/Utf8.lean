/-!
# UTF-8

The octets of a text, and the text of any octets: an ill-formed sequence reads as one replacement
character for its longest well-formed beginning, and for its first octet when there is none.
-/

namespace EntrySearch.Text.Utf8

/-- The octets of one character. -/
def encodeChar (c : Char) : List Nat :=
  let n := c.toNat
  if n < 0x80 then [n]
  else if n < 0x800 then [0xC0 + n / 64, 0x80 + n % 64]
  else if n < 0x10000 then [0xE0 + n / 4096, 0x80 + n / 64 % 64, 0x80 + n % 64]
  else [0xF0 + n / 262144, 0x80 + n / 4096 % 64, 0x80 + n / 64 % 64, 0x80 + n % 64]

/-- The octets of a text. -/
def encode (cs : List Char) : List Nat :=
  cs.flatMap encodeChar

/-- A character of which some octets have been read. -/
structure Pending where
  /-- The bits read so far. -/
  bits : Nat
  /-- Octets still owed, less one. -/
  owed : Nat
  /-- Least octet that may follow. -/
  low : Nat
  /-- Greatest octet that may follow. -/
  high : Nat
  deriving DecidableEq, Repr

/-- What stands for an ill-formed sequence. -/
def replacement : Char :=
  '\uFFFD'

/-- Read the first octet of a character. -/
def start (octet : Nat) : List Char × Option Pending :=
  if octet < 0x80 then ([Char.ofNat octet], none)
  else if octet < 0xC2 then ([replacement], none)
  else if octet < 0xE0 then ([], some ⟨octet - 0xC0, 0, 0x80, 0xBF⟩)
  else if octet = 0xE0 then ([], some ⟨0, 1, 0xA0, 0xBF⟩)
  else if octet = 0xED then ([], some ⟨0xD, 1, 0x80, 0x9F⟩)
  else if octet < 0xF0 then ([], some ⟨octet - 0xE0, 1, 0x80, 0xBF⟩)
  else if octet = 0xF0 then ([], some ⟨0, 2, 0x90, 0xBF⟩)
  else if octet < 0xF4 then ([], some ⟨octet - 0xF0, 2, 0x80, 0xBF⟩)
  else if octet = 0xF4 then ([], some ⟨4, 2, 0x80, 0x8F⟩)
  else ([replacement], none)

/-- Read one octet: the characters it completes and what is pending after it. -/
def step (pending : Option Pending) (octet : Nat) : List Char × Option Pending :=
  match pending with
  | none => start octet
  | some p =>
    if p.low ≤ octet ∧ octet ≤ p.high then
      let bits := p.bits * 64 + (octet - 0x80)
      match p.owed with
      | 0 => ([Char.ofNat bits], none)
      | owed + 1 => ([], some ⟨bits, owed, 0x80, 0xBF⟩)
    else
      let next := start octet
      (replacement :: next.1, next.2)

/-- The text of the octets that follow what is pending. -/
def decodeFrom (pending : Option Pending) : List Nat → List Char
  | [] => if pending.isSome then [replacement] else []
  | octet :: rest =>
    let next := step pending octet
    next.1 ++ decodeFrom next.2 rest

/-- The text of any octets. -/
def decode (octets : List Nat) : List Char :=
  decodeFrom none octets

end EntrySearch.Text.Utf8
