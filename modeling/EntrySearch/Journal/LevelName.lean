import EntrySearch.Journal.Record
import EntrySearch.Value.Entries

/-!
# Names of levels

Levels are named in capital or small letters. The journal knows three more names than there are
levels: two short ones, and one for no level at all. Two names stand for something else than a
level, and are refused where a level is to be named.
-/

namespace EntrySearch.Level

/-- The capital form of a character, where it consists of ASCII letters that stand in a name: two
small letters beyond ASCII have one, and so do two ligatures. -/
def capital (c : Char) : List Char :=
  if c = 'ı' then ['I']
  else if c = 'ſ' then ['S']
  else if c = 'ﬅ' ∨ c = 'ﬆ' then ['S', 'T']
  else [c.toUpper]

/-- A name in capital letters. -/
def capitals (name : String) : String :=
  String.ofList (name.toList.flatMap capital)

/-- The level with a name. -/
def ofName? (name : String) : Option Level :=
  all.find? fun level => level.name = capitals name

/-- Gravities by name, with those of the further names. -/
def gravities : List (String × Int) :=
  all.map (fun level => (level.name, level.gravity)) ++
    [("WARN", warning.gravity), ("FATAL", critical.gravity), ("NOTSET", 0)]

/-- The gravity that a name stands for; a name that is not known stands for information. -/
def gravityOf (name : String) : Int :=
  (Entries.get? (capitals name) gravities).getD info.gravity

/-- What a name that is no level's stands for. -/
inductive Misnomer where
  /-- The usual layout of a line. -/
  | layout
  /-- The layouts by style. -/
  | styles
  deriving DecidableEq, Repr

/-- What is said where such a name is given for a level. -/
def Misnomer.message : Misnomer → String
  | .layout => "Unknown level: '%(levelname)s:%(name)s:%(message)s'"
  | .styles =>
    "Level not an integer or a valid string: \x7b'%': (<class 'logging.PercentStyle'>, " ++
      "'%(levelname)s:%(name)s:%(message)s'), '\x7b': (<class 'logging.StrFormatStyle'>, " ++
      "'\x7blevelname\x7d:\x7bname\x7d:\x7bmessage\x7d'), " ++
      "'$': (<class 'logging.StringTemplateStyle'>, " ++
      "'$\x7blevelname\x7d:$\x7bname\x7d:$\x7bmessage\x7d')\x7d"

/-- The names that stand for something else than a level. -/
def misnomers : List (String × Misnomer) :=
  [("BASIC_FORMAT", .layout), ("_STYLES", .styles)]

/-- What a name stands for, if it stands for something else than a level. -/
def misnomer? (name : String) : Option Misnomer :=
  Entries.get? (capitals name) misnomers

end EntrySearch.Level
