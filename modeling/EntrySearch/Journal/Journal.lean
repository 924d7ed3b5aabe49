import EntrySearch.Journal.LevelName
import EntrySearch.Text.FilePath

/-!
# The journal

The journal hands records to outlets, each of which takes them from some gravity on: the console,
and perhaps a file that keeps all but the lightest. Setting it up again replaces the outlets that
were set up before; files that were begun stay.
-/

namespace EntrySearch

/-- How the journal is to be kept. -/
structure JournalSetup where
  /-- Name of the least grave level shown. -/
  level : String
  /-- What is going on, which gives the file its name. -/
  action : String
  /-- Whether records are also kept in a file. -/
  toFile : Bool
  /-- Directory of that file. -/
  directory : String
  deriving DecidableEq, Repr

/-- Where an outlet leads to. -/
inductive Place where
  /-- The console. -/
  | console
  /-- A file. -/
  | file (path : FilePath)
  deriving DecidableEq, Repr

/-- What records are handed to. -/
structure Outlet where
  /-- Where it leads to. -/
  place : Place
  /-- Least gravity that it takes. -/
  threshold : Int
  deriving DecidableEq, Repr

/-- A journal with all that has been written to it. -/
structure Journal where
  /-- Least gravity that is looked at; zero stands for no threshold of its own. -/
  gate : Int
  /-- The outlets, in order. -/
  outlets : List Outlet
  /-- Whether records are also handed on to the journal around this one. -/
  handsOn : Bool
  /-- What the console has shown. -/
  console : String
  /-- What the files hold. -/
  files : List (FilePath × String)
  /-- What has been handed on, with its gravity. -/
  handedOn : List (Int × String)
  deriving DecidableEq, Repr

/-- Least gravity that a file keeps. -/
def Journal.fileThreshold : Int :=
  Level.debug.gravity

namespace JournalSetup

/-- A file is to be kept: it is asked for, and there is an action to name it after. -/
def keepsFile (setup : JournalSetup) : Bool :=
  setup.toFile && !setup.action.isEmpty

/-- The path of the file, which carries a stamp of the time. An action that starts at the root takes
no account of the directory. -/
def path (setup : JournalSetup) (stamp : String) : FilePath :=
  let name := s!"{setup.action}_{stamp}.log"
  let directory := if setup.directory.isEmpty then "log" else setup.directory
  .ofText (if setup.action.toList.head? = some '/' then name else s!"{directory}/{name}")

/-- The file to be kept, if one is. -/
def file? (setup : JournalSetup) (stamp : String) : Option FilePath :=
  if setup.keepsFile then some (setup.path stamp) else none

/-- The outlets: the console, and the file if one is kept. -/
def outlets (setup : JournalSetup) (stamp : String) : List Outlet :=
  ⟨.console, Level.gravityOf setup.level⟩ ::
    ((setup.file? stamp).map fun path => ⟨.file path.resolved, Journal.fileThreshold⟩).toList

end JournalSetup

namespace Journal

/-- A journal that has never been set up. -/
def fresh : Journal :=
  ⟨0, [], true, "", [], []⟩

/-- Begin a file, or go on with the one that is there. -/
def begin (path : FilePath) (files : List (FilePath × String)) : List (FilePath × String) :=
  Entries.upsert path (fun old => old.getD "") files

/-- Set a journal up, at a time that is stamped on its file, which can be begun. With a file, all
that the file keeps is looked at. -/
def configure (journal : Journal) (stamp : String) (setup : JournalSetup) : Journal :=
  let outlets := setup.outlets stamp
  { journal with
    gate := if 1 < outlets.length then fileThreshold else Level.gravityOf setup.level
    outlets
    handsOn := false
    files :=
      match setup.file? stamp with
      | some path => begin path.resolved journal.files
      | none => journal.files }

/-- Set a journal up, unless the name of the level stands for something else. -/
def setUp (journal : Journal) (stamp : String) (setup : JournalSetup) :
    Except Level.Misnomer Journal :=
  match Level.misnomer? setup.level with
  | some misnomer => .error misnomer
  | none => .ok (journal.configure stamp setup)

/-- Set a journal up several times, each time with a stamp. -/
def setUpAll (journal : Journal) (setups : List (String × JournalSetup)) :
    Except Level.Misnomer Journal :=
  setups.foldlM (fun journal setup => journal.setUp setup.1 setup.2) journal

/-- Whether records of a gravity are looked at; without a threshold, from warnings on. -/
def isEnabled (journal : Journal) (gravity : Int) : Bool :=
  (if journal.gate = 0 then Level.warning.gravity else journal.gate) ≤ gravity

/-- Short name of a level. -/
def shortName : Level → String
  | .debug => "DEBG"
  | .info => "INFO"
  | .warning => "WARN"
  | .error => "ERRO"
  | .critical => "CRIT"

/-- Short name of a gravity, which may lie between the levels. -/
def tag (gravity : Int) : String :=
  match Level.all.find? fun level => level.gravity = gravity with
  | some level => shortName level
  | none => "Leve"

/-- A record as a line. -/
def line (gravity : Int) (message : String) : String :=
  s!"[{tag gravity}] {message}\n"

/-- Hand a line to an outlet, if its gravity is taken there. -/
def deliver (gravity : Int) (text : String) (journal : Journal) (outlet : Outlet) : Journal :=
  if outlet.threshold ≤ gravity then
    match outlet.place with
    | .console => { journal with console := journal.console ++ text }
    | .file path =>
      { journal with
        files := Entries.upsert path (fun old => old.getD "" ++ text) journal.files }
  else journal

/-- Hand a record on, if records are. -/
def handOn (journal : Journal) (gravity : Int) (message : String) : Journal :=
  if journal.handsOn then
    { journal with handedOn := journal.handedOn ++ [(gravity, message)] }
  else journal

/-- Write a record: it is handed to all outlets, and then on. -/
def write (journal : Journal) (gravity : Int) (message : String) : Journal :=
  if journal.isEnabled gravity then
    (journal.outlets.foldl (deliver gravity (line gravity message)) journal).handOn gravity message
  else journal

/-- Write messages one after another, each with its gravity. -/
def writeEach (journal : Journal) (messages : List (Int × String)) : Journal :=
  messages.foldl (fun journal message => journal.write message.1 message.2) journal

/-- Write records one after another. -/
def writeAll (journal : Journal) (records : List Record) : Journal :=
  journal.writeEach (records.map fun record => (record.level.gravity, record.message))

end Journal

end EntrySearch
