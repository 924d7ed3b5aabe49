import EntrySearch.CommandLine.Options
import EntrySearch.Exchange.Client
import EntrySearch.Journal.Journal
import EntrySearch.Json.Writer
import EntrySearch.Search.QueryString
import EntrySearch.Search.Service
import EntrySearch.Settings.Files
import EntrySearch.Yaml.Reader

/-!
# The command line

Two commands take the same options: one prints the request for search parameters, the other lets the
search engine carry it out and prints the entries it finds. What goes wrong while a command is
carried out is recorded in the journal and ends the program.
-/

namespace EntrySearch.CommandLine

/-- What the command line can see of the world. -/
structure World where
  /-- Files. -/
  files : Files
  /-- Variables of the environment. -/
  environment : Environment
  /-- Local time zone. -/
  zone : Time.Zone
  /-- The present moment. -/
  now : Time.Moment
  /-- The stamp of the present moment on files. -/
  stamp : String
  /-- Answers of the server. -/
  server : Server
  /-- Random part of pauses. -/
  jitter : Float
  /-- How settings files are read. -/
  reader : Yaml.Reader := Yaml.reader

/-- What is to be done. -/
inductive Action where
  /-- Print the request. -/
  | compile
  /-- Carry the request out and print what is found. -/
  | search
  deriving DecidableEq, Repr

namespace Action

/-- The name of a command. -/
def name : Action → String
  | .compile => "compile"
  | .search => "search"

/-- The command with a name. -/
def ofName? (name : String) : Option Action :=
  [compile, search].find? fun action => action.name = name

/-- The word for an action that failed. -/
def title : Action → String
  | .compile => "Compile"
  | .search => "Search"

end Action

/-- The option that asks for help. -/
def helpOption : OptionSpec :=
  ⟨"--help", none, false⟩

/-- The options before the command. -/
def generalOptions : List OptionSpec :=
  [⟨"--config", none, true⟩, helpOption]

/-- The options of a command. -/
def commandOptions : List OptionSpec :=
  [⟨"--param", some 'p', true⟩, ⟨"--query", some 'q', true⟩, ⟨"--now", none, true⟩, helpOption]

/-- The path of the settings file with the defaults. -/
def defaultSettings : String :=
  "config/default.yml"

/-- The options of a command as they are given. -/
structure Inquiry where
  /-- What is to be done. -/
  action : Action
  /-- The search parameters. -/
  parameters : Parameters
  /-- The time to be taken for the present, if one is given. -/
  now : Option String
  deriving DecidableEq, Repr

/-- Why there is no file for the journal. -/
inductive JournalFault where
  /-- Its directory is a file. -/
  | isFile
  /-- Its directory is said to lie in a file. -/
  | insideFile
  deriving DecidableEq, Repr

/-- How a run of the program ends. -/
inductive Ending where
  /-- All is done. -/
  | done
  /-- Help is asked for. -/
  | help
  /-- The arguments are refused. -/
  | refused (fault : UsageFault)
  /-- A command failed. -/
  | aborted
  /-- The settings are not loaded. -/
  | notLoaded (fault : LoadFault)
  /-- The journal is not set up. -/
  | noJournal (fault : JournalFault)
  deriving DecidableEq, Repr

/-- What a run of the program did and how it ended. -/
structure Report where
  /-- What was done, in order. -/
  events : List Event
  /-- The journal at the end. -/
  journal : Journal
  /-- How it ended. -/
  ending : Ending

namespace Ending

/-- The code that the program ends with. -/
def exitCode : Ending → Nat
  | .done | .help => 0
  | .refused _ => 2
  | .aborted | .notLoaded _ | .noJournal _ => 1

/-- The last thing said about an ending. -/
def lastWord : Ending → String
  | .refused fault => "Error: " ++ fault.message
  | .aborted => "Aborted!\n"
  | _ => ""

end Ending

namespace Report

/-- Nothing but an ending. -/
def ofEnding (ending : Ending) : Report :=
  ⟨[], .fresh, ending⟩

/-- The lines that were printed. -/
def output (report : Report) : String :=
  String.join ((Event.lines report.events).map (· ++ "\n"))

/-- What was said besides: the records shown on the console, and the last word. -/
def sideOutput (report : Report) : String :=
  report.journal.console ++ report.ending.lastWord

end Report

/-- What can go wrong with a command. -/
inductive CommandFault where
  /-- The search has no result. -/
  | search (fault : ServiceFault ClientFault)
  /-- A number in what is to be printed is too long. -/
  | unwritable

/-- What is said about a command that failed. -/
def CommandFault.message : CommandFault → String
  | .search fault => fault.message ClientFault.message
  | .unwritable => Decimal.unwritableMessage

/-- A command being carried out. -/
abbrev Doing :=
  Traced Event CommandFault

/-- The time to be taken for the present; an empty text is none. -/
def presentTime (world : World) (now : Option String) : Doing Time.Moment :=
  match now with
  | none => return world.now
  | some text =>
    if text.isEmpty then return world.now
    else
      Traced.ofExcept <|
        (Timestamp.moment world.zone "now" text).mapError fun fault =>
          .search (.search (.malformed fault))

/-- Print a value, if it can be written. -/
def print (write : Value → String) (value : Value) : Doing Unit :=
  if value.isWritable then Traced.emit (.line (write value)) else .fail .unwritable

/-- Print the request for an inquiry. -/
def preview (world : World) (policy : Policy) (inquiry : Inquiry) : Doing Unit := do
  let now ← presentTime world inquiry.now
  let request ← (policy.compile world.zone now inquiry.parameters).widen .record
    fun fault => .search (.search fault)
  print Value.jsonBlock (.record [("index", .text request.index), ("body", request.body)])

/-- Let the server carry out a request. The body is written before it is sent, so one that cannot be
written is never posted. -/
def answer (world : World) (client : Client) (request : Request) :
    Traced Event ClientFault Value :=
  if request.body.isWritable then client.execute world.server world.jitter 0 request
  else .fail (.failure ⟨.request, Decimal.unwritableMessage⟩)

/-- Print hits, each on a line. -/
def printHits : List Hit → Doing Unit
  | [] => return ()
  | hit :: rest => do
    print Value.json hit.toValue
    printHits rest

/-- Print the entries found for an inquiry. -/
def lookUp (world : World) (policy : Policy) (client : Client) (inquiry : Inquiry) :
    Doing Unit := do
  let now ← presentTime world inquiry.now
  let result ← (Service.search policy world.zone now (answer world client)
    inquiry.parameters).widen id .search
  printHits result.hits
  Traced.emit <| .record
    ⟨.info, s!"Returned {result.hits.length} of {result.total} log entries"⟩

/-- Record why a command failed. -/
def settle (action : Action) (doing : Doing Unit) : List Event × Ending :=
  match doing.outcome with
  | .ok () => (doing.trace, .done)
  | .error fault =>
    let message := s!"{action.title} failed: {fault.message}"
    (doing.trace ++ [.record ⟨.error, message⟩], .aborted)

/-- Carry out an inquiry; the session of a search is ended in any case. -/
def carryOut (world : World) (settings : Settings) (inquiry : Inquiry) : List Event × Ending :=
  match inquiry.action with
  | .compile => settle .compile (preview world settings.search inquiry)
  | .search =>
    let client := Client.connect settings.engine.url (some (.real settings.engine.timeout))
    let (events, ending) := settle .search (lookUp world settings.search client inquiry)
    (events ++ [.close], ending)

/-- How the journal is to be kept during an action. -/
def journalSetup (settings : JournalSettings) (action : Action) : JournalSetup :=
  ⟨settings.level.name, action.name, settings.toFile, settings.directory⟩

/-- Every action has a name, so that it is for the settings to say whether a file is kept. -/
theorem keepsFile_journalSetup (settings : JournalSettings) (action : Action) :
    (journalSetup settings action).keepsFile = settings.toFile := by
  unfold JournalSetup.keepsFile journalSetup
  cases action <;> cases settings.toFile <;> rfl

/-- Why the file of a journal cannot be begun. -/
def journalFault? (files : Files) (setup : JournalSetup) (stamp : String) :
    Option JournalFault := do
  let path ← setup.file? stamp
  let directory := path.dropLast
  if files.any fun file => file.1 = directory then some .isFile
  else if files.any fun file => file.1.isPrefixOf directory then some .insideFile
  else none

/-- Set up the journal and carry out an inquiry. -/
def perform (world : World) (settings : Settings) (inquiry : Inquiry) : Report :=
  let setup := journalSetup settings.journal inquiry.action
  match journalFault? world.files setup world.stamp with
  | some fault => .ofEnding (.noJournal fault)
  | none =>
    let journal := Journal.fresh.configure world.stamp setup
    let (events, ending) := carryOut world settings inquiry
    ⟨events, journal.writeAll (Event.records events), ending⟩

/-- Read the arguments of a command. -/
def readInquiry (action : Action) (arguments : List String) :
    Except UsageFault (Option Inquiry) := do
  let parsed ← parse commandOptions true arguments
  if parsed.has "--help" then return none
  if !parsed.words.isEmpty then throw (.extraWords parsed.words)
  return some {
    action
    parameters := QueryString.collect (parsed.values "--param") (parsed.last? "--query")
    now := parsed.last? "--now" }

/-- Run a command with its arguments. -/
def runAction (world : World) (settings : Settings) (action : Action) (arguments : List String) :
    Report :=
  match readInquiry action arguments with
  | .error fault => .ofEnding (.refused fault)
  | .ok none => .ofEnding .help
  | .ok (some inquiry) => perform world settings inquiry

/-- Load the settings and run a command with its arguments. -/
def runCommand (world : World) (settingsFile name : String) (arguments : List String) : Report :=
  match Action.ofName? name with
  | none => .ofEnding (.refused (.unknownCommand name))
  | some action =>
    match
      Settings.loadOver world.reader world.files world.environment (.ofText defaultSettings)
        (.ofText settingsFile)
    with
    | .error fault => .ofEnding (.notLoaded fault)
    | .ok settings => runAction world settings action arguments

/-- Run the program. -/
def run (world : World) (arguments : List String) : Report :=
  match parse generalOptions false arguments with
  | .error fault => .ofEnding (.refused fault)
  | .ok parsed =>
    let settingsFile := (parsed.last? "--config").getD defaultSettings
    if arguments.isEmpty || parsed.has "--help" then .ofEnding .help
    else if !settingsFile.isEmpty && world.files.isDirectory (.ofText settingsFile) then
      .ofEnding (.refused (.directory "--config" settingsFile))
    else
      match parsed.words with
      | [] => .ofEnding (.refused .noCommand)
      | name :: arguments => runCommand world settingsFile name arguments

end EntrySearch.CommandLine
