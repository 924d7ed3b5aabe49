import EntrySearch.Journal.LevelName
import EntrySearch.Search.Request
import EntrySearch.Text.Blank

/-!
# Settings

The settings of the program come in three groups: about the journal, about searches, and about the
search engine. Every option has a default, so a group or an option may be left out; what is given
has to be of the right kind and to make sense.
-/

namespace EntrySearch

/-- Settings of the journal. -/
structure JournalSettings where
  /-- Least grave records shown. -/
  level : Level
  /-- Whether records are also kept in a file. -/
  toFile : Bool
  /-- Directory of that file. -/
  directory : String
  deriving DecidableEq, Repr

/-- Settings of the connection to the search engine. -/
structure EngineSettings where
  /-- Address of the server. -/
  url : String
  /-- Variable of the environment that may hold another address. -/
  urlVariable : String
  /-- Seconds to wait for a reply. -/
  timeout : Float

/-- The settings of the program. -/
structure Settings where
  /-- About the journal. -/
  journal : JournalSettings
  /-- About searches. -/
  search : Policy
  /-- About the search engine. -/
  engine : EngineSettings

/-- The variables of the environment. -/
abbrev Environment :=
  List (String × String)

/-- What an option holds. -/
inductive OptionKind where
  /-- A text. -/
  | text
  /-- A truth value. -/
  | truth
  /-- A whole number. -/
  | integer
  /-- A number. -/
  | number
  deriving DecidableEq, Repr

/-- The phrase for a kind of option. -/
def OptionKind.phrase : OptionKind → String
  | .text => "a string"
  | .truth => "a boolean"
  | .integer => "an integer"
  | .number => "a number"

/-- What the program keeps of an option. -/
abbrev OptionKind.Held : OptionKind → Type
  | .text => String
  | .truth => Bool
  | .integer => Int
  | .number => Float

/-- What is kept of an option, as a value. -/
def OptionKind.value : (kind : OptionKind) → kind.Held → Value
  | .text, s => .text s
  | .truth, b => .bool b
  | .integer, n => .int n
  | .number, x => .float x

/-- Why settings are refused. -/
inductive SettingsFault where
  /-- The settings are no object. -/
  | notObject (kind : String)
  /-- A group is no object. -/
  | group (name : String)
  /-- An option is of the wrong kind. -/
  | kind (path : String) (expected : OptionKind)
  /-- A whole number is too large to be a fractional one. -/
  | tooLarge
  /-- There is no such level. -/
  | level
  /-- An option is blank. -/
  | blank (path : String)
  /-- An option is not positive. -/
  | notPositive (path : String)
  /-- The address is of neither kind that is known. -/
  | scheme
  deriving DecidableEq, Repr

/-- What is said about settings that are refused. -/
def SettingsFault.message : SettingsFault → String
  | .notObject word => s!"'{word}' object has no attribute 'get'"
  | .group name => s!"{name} must be an object"
  | .kind path expected => s!"{path} must be {expected.phrase}"
  | .tooLarge => "int too large to convert to float"
  | .level =>
    let names := Level.all.map fun level => Text.quoted level.name
    "log.level must be one of [" ++ String.intercalate ", " names ++ "]"
  | .blank path => s!"{path} must not be empty"
  | .notPositive path => s!"{path} must be positive"
  | .scheme => "elasticsearch.url must start with http:// or https://"

/-- What is kept of a value, if it is of a kind. A whole number counts as a number, if it is not too
large for one. -/
def OptionKind.take : (kind : OptionKind) → Value → Option (Except SettingsFault kind.Held)
  | .text, .text s => some (.ok s)
  | .truth, .bool b => some (.ok b)
  | .integer, .int n => some (.ok n)
  | .number, .float x => some (.ok x)
  | .number, .int n =>
    match Decimal.floatOfInt? n with
    | some x => some (.ok x)
    | none => some (.error .tooLarge)
  | _, _ => none

/-- A group of options. -/
structure OptionGroup where
  /-- Name. -/
  name : String
  /-- Options that are given. -/
  options : List (Scalar × Value)

namespace OptionGroup

/-- A group of settings; one that is missing or null is empty. -/
def ofSettings (name : String) (settings : Value) : Except SettingsFault OptionGroup :=
  match settings with
  | .object entries =>
    match Entries.get? (.text name) entries with
    | none => .ok ⟨name, []⟩
    | some .null => .ok ⟨name, []⟩
    | some (.object options) => .ok ⟨name, options⟩
    | some _ => .error (.group name)
  | _ => .error (.notObject settings.kindName)

/-- The full name of an option. -/
def path (group : OptionGroup) (key : String) : String :=
  group.name ++ "." ++ key

/-- The value of an option, if it is given. -/
def get? (group : OptionGroup) (key : String) : Option Value :=
  Entries.get? (.text key) group.options

/-- Read an option of a kind, which has a default. -/
def read (group : OptionGroup) (kind : OptionKind) (key : String) (otherwise : kind.Held) :
    Except SettingsFault kind.Held :=
  match kind.take ((group.get? key).getD (kind.value otherwise)) with
  | some outcome => outcome
  | none => .error (.kind (group.path key) kind)

end OptionGroup

namespace Settings

/-- A text without the blank characters at its ends. -/
def trimmed (s : String) : String :=
  String.ofList (Text.trim s.toList)

/-- The options of the journal as they are given; the level is a name. -/
def journalOptions (settings : Value) : Except SettingsFault (String × Bool × String) := do
  let group ← OptionGroup.ofSettings "log" settings
  let level ← group.read .text "level" "INFO"
  let toFile ← group.read .truth "to_file" false
  let directory ← group.read .text "dir" "log"
  return (trimmed level, toFile, directory)

/-- The options of searches as they are given. -/
def searchOptions (settings : Value) : Except SettingsFault Policy := do
  let group ← OptionGroup.ofSettings "search" settings
  let index ← group.read .text "index" "olog_logs"
  let defaultSize ← group.read .integer "default_size" (100 : Int)
  let maxSize ← group.read .integer "max_size" (1000 : Int)
  return ⟨trimmed index, defaultSize, maxSize⟩

/-- The address in a variable of the environment; a variable with a blank name holds none. -/
def addressIn (environment : Environment) (name : String) : String :=
  if Text.isAllBlank name.toList then ""
  else trimmed ((Entries.get? name environment).getD "")

/-- The options of the search engine; an address in the environment goes before the one given. -/
def engineOptions (environment : Environment) (settings : Value) :
    Except SettingsFault EngineSettings := do
  let group ← OptionGroup.ofSettings "elasticsearch" settings
  let urlVariable ← group.read .text "url_env" "LOGBOOK_ES_URL"
  let url ← group.read .text "url" "http://localhost:9200"
  let timeout ← group.read .number "timeout" (30.0 : Float)
  let address := addressIn environment urlVariable
  return ⟨if address.isEmpty then url else address, urlVariable, timeout⟩

/-- Refuse an option that is blank. -/
def checkFilled (path value : String) : Except SettingsFault Unit :=
  if Text.isAllBlank value.toList then .error (.blank path) else .ok ()

/-- The address of a server. -/
def isAddress (url : String) : Bool :=
  "http://".toList.isPrefixOf url.toList || "https://".toList.isPrefixOf url.toList

/-- Check the options of the journal. -/
def checkJournal (level : String) (toFile : Bool) (directory : String) :
    Except SettingsFault JournalSettings :=
  match Level.ofName? level with
  | none => .error .level
  | some level => do
    checkFilled "log.dir" directory
    return { level, toFile, directory }

/-- Check the options of searches. -/
def checkSearch (policy : Policy) : Except SettingsFault Unit := do
  checkFilled "search.index" policy.index
  if policy.defaultSize ≤ 0 then throw (.notPositive "search.default_size")
  if policy.maxSize ≤ 0 then throw (.notPositive "search.max_size")

/-- Check the options of the search engine. -/
def checkEngine (engine : EngineSettings) : Except SettingsFault Unit := do
  checkFilled "elasticsearch.url" engine.url
  if !isAddress engine.url then throw .scheme
  if engine.timeout ≤ 0.0 then throw (.notPositive "elasticsearch.timeout")

/-- Read settings: first all options are read, then they are checked. -/
def ofValue (environment : Environment) (settings : Value) : Except SettingsFault Settings := do
  let (level, toFile, directory) ← journalOptions settings
  let search ← searchOptions settings
  let engine ← engineOptions environment settings
  let journal ← checkJournal level toFile directory
  checkSearch search
  checkEngine engine
  return { journal, search, engine }

end Settings

end EntrySearch
