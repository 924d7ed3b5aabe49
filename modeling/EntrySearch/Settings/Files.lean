import EntrySearch.Settings.Basic
import EntrySearch.Text.FilePath
import EntrySearch.Value.Overlay
import EntrySearch.Yaml.Document

/-!
# Settings files

Settings are kept in YAML files. The settings of one file are laid over those of the file with the
defaults, which may be missing. Nothing here depends on how YAML is read.
-/

namespace EntrySearch

/-- Why settings are not loaded. -/
inductive LoadFault where
  /-- There is no such file. -/
  | noFile
  /-- The file is a directory. -/
  | directory
  /-- The file is said to lie in another file. -/
  | insideFile
  /-- The file is no YAML. -/
  | yaml (fault : Yaml.Fault)
  /-- The file holds something else than options. -/
  | notMapping
  /-- Laying the options of one file over those of another comes to no end. -/
  | endless
  /-- The settings are refused. -/
  | settings (fault : SettingsFault)
  deriving DecidableEq, Repr

/-- What is said about settings that are not loaded. -/
def LoadFault.message? : LoadFault → Option String
  | .noFile | .directory | .insideFile => none
  | .yaml fault => fault.message?
  | .notMapping => some "Config root must be a mapping/object"
  | .endless => some "maximum recursion depth exceeded in comparison"
  | .settings fault => some fault.message

/-- Files by path, with their texts. -/
abbrev Files :=
  List (FilePath × String)

namespace Files

/-- A directory: the present one, those above it, and those that lead to a file. -/
def isDirectory (files : Files) (path : FilePath) : Bool :=
  path.all (fun name => name = ".." || name = "") ||
    files.any fun file => path.isPrefixOf file.1 && path ≠ file.1

/-- The text of a file, with every line break as a line feed. -/
def read (files : Files) (path : FilePath) : Except LoadFault String :=
  match Entries.get? path files with
  | some text => .ok text
  | none =>
    if files.isDirectory path then .error .directory
    else if files.any fun file => file.1.isPrefixOf path then .error .insideFile
    else .error .noFile

end Files

namespace Settings

/-- Every line break as a line feed. -/
def lineFeeds : List Char → List Char
  | '\r' :: '\n' :: rest => '\n' :: lineFeeds rest
  | '\r' :: rest => '\n' :: lineFeeds rest
  | c :: rest => c :: lineFeeds rest
  | [] => []

variable (reader : Yaml.Reader)

/-- Read the options in a YAML text; a void text holds none. -/
def optionsOf (text : String) : Except LoadFault Yaml.Document := do
  let document ← (reader.read text).mapError .yaml
  if document.value.isVoid then return .ofPart (.object [])
  match document.part document.root with
  | .object _ => return document
  | _ => throw .notMapping

/-- Read the options in a file. -/
def fileOptions (files : Files) (path : FilePath) : Except LoadFault Yaml.Document := do
  let text ← files.read path
  optionsOf reader (String.ofList (lineFeeds text.toList))

/-- Load the settings of one file. -/
def load (files : Files) (environment : Environment) (path : FilePath) :
    Except LoadFault Settings := do
  let options ← fileOptions reader files path
  (ofValue environment options.value).mapError .settings

/-- Load the settings of a file laid over those of the file with the defaults. -/
def loadOver (files : Files) (environment : Environment) (defaults path : FilePath) :
    Except LoadFault Settings := do
  let base ←
    match Entries.get? defaults files with
    | some _ => fileOptions reader files defaults
    | none => pure (.ofPart (.object []))
  if path = defaults then (ofValue environment base.value).mapError .settings
  else
    let options ← fileOptions reader files path
    if base.overlaysEndlessly options then throw .endless
    (ofValue environment (base.value.overlay options.value)).mapError .settings

end Settings

end EntrySearch
