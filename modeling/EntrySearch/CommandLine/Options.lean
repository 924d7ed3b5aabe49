import EntrySearch.CommandLine.Suggestion
import EntrySearch.Text.Pieces
import EntrySearch.Text.Quoted

/-!
# Options

Arguments of a command are options and other words. A long option takes its value after an equals
sign or from the next argument, a short one from the same argument or the next. Two dashes end the
options.
-/

namespace EntrySearch.CommandLine

/-- An option that a command knows. -/
structure OptionSpec where
  /-- Name of the option, after which its values are kept. -/
  long : String
  /-- Letter of the option, if it has one. -/
  short : Option Char
  /-- Whether a value follows. -/
  takesValue : Bool
  deriving DecidableEq, Repr

/-- Why arguments are refused. -/
inductive UsageFault where
  /-- There is no such option; some known ones are close to it. -/
  | noOption (name : String) (close : List String)
  /-- An option comes without its value. -/
  | noValue (name : String)
  /-- An option comes with a value but takes none. -/
  | needlessValue (name : String)
  /-- The value of an option is the path of a directory. -/
  | directory (name path : String)
  /-- There are words that mean nothing. -/
  | extraWords (words : List String)
  /-- There is no command. -/
  | noCommand
  /-- There is no such command. -/
  | unknownCommand (name : String)
  deriving DecidableEq, Repr

/-- What is said about close options. -/
def closeMessage : List String → String
  | [] => ""
  | [name] => s!" Did you mean {name}?"
  | names => " (Possible options: " ++ String.intercalate ", " names ++ ")"

/-- What is said about arguments that are refused. -/
def UsageFault.message : UsageFault → String
  | .noOption name close => s!"No such option: {name}" ++ closeMessage close
  | .noValue name => s!"Option {Text.quoted name} requires an argument."
  | .needlessValue name => s!"Option {Text.quoted name} does not take a value."
  | .directory name path =>
    s!"Invalid value for {Text.quoted name}: File {Text.quoted path} is a directory."
  | .extraWords [word] => s!"Got unexpected extra argument ({word})"
  | .extraWords words =>
    "Got unexpected extra arguments (" ++ String.intercalate " " words ++ ")"
  | .noCommand => "Missing command."
  | .unknownCommand name => s!"No such command {Text.quoted name}."

/-- Options with their values in order, and the other words. -/
structure Parsed where
  /-- Long names of options with their values; an option without value has an empty one. -/
  options : List (String × String) := []
  /-- The other words. -/
  words : List String := []
  deriving DecidableEq, Repr

namespace Parsed

/-- Add an option in front. -/
def addOption (parsed : Parsed) (name value : String) : Parsed :=
  { parsed with options := (name, value) :: parsed.options }

/-- Add a word in front. -/
def addWord (parsed : Parsed) (word : String) : Parsed :=
  { parsed with words := word :: parsed.words }

/-- The values of an option. -/
def values (parsed : Parsed) (name : String) : List String :=
  (parsed.options.filter fun entry => entry.1 = name).map Prod.snd

/-- The last value of an option. -/
def last? (parsed : Parsed) (name : String) : Option String :=
  (parsed.values name).getLast?

/-- Whether an option is given. -/
def has (parsed : Parsed) (name : String) : Bool :=
  !(parsed.values name).isEmpty

end Parsed

/-- What an argument that looks like an option turns out to be. -/
inductive Reading where
  /-- An option with its value. -/
  | complete (long value : String)
  /-- An option whose value is the next argument; it is spelt `name`. -/
  | open (long name : String)
  /-- No option. -/
  | refused (fault : UsageFault)
  deriving DecidableEq, Repr

/-- Read an argument as a long option with an optional value behind an equals sign. -/
def readLong (known : List OptionSpec) (argument : List Char) : Reading :=
  let (front, value) := Text.cutAt '=' argument
  let name := String.ofList front
  match known.find? fun spec => spec.long = name with
  | none =>
    .refused (.noOption name (Suggestion.suggestions (known.map OptionSpec.long) name))
  | some spec =>
    match spec.takesValue, value with
    | true, some value => .complete name (String.ofList value)
    | true, none => .open name name
    | false, some _ => .refused (.needlessValue name)
    | false, none => .complete name ""

/-- Read an argument as a short option with an optional value behind its letter. -/
def readShort (known : List OptionSpec) (letter : Char) (value : List Char) : Reading :=
  let name := String.ofList ['-', letter]
  match known.find? fun spec => spec.short = some letter with
  | none => .refused (.noOption name [])
  | some spec =>
    if value.isEmpty then .open spec.long name else .complete spec.long (String.ofList value)

/-- Read an argument that starts with a dash and has more characters: as a long option if there is
one with that name, otherwise after a single dash as a short one. -/
def readOption (known : List OptionSpec) (argument : List Char) : Reading :=
  match readLong known argument with
  | .refused (.noOption name close) =>
    match argument with
    | '-' :: letter :: value =>
      if letter = '-' then .refused (.noOption name close) else readShort known letter value
    | _ => .refused (.noOption name close)
  | reading => reading

/-- Read arguments. Options may stand behind other words if they are `mixed`; otherwise the first
other word ends them. -/
def parse (known : List OptionSpec) (mixed : Bool) : List String → Except UsageFault Parsed
  | [] => .ok {}
  | argument :: rest =>
    if argument = "--" then .ok { words := rest }
    else
      match argument.toList with
      | '-' :: c :: others =>
        match readOption known ('-' :: c :: others) with
        | .refused fault => .error fault
        | .complete name value => (parse known mixed rest).map (·.addOption name value)
        | .open name spelling =>
          match rest with
          | [] => .error (.noValue spelling)
          | value :: rest => (parse known mixed rest).map (·.addOption name value)
      | _ =>
        if mixed then (parse known mixed rest).map (·.addWord argument)
        else .ok { words := argument :: rest }

end EntrySearch.CommandLine
