import EntrySearch.CommandLine.Run
import EntrySearch.Proofs.Outcome

/-!
# Command lines that are accepted

A command line is accepted when its options are understood, no help is asked for and its settings
load. Then the inquiry is carried out; otherwise nothing is done at all. The options of an inquiry
may be given one by one, each followed by its value, in any number and with any values.
-/

namespace EntrySearch.CommandLine

/-- The settings file that the options before the command name. -/
def Parsed.settingsFile (general : Parsed) : String :=
  (general.last? "--config").getD defaultSettings

/-- A path that is given for a settings file, though it is the path of a directory. -/
def World.MistakesForFile (world : World) (path : String) : Prop :=
  path ≠ "" ∧ world.files.isDirectory (.ofText path) = true

instance (world : World) (path : String) : Decidable (world.MistakesForFile path) :=
  inferInstanceAs (Decidable (path ≠ "" ∧ _))

/-- Load the settings of a file over the defaults. -/
def World.settings (world : World) (path : String) : Except LoadFault Settings :=
  Settings.loadOver world.reader world.files world.environment (.ofText defaultSettings)
    (.ofText path)

/-- A command line that asks for an inquiry with settings. -/
inductive Accepts (world : World) (arguments : List String) (settings : Settings)
    (inquiry : Inquiry) : Prop where
  /-- The arguments are options and a command with options, and the settings load. -/
  | intro {general : Parsed} {rest : List String}
      (understood : parse generalOptions false arguments = .ok general)
      (helpless : general.has "--help" = false)
      (named : general.words = inquiry.action.name :: rest)
      (openable : ¬world.MistakesForFile general.settingsFile)
      (loaded : world.settings general.settingsFile = .ok settings)
      (asked : readInquiry inquiry.action rest = .ok (some inquiry))

theorem Action.ofName?_name (action : Action) : ofName? action.name = some action := by
  cases action <;> rfl

theorem Action.name_of_ofName? {name : String} {action : Action}
    (known : ofName? name = some action) : action.name = name := by
  have found := List.find?_some known
  exact of_decide_eq_true found

theorem mistakesForFile_iff {world : World} {path : String} :
    (!path.isEmpty && world.files.isDirectory (.ofText path)) = true ↔
      world.MistakesForFile path := by
  simp [World.MistakesForFile]

/-- The program with a command in its words does what the command does. -/
theorem run_of_words (world : World) {arguments : List String} {general : Parsed} {name : String}
    {rest : List String} (understood : parse generalOptions false arguments = .ok general)
    (helpless : general.has "--help" = false) (named : general.words = name :: rest) :
    run world arguments =
      if world.MistakesForFile general.settingsFile then
        .ofEnding (.refused (.directory "--config" general.settingsFile))
      else runCommand world general.settingsFile name rest := by
  have filled : arguments.isEmpty = false := by
    cases arguments with
    | nil =>
        obtain rfl := Except.ok.inj understood
        exact nomatch named
    | cons first others => rfl
  simp only [← mistakesForFile_iff, Parsed.settingsFile]
  simp only [run, understood, helpless, filled, named, Bool.or_self, Bool.false_eq_true, if_false]

/-- An accepted inquiry is carried out. -/
theorem run_of_accepts {world : World} {arguments : List String} {settings : Settings}
    {inquiry : Inquiry} (accepts : Accepts world arguments settings inquiry) :
    run world arguments = perform world settings inquiry := by
  obtain ⟨understood, helpless, named, openable, loaded, asked⟩ := accepts
  rw [run_of_words world understood helpless named, if_neg openable, runCommand,
    Action.ofName?_name]
  simp only [World.settings] at loaded
  simp only [loaded, runAction, asked]

theorem action_of_readInquiry {action : Action} {arguments : List String} {inquiry : Inquiry}
    (asked : readInquiry action arguments = .ok (some inquiry)) : inquiry.action = action := by
  obtain ⟨parsed, _, ended⟩ := Outcome.bind_eq_ok_iff.mp asked
  dsimp only at ended
  split at ended
  · exact nomatch ended
  · split at ended
    · exact nomatch ended
    · obtain rfl := Option.some.inj (Except.ok.inj ended)
      rfl

theorem events_of_runCommand {world : World} {settingsFile name : String} {arguments : List String}
    (unaccepted : ∀ settings inquiry, world.settings settingsFile = .ok settings →
      inquiry.action.name = name →
        readInquiry inquiry.action arguments ≠ .ok (some inquiry)) :
    (runCommand world settingsFile name arguments).events = [] := by
  unfold runCommand
  split
  · rfl
  · rename_i action known
    split
    · rfl
    · rename_i settings loaded
      unfold runAction
      split
      · rfl
      · rfl
      · rename_i inquiry asked
        obtain rfl := action_of_readInquiry asked
        exact absurd asked
          (unaccepted settings inquiry loaded (Action.name_of_ofName? known))

theorem events_of_not_accepts {world : World} {arguments : List String}
    (unaccepted : ∀ settings inquiry, ¬Accepts world arguments settings inquiry) :
    (run world arguments).events = [] := by
  unfold run
  split
  · rfl
  · rename_i general understood
    dsimp only
    split
    · rfl
    · rename_i helpless
      split
      · rfl
      · rename_i openable
        split
        · rfl
        · rename_i name rest named
          refine events_of_runCommand fun settings inquiry loaded spelt asked => ?_
          refine unaccepted settings inquiry ⟨understood, ?_, ?_, ?_, loaded, asked⟩
          · exact (Bool.or_eq_false_iff.mp (Bool.eq_false_iff.mpr helpless)).2
          · rw [named, spelt]
          · exact mt mistakesForFile_iff.mpr openable

section Parsing

variable {known : List OptionSpec} {argument : String} {c : Char} {others : List Char}

/-- An option takes the next argument as its value, whatever it is. -/
theorem parse_open {mixed : Bool} {long name : String}
    (dashed : argument.toList = '-' :: c :: others) (other : argument ≠ "--")
    (opens : readOption known ('-' :: c :: others) = .open long name)
    (value : String) (rest : List String) :
    parse known mixed (argument :: value :: rest) =
      (parse known mixed rest).map (·.addOption long value) := by
  rw [parse, if_neg other, dashed]
  simp only [opens]

theorem parse_word {c : Char} {others : List Char} (spelt : argument.toList = c :: others)
    (plain : c ≠ '-') (rest : List String) :
    parse known false (argument :: rest) = .ok { words := argument :: rest } := by
  have other : argument ≠ "--" := by
    rintro rfl
    exact plain (List.cons.inj spelt).1.symm
  rw [parse, if_neg other, spelt]
  split
  · rename_i dashed
    exact absurd (List.cons.inj dashed).1 plain
  · rfl

/-- Values given for one option are all of the values of that option, and none of those of another
one. -/
theorem values_named (name other : String) (values : List String) :
    ((values.map fun value => (name, value)).filter fun entry => entry.1 = other).map Prod.snd =
      if name = other then values else [] := by
  split
  · rename_i same
    rw [List.filter_eq_self.mpr (by simp [same]), List.map_map]
    exact List.map_id values
  · rename_i different
    rw [List.filter_eq_nil_iff.mpr (by simp [different]), List.map_nil]

theorem parse_config (file : String) (rest : List String) :
    parse generalOptions false ("--config" :: file :: rest) =
      (parse generalOptions false rest).map (·.addOption "--config" file) :=
  parse_open rfl (by decide) rfl file rest

theorem parse_param (pair : String) (rest : List String) :
    parse commandOptions true ("-p" :: pair :: rest) =
      (parse commandOptions true rest).map (·.addOption "--param" pair) :=
  parse_open rfl (by decide) rfl pair rest

theorem parse_query (query : String) (rest : List String) :
    parse commandOptions true ("-q" :: query :: rest) =
      (parse commandOptions true rest).map (·.addOption "--query" query) :=
  parse_open rfl (by decide) rfl query rest

theorem parse_now (now : String) (rest : List String) :
    parse commandOptions true ("--now" :: now :: rest) =
      (parse commandOptions true rest).map (·.addOption "--now" now) :=
  parse_open rfl (by decide) rfl now rest

end Parsing

/-- The options of an inquiry, given one by one. -/
structure Invocation where
  /-- The settings file, if one is given. -/
  config : Option String
  /-- Search parameters, as pairs joined by an equals sign. -/
  pairs : List String
  /-- Search parameters as a query string, if one is given. -/
  query : Option String
  /-- The time to be taken for the present. -/
  now : String

namespace Invocation

/-- The options before the command. -/
def before (invocation : Invocation) : List String :=
  match invocation.config with
  | none => []
  | some file => ["--config", file]

/-- The options behind the command. -/
def behind (invocation : Invocation) : List String :=
  invocation.pairs.flatMap (fun pair => ["-p", pair]) ++
    (match invocation.query with
      | none => []
      | some query => ["-q", query]) ++
    ["--now", invocation.now]

/-- The arguments of the program, for a command. -/
def arguments (invocation : Invocation) (action : Action) : List String :=
  invocation.before ++ action.name :: invocation.behind

/-- The settings file. -/
def settingsFile (invocation : Invocation) : String :=
  invocation.config.getD defaultSettings

/-- The inquiry that is made, for a command. -/
def inquiry (invocation : Invocation) (action : Action) : Inquiry where
  action := action
  parameters := QueryString.collect invocation.pairs invocation.query
  now := some invocation.now

/-- The options before the command as they are understood, with the command. -/
def general (invocation : Invocation) (action : Action) : Parsed where
  options := invocation.config.toList.map fun file => ("--config", file)
  words := action.name :: invocation.behind

theorem parse_before (invocation : Invocation) (action : Action) :
    parse generalOptions false (invocation.arguments action) =
      .ok (invocation.general action) := by
  have words : parse generalOptions false (action.name :: invocation.behind) =
      .ok { words := action.name :: invocation.behind } := by
    cases action with
    | compile => exact parse_word rfl (by decide) _
    | search => exact parse_word rfl (by decide) _
  unfold arguments before general
  cases invocation.config with
  | none => exact words
  | some file =>
      rw [List.cons_append, List.cons_append, List.nil_append, parse_config, words]
      rfl

/-- The options behind the command as they are understood. -/
def parsed (invocation : Invocation) : Parsed where
  options :=
    invocation.pairs.map (fun pair => ("--param", pair)) ++
      (invocation.query.toList.map (fun query => ("--query", query)) ++
        [("--now", invocation.now)])
  words := []

theorem parse_behind (invocation : Invocation) :
    parse commandOptions true invocation.behind = .ok invocation.parsed := by
  have timed : parse commandOptions true ["--now", invocation.now] =
      .ok ⟨[("--now", invocation.now)], []⟩ := parse_now invocation.now []
  unfold behind parsed
  rw [List.append_assoc]
  induction invocation.pairs with
  | nil =>
      cases invocation.query with
      | none => exact timed
      | some query =>
          simp only [List.flatMap_nil, List.nil_append, List.cons_append]
          rw [parse_query, timed]
          rfl
  | cons pair rest ih =>
      rw [List.flatMap_cons, List.append_assoc, List.cons_append, List.cons_append,
        List.nil_append, parse_param, ih]
      rfl

theorem values_parsed (invocation : Invocation) :
    invocation.parsed.values "--param" = invocation.pairs ∧
      invocation.parsed.values "--query" = invocation.query.toList ∧
      invocation.parsed.values "--now" = [invocation.now] ∧
      invocation.parsed.values "--help" = [] := by
  simp only [Parsed.values, parsed, List.filter_append, List.map_append, values_named]
  simp

theorem readInquiry_behind (invocation : Invocation) (action : Action) :
    readInquiry action invocation.behind = .ok (some (invocation.inquiry action)) := by
  obtain ⟨params, queries, nows, helps⟩ := invocation.values_parsed
  have helpless : ¬invocation.parsed.has "--help" = true := by simp [Parsed.has, helps]
  have query : invocation.parsed.last? "--query" = invocation.query := by
    rw [Parsed.last?, queries]
    cases invocation.query <;> rfl
  have now : invocation.parsed.last? "--now" = some invocation.now := by
    rw [Parsed.last?, nows]
    rfl
  unfold readInquiry
  rw [invocation.parse_behind]
  show (if invocation.parsed.has "--help" = true then Except.ok none
    else Except.ok (some (Inquiry.mk action
      (QueryString.collect (invocation.parsed.values "--param")
        (invocation.parsed.last? "--query"))
      (invocation.parsed.last? "--now")))) = _
  rw [if_neg helpless, params, query, now]
  rfl

/-- The program loads the settings and carries out the inquiry. -/
theorem run_arguments (invocation : Invocation) (action : Action) (world : World) :
    run world (invocation.arguments action) =
      if world.MistakesForFile invocation.settingsFile then
        .ofEnding (.refused (.directory "--config" invocation.settingsFile))
      else
        match world.settings invocation.settingsFile with
        | .error fault => .ofEnding (.notLoaded fault)
        | .ok settings => perform world settings (invocation.inquiry action) := by
  have helpless : (invocation.general action).has "--help" = false := by
    unfold general
    cases invocation.config <;> rfl
  have file : (invocation.general action).settingsFile = invocation.settingsFile := by
    unfold general settingsFile
    cases invocation.config <;> rfl
  rw [run_of_words world (invocation.parse_before action) helpless rfl, file, runCommand,
    Action.ofName?_name]
  simp only [runAction, readInquiry_behind]
  rfl

end Invocation

end EntrySearch.CommandLine
