import EntrySearch.Proofs.Outcome
import EntrySearch.Proofs.Yaml.Keys
import EntrySearch.Settings.Files
import EntrySearch.Yaml.Reader

/-!
# Settings in layers

Every option of loaded settings has a source: the environment for the address of the server, then
the settings of the file, then those of the file with the defaults, then the program. A group that
the file names but leaves empty hides all that the file with the defaults says about it.
-/

namespace EntrySearch

open Outcome

namespace Value

/-- The value of an option in settings, if it is given. -/
def option? (settings : Value) (group key : String) : Option Value :=
  (settings.field? group).bind (field? key)

/-- The number that a value stands for. -/
def number? : Value → Option Float
  | .float x => some x
  | .int n => Decimal.floatOfInt? n
  | _ => none

/-- The value of an option in settings over those with the defaults, where each option is laid over
by itself. -/
def layered? (base upper : Value) (group key : String) : Option Value :=
  (upper.option? group key).or (base.option? group key)

/-- The value of an option in settings over those with the defaults, where a group that is no object
hides the one below it. -/
def hiding? (base upper : Value) (group key : String) : Option Value :=
  match upper.field? group with
  | none => base.option? group key
  | some (.object _) => base.layered? upper group key
  | some _ => none

theorem layered?_self (settings : Value) (group key : String) :
    settings.layered? settings group key = settings.option? group key :=
  Option.or_self

theorem hiding?_self (settings : Value) (group key : String) :
    settings.hiding? settings group key = settings.option? group key := by
  unfold hiding?
  split
  · rfl
  · exact layered?_self settings group key
  · rename_i given apart found
    unfold option?
    rw [found]
    cases given with
    | object entries => exact absurd rfl (apart entries)
    | list items => rfl
    | scalar s => rfl

/-- Settings name a group and leave it empty. -/
def Empties (settings : Value) (group : String) : Prop :=
  settings.field? group = some .null

end Value

/-- The names of the groups of options. -/
def Settings.groups : List String :=
  ["log", "search", "elasticsearch"]

namespace Value

/-- An option in settings laid over others has the value from the layers, unless it is no option
but an object of its own. -/
theorem option?_overlay {base upper : List (Scalar × Value)} (keyed : IsKeyed (.object upper))
    (group key : String) :
    let merged := ((Value.object base).overlay (.object upper)).option? group key
    merged = (Value.object base).hiding? (.object upper) group key ∨
      ∃ entries, merged = some (.object entries) := by
  intro merged
  have merged_eq : merged = (overlay? ((Value.object base).field? group)
      ((Value.object upper).field? group)).bind (field? key) := by
    rw [← field?_overlay keyed.distinct]
    rfl
  unfold hiding? layered? option?
  cases above : (Value.object upper).field? group with
  | none => exact .inl (by rw [merged_eq, above]; rfl)
  | some given =>
      rw [above] at merged_eq
      rcases overlay?_cases ((Value.object base).field? group) given with
        ⟨hidden, plain⟩ | ⟨lower, options, below, rfl, laid⟩
      · rw [hidden] at merged_eq
        cases given with
        | scalar s => exact .inl merged_eq
        | list items => exact .inl merged_eq
        | object options =>
            have nothing : ((Value.object base).field? group).bind (field? key) = none := by
              have unkeyed := plain.resolve_left (Option.some_ne_none options)
              cases below : (Value.object base).field? group with
              | none => rfl
              | some lower =>
                  rw [below] at unkeyed
                  cases lower with
                  | object entries => exact nomatch unkeyed
                  | scalar s => rfl
                  | list items => rfl
            rw [nothing, Option.or_none]
            exact .inl merged_eq
      · have options_distinct : Entries.Distinct options :=
          (keyed.of_mem (Entries.mem_snd_of_get? above)).distinct
        rw [laid] at merged_eq
        replace merged_eq : merged = overlay? (Entries.get? (.text key) lower)
            (Entries.get? (.text key) options) :=
          merged_eq.trans (get?_overlayEntries key lower options_distinct)
        rw [below]
        show merged = (Entries.get? (.text key) options).or (Entries.get? (.text key) lower) ∨ _
        cases given : Entries.get? (.text key) options with
        | none => exact .inl (by rw [merged_eq, given]; rfl)
        | some value =>
            rw [given] at merged_eq
            rcases overlay?_cases (Entries.get? (.text key) lower) value with
              ⟨hidden, -⟩ | ⟨_, _, -, -, both⟩
            · exact .inl (merged_eq.trans hidden)
            · exact .inr ⟨_, merged_eq.trans both⟩

end Value

/-- Every setting is what an option says, given by `option?`, or else what is built in. The address
comes from the environment if the variable named in the settings holds one. -/
structure Settings.Follows (environment : Environment) (option? : String → String → Option Value)
    (settings : Settings) : Prop where
  /-- The level is named in any case and among blank characters. -/
  level : ∃ name, (option? "log" "level").getD (.text "INFO") = .text name ∧
    Level.ofName? (trimmed name) = some settings.journal.level
  /-- Whether there is a file for the journal. -/
  toFile : (option? "log" "to_file").getD (.bool false) = .bool settings.journal.toFile
  /-- The directory of this file. -/
  directory : (option? "log" "dir").getD (.text "log") = .text settings.journal.directory
  /-- The index stands among blank characters. -/
  index : ∃ name, (option? "search" "index").getD (.text "olog_logs") = .text name ∧
    settings.search.index = trimmed name
  /-- The number of entries without a limit. -/
  defaultSize : (option? "search" "default_size").getD (.int 100) = .int settings.search.defaultSize
  /-- The greatest number of entries. -/
  maxSize : (option? "search" "max_size").getD (.int 1000) = .int settings.search.maxSize
  /-- The variable that may hold the address. -/
  urlVariable : (option? "elasticsearch" "url_env").getD (.text "LOGBOOK_ES_URL") =
    .text settings.engine.urlVariable
  /-- The address. -/
  url : ∃ given,
    (option? "elasticsearch" "url").getD (.text "http://localhost:9200") = .text given ∧
      settings.engine.url =
        if (addressIn environment settings.engine.urlVariable).isEmpty then given
        else addressIn environment settings.engine.urlVariable
  /-- The time to wait is any number. -/
  timeout : ((option? "elasticsearch" "timeout").getD (.float 30.0)).number? =
    some settings.engine.timeout

namespace OptionKind

theorem take_value (kind : OptionKind) (held : kind.Held) :
    kind.take (kind.value held) = some (.ok held) := by
  cases kind <;> rfl

theorem eq_value_of_take {kind : OptionKind} (plain : kind ≠ .number) {value : Value}
    {held : kind.Held} (taken : kind.take value = some (.ok held)) : value = kind.value held := by
  unfold take at taken
  split at taken
  · exact congrArg (OptionKind.value .text) (Except.ok.inj (Option.some.inj taken))
  · exact congrArg (OptionKind.value .truth) (Except.ok.inj (Option.some.inj taken))
  · exact congrArg (OptionKind.value .integer) (Except.ok.inj (Option.some.inj taken))
  · exact absurd rfl plain
  · exact absurd rfl plain
  · exact nomatch taken

theorem number?_of_take {value : Value} {x : Float}
    (taken : OptionKind.number.take value = some (.ok x)) : value.number? = some x := by
  cases value with
  | scalar s =>
      cases s with
      | float y => exact congrArg some (Except.ok.inj (Option.some.inj taken))
      | int n =>
          show Decimal.floatOfInt? n = some x
          cases whole : Decimal.floatOfInt? n with
          | some y =>
              simp only [take, whole, Option.some.injEq, Except.ok.injEq] at taken
              rw [taken]
          | none => simp [take, whole] at taken
      | _ => exact nomatch taken
  | list items => exact nomatch taken
  | object entries => exact nomatch taken

end OptionKind

namespace OptionGroup

/-- A group is read from an object, or from nothing. -/
theorem ofSettings_eq_ok {name : String} {settings : Value} {group : OptionGroup}
    (read : ofSettings name settings = .ok group) :
    (settings.field? name = none ∨ settings.field? name = some .null ∨
      ∃ entries, settings.field? name = some (.object entries)) ∧
        ∀ key, group.get? key = settings.option? name key := by
  unfold ofSettings at read
  split at read
  · rename_i entries
    have field_eq : Value.field? name (.object entries) = Entries.get? (.text name) entries := rfl
    unfold Value.option?
    rw [field_eq]
    split at read
    · rename_i missing
      obtain rfl := Except.ok.inj read
      rw [missing]
      exact ⟨.inl rfl, fun key => rfl⟩
    · rename_i null
      obtain rfl := Except.ok.inj read
      rw [null]
      exact ⟨.inr (.inl rfl), fun key => rfl⟩
    · rename_i options found
      obtain rfl := Except.ok.inj read
      rw [found]
      exact ⟨.inr (.inr ⟨options, rfl⟩), fun key => rfl⟩
    · exact nomatch read
  · exact nomatch read

variable {group : OptionGroup} {kind : OptionKind} {key : String} {otherwise held : kind.Held}

theorem take_of_read (read : group.read kind key otherwise = .ok held) :
    kind.take ((group.get? key).getD (kind.value otherwise)) = some (.ok held) := by
  unfold OptionGroup.read at read
  split at read
  · rename_i outcome taken
    rw [taken, read]
  · exact nomatch read

/-- Apart from numbers an option is kept as it is. -/
theorem eq_value_of_read (read : group.read kind key otherwise = .ok held)
    (plain : kind ≠ .number) :
    (group.get? key).getD (kind.value otherwise) = kind.value held :=
  OptionKind.eq_value_of_take plain (take_of_read read)

end OptionGroup

namespace Settings

theorem journalOptions_eq_ok {value : Value} {level directory : String} {toFile : Bool}
    (read : journalOptions value = .ok (level, toFile, directory)) :
    (∃ name, (value.option? "log" "level").getD (.text "INFO") = .text name ∧
        level = trimmed name) ∧
      (value.option? "log" "to_file").getD (.bool false) = .bool toFile ∧
      (value.option? "log" "dir").getD (.text "log") = .text directory := by
  simp only [journalOptions, bind_eq_ok_iff] at read
  obtain ⟨group, grouped, name, named, file, filed, place, placed, done⟩ := read
  obtain ⟨-, option_eq⟩ := OptionGroup.ofSettings_eq_ok grouped
  obtain ⟨rfl, rfl, rfl⟩ : trimmed name = level ∧ file = toFile ∧ place = directory := by
    simpa [pure, Except.pure] using done
  rw [← option_eq, ← option_eq, ← option_eq]
  exact ⟨⟨name, OptionGroup.eq_value_of_read named OptionKind.noConfusion, rfl⟩,
    OptionGroup.eq_value_of_read filed OptionKind.noConfusion,
    OptionGroup.eq_value_of_read placed OptionKind.noConfusion⟩

theorem searchOptions_eq_ok {value : Value} {policy : Policy}
    (read : searchOptions value = .ok policy) :
    (∃ name, (value.option? "search" "index").getD (.text "olog_logs") = .text name ∧
        policy.index = trimmed name) ∧
      (value.option? "search" "default_size").getD (.int 100) = .int policy.defaultSize ∧
      (value.option? "search" "max_size").getD (.int 1000) = .int policy.maxSize := by
  simp only [searchOptions, bind_eq_ok_iff] at read
  obtain ⟨group, grouped, name, named, usual, sized, greatest, bounded, done⟩ := read
  obtain ⟨-, option_eq⟩ := OptionGroup.ofSettings_eq_ok grouped
  obtain rfl := Except.ok.inj done
  rw [← option_eq, ← option_eq, ← option_eq]
  exact ⟨⟨name, OptionGroup.eq_value_of_read named OptionKind.noConfusion, rfl⟩,
    OptionGroup.eq_value_of_read sized OptionKind.noConfusion,
    OptionGroup.eq_value_of_read bounded OptionKind.noConfusion⟩

theorem engineOptions_eq_ok {environment : Environment} {value : Value} {engine : EngineSettings}
    (read : engineOptions environment value = .ok engine) :
    (value.option? "elasticsearch" "url_env").getD (.text "LOGBOOK_ES_URL") =
        .text engine.urlVariable ∧
      (∃ given, (value.option? "elasticsearch" "url").getD (.text "http://localhost:9200") =
          .text given ∧
        engine.url =
          if (addressIn environment engine.urlVariable).isEmpty then given
          else addressIn environment engine.urlVariable) ∧
      ((value.option? "elasticsearch" "timeout").getD (.float 30.0)).number? =
        some engine.timeout := by
  simp only [engineOptions, bind_eq_ok_iff] at read
  obtain ⟨group, grouped, variableName, named, url, given, seconds, timed, done⟩ := read
  obtain ⟨-, option_eq⟩ := OptionGroup.ofSettings_eq_ok grouped
  obtain rfl := Except.ok.inj done
  rw [← option_eq, ← option_eq, ← option_eq]
  exact ⟨OptionGroup.eq_value_of_read named OptionKind.noConfusion,
    ⟨url, OptionGroup.eq_value_of_read given OptionKind.noConfusion, rfl⟩,
    OptionKind.number?_of_take (OptionGroup.take_of_read timed)⟩

theorem checkJournal_eq_ok {level directory : String} {toFile : Bool} {journal : JournalSettings}
    (checked : checkJournal level toFile directory = .ok journal) :
    Level.ofName? level = some journal.level ∧ journal.toFile = toFile ∧
      journal.directory = directory := by
  unfold checkJournal at checked
  split at checked
  · exact nomatch checked
  · rename_i known found
    obtain ⟨_, -, done⟩ := bind_eq_ok_iff.mp checked
    obtain rfl := Except.ok.inj done
    exact ⟨found, rfl, rfl⟩

/-- Settings that are read follow the options given. -/
theorem follows_of_ofValue {environment : Environment} {value : Value} {settings : Settings}
    (read : ofValue environment value = .ok settings) :
    settings.Follows environment value.option? := by
  simp only [ofValue, bind_eq_ok_iff] at read
  obtain ⟨⟨level, toFile, directory⟩, journaled, policy, searched, engine, connected, journal,
    checked, _, -, _, -, done⟩ := read
  obtain rfl := Except.ok.inj done
  obtain ⟨⟨name, named, rfl⟩, filed, placed⟩ := journalOptions_eq_ok journaled
  obtain ⟨index, usual, greatest⟩ := searchOptions_eq_ok searched
  obtain ⟨variableName, url, timeout⟩ := engineOptions_eq_ok connected
  obtain ⟨known, rfl, rfl⟩ := checkJournal_eq_ok checked
  exact ⟨⟨name, named, known⟩, filed, placed, index, usual, greatest, variableName, url, timeout⟩

theorem group_of_ofValue {environment : Environment} {value : Value} {settings : Settings}
    (read : ofValue environment value = .ok settings) :
    ∀ name ∈ groups, value.field? name = none ∨ value.field? name = some .null ∨
      ∃ entries, value.field? name = some (.object entries) := by
  simp only [ofValue, bind_eq_ok_iff] at read
  obtain ⟨_, journaled, _, searched, _, connected, -⟩ := read
  simp only [journalOptions, searchOptions, engineOptions, bind_eq_ok_iff]
    at journaled searched connected
  obtain ⟨_, log, -⟩ := journaled
  obtain ⟨_, search, -⟩ := searched
  obtain ⟨_, engine, -⟩ := connected
  simp only [groups, List.forall_mem_cons]
  exact ⟨(OptionGroup.ofSettings_eq_ok log).1, (OptionGroup.ofSettings_eq_ok search).1,
    (OptionGroup.ofSettings_eq_ok engine).1, fun _ member => absurd member List.not_mem_nil⟩

/-- Options of all groups agree where the first ones are no objects. -/
def AgreeOn (option? other? : String → String → Option Value) : Prop :=
  ∀ group ∈ groups, ∀ key, option? group key = other? group key ∨
    ∃ entries, option? group key = some (.object entries)

theorem AgreeOn.getD_eq {option? other? : String → String → Option Value}
    (agree : AgreeOn option? other?) {group key : String} {otherwise value : Value}
    (known : group ∈ groups) (given : (option? group key).getD otherwise = value)
    (plain : value.entries? = none) : (other? group key).getD otherwise = value := by
  rcases agree group known key with same | ⟨entries, found⟩
  · rw [← same, given]
  · rw [found, Option.getD_some] at given
    rw [← given] at plain
    exact nomatch plain

/-- No setting is an object, so that only options that are none count. -/
theorem Follows.of_agreeOn {environment : Environment}
    {option? other? : String → String → Option Value} {settings : Settings}
    (follows : settings.Follows environment option?) (agree : AgreeOn option? other?) :
    settings.Follows environment other? := by
  have log : "log" ∈ groups := List.mem_cons_self
  have search : "search" ∈ groups := List.mem_cons_of_mem _ List.mem_cons_self
  have engine : "elasticsearch" ∈ groups := List.mem_of_getLast? rfl
  obtain ⟨name, named, known⟩ := follows.level
  obtain ⟨index, indexed, trimmed_eq⟩ := follows.index
  obtain ⟨url, given, url_eq⟩ := follows.url
  constructor
  · exact ⟨name, agree.getD_eq log named rfl, known⟩
  · exact agree.getD_eq log follows.toFile rfl
  · exact agree.getD_eq log follows.directory rfl
  · exact ⟨index, agree.getD_eq search indexed rfl, trimmed_eq⟩
  · exact agree.getD_eq search follows.defaultSize rfl
  · exact agree.getD_eq search follows.maxSize rfl
  · exact agree.getD_eq engine follows.urlVariable rfl
  · exact ⟨url, agree.getD_eq engine given rfl, url_eq⟩
  · have timeout := follows.timeout
    rcases agree "elasticsearch" engine "timeout" with same | ⟨entries, found⟩
    · rw [← same, timeout]
    · rw [found] at timeout
      exact nomatch timeout

section

variable {reader : Yaml.Reader}

/-- The options that a text holds are an object in which no key stands twice. -/
theorem optionsOf_eq_ok {text : String} {options : Yaml.Document}
    (read : optionsOf reader text = .ok options) :
    options.IsKeyed ∧ ∃ entries, options.value = .object entries := by
  obtain ⟨document, parsed, kept⟩ := bind_eq_ok_iff.mp read
  split at kept
  · obtain rfl := Except.ok.inj kept
    refine ⟨Yaml.Document.isKeyed_ofPart ?_, [], rfl⟩
    rintro _ ⟨⟩
    exact List.Pairwise.nil
  · split at kept
    · rename_i entries outermost
      obtain rfl := Except.ok.inj kept
      exact ⟨reader.isKeyed (mapError_eq_ok_iff.mp parsed),
        Yaml.Document.value_eq_object outermost⟩
    · exact nomatch kept

theorem fileOptions_eq_ok {files : Files} {path : FilePath} {options : Yaml.Document}
    (read : fileOptions reader files path = .ok options) :
    options.IsKeyed ∧ ∃ entries, options.value = .object entries := by
  obtain ⟨text, -, parsed⟩ := bind_eq_ok_iff.mp read
  exact optionsOf_eq_ok parsed

variable (reader) in
/-- The options in the file with the defaults, which may be missing. -/
def defaultOptions (files : Files) (defaults : FilePath) : Except LoadFault Yaml.Document :=
  match Entries.get? defaults files with
  | some _ => fileOptions reader files defaults
  | none => .ok (.ofPart (.object []))

theorem defaultOptions_eq_ok {files : Files} {defaults : FilePath} {options : Yaml.Document}
    (read : defaultOptions reader files defaults = .ok options) :
    ∃ entries, options.value = .object entries := by
  unfold defaultOptions at read
  split at read
  · exact (fileOptions_eq_ok read).2
  · obtain rfl := Except.ok.inj read
    exact ⟨[], rfl⟩

/-- The options of one file are laid over those of another, if this comes to an end. -/
def overlaid (environment : Environment) (base options : Yaml.Document) :
    Except LoadFault Settings :=
  if base.overlaysEndlessly options then .error .endless
  else (ofValue environment (base.value.overlay options.value)).mapError .settings

/-- The file with the defaults is read first, and nothing is laid over it if it is the one that is
asked for. -/
theorem loadOver_eq_bind (files : Files) (environment : Environment) (defaults path : FilePath) :
    loadOver reader files environment defaults path =
      defaultOptions reader files defaults >>= fun base =>
        if path = defaults then (ofValue environment base.value).mapError .settings
        else fileOptions reader files path >>= overlaid environment base := by
  unfold loadOver defaultOptions
  cases Entries.get? defaults files <;> rfl

/-- Settings that are loaded from two files are those of one file over those of the other. The file
with the defaults is not laid over itself. -/
theorem ofValue_of_loadOver {files : Files} {environment : Environment} {defaults path : FilePath}
    {base upper : Yaml.Document} {settings : Settings}
    (below : defaultOptions reader files defaults = .ok base)
    (above : fileOptions reader files path = .ok upper)
    (loaded : loadOver reader files environment defaults path = .ok settings) :
    ofValue environment (if path = defaults then base.value else base.value.overlay upper.value) =
      .ok settings := by
  rw [loadOver_eq_bind, below] at loaded
  replace loaded : (if path = defaults then _ else _) = _ := loaded
  split at loaded
  · rename_i same
    rw [if_pos same, mapError_eq_ok_iff.mp loaded]
  · rename_i other
    rw [above] at loaded
    replace loaded : overlaid environment base upper = _ := loaded
    unfold overlaid at loaded
    split at loaded
    · exact nomatch loaded
    · rw [if_neg other, mapError_eq_ok_iff.mp loaded]

theorem defaultOptions_of_fileOptions {files : Files} {path : FilePath} {options : Yaml.Document}
    (read : fileOptions reader files path = .ok options) :
    defaultOptions reader files path = .ok options := by
  unfold defaultOptions
  cases found : Entries.get? path files with
  | some text => exact read
  | none =>
      obtain ⟨text, taken, -⟩ := bind_eq_ok_iff.mp read
      unfold Files.read at taken
      rw [found] at taken
      dsimp only at taken
      split at taken
      · exact nomatch taken
      · split at taken <;> exact nomatch taken

end

/-- The layers of a group are those of its options unless the upper settings empty it. -/
theorem hiding?_eq_layered? {base upper : List (Scalar × Value)} {environment : Environment}
    {settings : Settings} (distinct : Entries.Distinct upper)
    (read : ofValue environment ((Value.object base).overlay (.object upper)) = .ok settings)
    {group : String} (known : group ∈ groups) (kept : ¬(Value.object upper).Empties group)
    (key : String) :
    (Value.object base).hiding? (.object upper) group key =
      (Value.object base).layered? (.object upper) group key := by
  have shape := group_of_ofValue read group known
  rw [Value.field?_overlay distinct] at shape
  unfold Value.hiding?
  cases above : (Value.object upper).field? group with
  | none =>
      unfold Value.layered? Value.option?
      rw [above]
      rfl
  | some given =>
      cases given with
      | object options => rfl
      | list items =>
          rw [above] at shape
          rcases Value.overlay?_cases ((Value.object base).field? group) (.list items) with
            ⟨hidden, -⟩ | ⟨_, _, -, impossible, -⟩
          · rw [hidden] at shape
            simp at shape
          · exact nomatch impossible
      | scalar s =>
          rw [above] at shape
          rcases Value.overlay?_cases ((Value.object base).field? group) (.scalar s) with
            ⟨hidden, -⟩ | ⟨_, _, -, impossible, -⟩
          · rw [hidden] at shape
            have null : Value.scalar s = .null := by simpa using shape
            exact absurd (above.trans (congrArg some null)) kept
          · exact nomatch impossible

/-- Loaded settings follow the file, then the file with the defaults, then what is built in, option
by option, except that a group which the file leaves empty hides that of the defaults. Without such
a group each option is overridden by itself. -/
theorem follows_of_loadOver {reader : Yaml.Reader} {files : Files} {environment : Environment}
    {defaults path : FilePath} {base upper : Yaml.Document} {settings : Settings}
    (below : defaultOptions reader files defaults = .ok base)
    (above : fileOptions reader files path = .ok upper)
    (loaded : loadOver reader files environment defaults path = .ok settings) :
    settings.Follows environment (base.value.hiding? upper.value) ∧
      ((∀ group ∈ groups, ¬upper.value.Empties group) →
        settings.Follows environment (base.value.layered? upper.value)) := by
  have read := ofValue_of_loadOver below above loaded
  by_cases same : path = defaults
  · -- The defaults stand alone, and are what they would be under themselves.
    subst same
    obtain rfl := Except.ok.inj ((defaultOptions_of_fileOptions above).symm.trans below)
    rw [if_pos rfl] at read
    have follows := follows_of_ofValue read
    refine ⟨follows.of_agreeOn fun group _ key => .inl ?_, fun _ =>
      follows.of_agreeOn fun group _ key => .inl ?_⟩
    · exact (Value.hiding?_self _ group key).symm
    · exact (Value.layered?_self _ group key).symm
  · rw [if_neg same] at read
    obtain ⟨lower, base_eq⟩ := defaultOptions_eq_ok below
    obtain ⟨document_keyed, entries, upper_eq⟩ := fileOptions_eq_ok above
    have keyed := Yaml.Document.isKeyed_value document_keyed
    rw [base_eq, upper_eq] at read ⊢
    rw [upper_eq] at keyed
    have follows : settings.Follows environment
        ((Value.object lower).hiding? (.object entries)) :=
      (follows_of_ofValue read).of_agreeOn fun group _ key =>
        Value.option?_overlay keyed group key
    refine ⟨follows, fun kept => follows.of_agreeOn fun group known key => .inl ?_⟩
    exact hiding?_eq_layered? keyed.distinct read known (kept group known) key

/-- A file that gives two options, over defaults that give others and one of the same. -/
def layeredFiles : Files :=
  [(["default.yml"],
      "log: {level: debug}\nsearch:\n  index: custom\n  max_size: 50\nelasticsearch:\n  timeout: 15\n"),
    (["my.yml"], "log: {}\nsearch:\n  max_size: 250\nelasticsearch:\n  url_env: URL\n")]

theorem follows_of_loadOver_layeredFiles :
    ∃ base upper settings,
      defaultOptions Yaml.reader layeredFiles ["default.yml"] = .ok base ∧
      fileOptions Yaml.reader layeredFiles ["my.yml"] = .ok upper ∧
      loadOver Yaml.reader layeredFiles [("URL", " http://es ")] ["default.yml"] ["my.yml"] =
        .ok settings ∧
      (settings.journal.level, settings.search, settings.engine.url) =
        (.debug, ⟨"custom", 100, 250⟩, "http://es") ∧
      settings.Follows [("URL", " http://es ")] (base.value.layered? upper.value) := by
  let kind (base : Yaml.Document) := base.value.kindName
  let kinds (upper : Yaml.Document) :=
    groups.map fun group => (upper.value.field? group).map Value.kindName
  let chosen (settings : Settings) :=
    (settings.journal.level, settings.search, settings.engine.url)
  obtain ⟨base, below, -⟩ :
      ∃ base, defaultOptions Yaml.reader layeredFiles ["default.yml"] = .ok base ∧
        kind base = "dict" :=
    exists_ok_of_map_toOption kind (by decide +kernel)
  obtain ⟨upper, above, filled⟩ :
      ∃ upper, fileOptions Yaml.reader layeredFiles ["my.yml"] = .ok upper ∧
        kinds upper = [some "dict", some "dict", some "dict"] :=
    exists_ok_of_map_toOption kinds (by decide +kernel)
  obtain ⟨settings, loaded, seen⟩ :
      ∃ settings,
        loadOver Yaml.reader layeredFiles [("URL", " http://es ")] ["default.yml"] ["my.yml"] =
            .ok settings ∧
          chosen settings = (.debug, ⟨"custom", 100, 250⟩, "http://es") :=
    exists_ok_of_map_toOption chosen (by decide +kernel)
  have kept : ∀ group ∈ groups, ¬upper.value.Empties group := by
    intro group known emptied
    have kind : (upper.value.field? group).map Value.kindName ∈
        [some "dict", some "dict", some "dict"] :=
      filled ▸ List.mem_map_of_mem known
    rw [emptied] at kind
    exact absurd kind (by decide)
  exact ⟨base, upper, settings, below, above, loaded, seen,
    (follows_of_loadOver below above loaded).2 kept⟩

/-- A file with the heading of a group and nothing below it, over defaults that name the index. -/
def hidingFiles : Files :=
  [(["default.yml"], "search:\n  index: custom\n"), (["my.yml"], "search:\n")]

theorem eq_text_of_kindName {value : Value} (kind : value.kindName = "str") :
    ∃ text, value = .text text := by
  cases value with
  | scalar s =>
      cases s with
      | text text => exact ⟨text, rfl⟩
      | _ => simp [Value.kindName, Scalar.kindName] at kind
  | list items => simp [Value.kindName] at kind
  | object entries => simp [Value.kindName] at kind

/-- The file gives no option at all, and still the index is no longer the one of the defaults. -/
theorem not_follows_layered_hidingFiles :
    ∃ base upper settings,
      defaultOptions Yaml.reader hidingFiles ["default.yml"] = .ok base ∧
      fileOptions Yaml.reader hidingFiles ["my.yml"] = .ok upper ∧
      loadOver Yaml.reader hidingFiles [] ["default.yml"] ["my.yml"] = .ok settings ∧
      ¬settings.Follows [] (base.value.layered? upper.value) := by
  let named (base : Yaml.Document) : Option (String × String) :=
    (base.value.option? "search" "index").map fun given => (given.kindName, given.plain)
  let unnamed (upper : Yaml.Document) : Bool := (upper.value.option? "search" "index").isNone
  let index (settings : Settings) : String := settings.search.index
  obtain ⟨base, below, given⟩ :
      ∃ base, defaultOptions Yaml.reader hidingFiles ["default.yml"] = .ok base ∧
        named base = some ("str", "custom") :=
    exists_ok_of_map_toOption named (by decide +kernel)
  obtain ⟨upper, above, missing⟩ :
      ∃ upper, fileOptions Yaml.reader hidingFiles ["my.yml"] = .ok upper ∧ unnamed upper = true :=
    exists_ok_of_map_toOption unnamed (by decide +kernel)
  obtain ⟨settings, loaded, seen⟩ :
      ∃ settings,
        loadOver Yaml.reader hidingFiles [] ["default.yml"] ["my.yml"] = .ok settings ∧
          index settings = "olog_logs" :=
    exists_ok_of_map_toOption index (by decide +kernel)
  refine ⟨base, upper, settings, below, above, loaded, fun follows => ?_⟩
  obtain ⟨name, chosen, index_eq⟩ := follows.index
  rw [Value.layered?, Option.isNone_iff_eq_none.mp missing, Option.none_or] at chosen
  have custom : name = "custom" := by
    obtain ⟨found, known, same⟩ := Option.map_eq_some_iff.mp given
    obtain ⟨kind, shown⟩ := Prod.mk.inj same
    obtain ⟨text, rfl⟩ := eq_text_of_kindName kind
    rw [known, Option.getD_some] at chosen
    simp only [Value.scalar.injEq, Scalar.text.injEq] at chosen
    exact chosen.symm.trans shown
  rw [custom] at index_eq
  exact absurd (seen.symm.trans index_eq) (by decide)

end Settings

end EntrySearch
