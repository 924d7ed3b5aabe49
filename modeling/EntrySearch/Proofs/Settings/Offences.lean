import EntrySearch.Proofs.Settings.Validity

/-!
# Reasons to refuse settings

Settings give reason for a complaint where a group or an option is of the wrong kind, or where an
option is of the right kind and makes no sense. A fault blames a group or an option if its message
starts with the name of it and there is reason for the complaint.
-/

namespace EntrySearch

/-- The options that settings may give. -/
inductive KnownOption where
  /-- Least grave records shown. -/
  | level
  /-- Whether there is a file for the journal. -/
  | toFile
  /-- Directory of this file. -/
  | directory
  /-- Name that the indices start with. -/
  | index
  /-- Number of entries without a limit. -/
  | defaultSize
  /-- Greatest number of entries. -/
  | maxSize
  /-- Variable that may hold the address. -/
  | urlVariable
  /-- Address of the server. -/
  | url
  /-- Seconds to wait. -/
  | timeout
  deriving DecidableEq, Repr

theorem Value.eq_of_eq_text {value : Value} {s t : String} (first : value = .text s)
    (second : value = .text t) : s = t := by
  simpa using first.symm.trans second

/-- A text that is not blank. -/
def Value.IsFilled (value : Value) : Prop :=
  ∃ name, value = .text name ∧ ∃ c ∈ name.toList, Text.isBlank c = false

/-- A whole number that is positive. -/
def Value.IsPositive (value : Value) : Prop :=
  ∃ n, value = .int n ∧ 0 < n

/-- Values of a kind. -/
def OptionKind.Fits : OptionKind → Value → Prop
  | .text, value => ∃ s, value = .text s
  | .truth, value => ∃ b, value = .bool b
  | .integer, value => ∃ n, value = .int n
  | .number, value => (∃ x, value = .float x) ∨ ∃ n, value = .int n

namespace KnownOption

/-- The group of an option. -/
def group : KnownOption → String
  | .level | .toFile | .directory => "log"
  | .index | .defaultSize | .maxSize => "search"
  | .urlVariable | .url | .timeout => "elasticsearch"

/-- The key of an option in its group. -/
def key : KnownOption → String
  | .level => "level"
  | .toFile => "to_file"
  | .directory => "dir"
  | .index => "index"
  | .defaultSize => "default_size"
  | .maxSize => "max_size"
  | .urlVariable => "url_env"
  | .url => "url"
  | .timeout => "timeout"

/-- The full name of an option. -/
def path (option : KnownOption) : String :=
  option.group ++ "." ++ option.key

/-- The kind of an option. -/
def kind : KnownOption → OptionKind
  | .level | .directory | .index | .urlVariable | .url => .text
  | .toFile => .truth
  | .defaultSize | .maxSize => .integer
  | .timeout => .number

/-- What is built in. -/
def builtIn : KnownOption → Value
  | .level => .text "INFO"
  | .toFile => .bool false
  | .directory => .text "log"
  | .index => .text "olog_logs"
  | .defaultSize => .int 100
  | .maxSize => .int 1000
  | .urlVariable => .text "LOGBOOK_ES_URL"
  | .url => .text "http://localhost:9200"
  | .timeout => .float 30.0

/-- The value of an option in settings. -/
def value (option : KnownOption) (settings : Value) : Value :=
  (settings.option? option.group option.key).getD option.builtIn

/-- The value of an option makes sense. The address that counts is the one in the environment, if
there is one. -/
def MakesSense (environment : Environment) (settings : Value) : KnownOption → Prop
  | .level => ∃ name level, KnownOption.level.value settings = .text name ∧
      Level.ofName? (Settings.trimmed name) = some level
  | .directory => (KnownOption.directory.value settings).IsFilled
  | .index => (KnownOption.index.value settings).IsFilled
  | .defaultSize => (KnownOption.defaultSize.value settings).IsPositive
  | .maxSize => (KnownOption.maxSize.value settings).IsPositive
  | .url => ∃ name given, KnownOption.urlVariable.value settings = .text name ∧
      KnownOption.url.value settings = .text given ∧
      let address := Settings.addressIn environment name
      let url := if address.isEmpty then given else address
      "http://".toList <+: url.toList ∨ "https://".toList <+: url.toList
  | .timeout => ∃ x, (KnownOption.timeout.value settings).number? = some x ∧ 0.0 < x
  | .toFile | .urlVariable => True

end KnownOption

/-- What a refusal is about. -/
inductive Complaint where
  /-- What is given is of the wrong kind. -/
  | kind
  /-- What is given is of the right kind and makes no sense. -/
  | sense
  deriving DecidableEq, Repr

namespace SettingsFault

/-- What a fault complains about; what is no object and what is too large are no complaint about a
group or an option. -/
def complaint? : SettingsFault → Option Complaint
  | .group _ | .kind _ _ => some .kind
  | .level | .blank _ | .notPositive _ | .scheme => some .sense
  | .notObject _ | .tooLarge => none

/-- The message of a fault starts with a name. -/
def Names (fault : SettingsFault) (name : String) : Prop :=
  ∃ rest, fault.message = name ++ " must " ++ rest

theorem names_of_message {fault : SettingsFault} {name : String} (rest : String)
    (message_eq : fault.message = name ++ (" must " ++ rest)) : fault.Names name :=
  ⟨rest, by rw [message_eq, String.append_assoc]⟩

theorem names_group (name : String) : (group name).Names name :=
  names_of_message "be an object" rfl

theorem names_kind (path : String) (expected : OptionKind) : (kind path expected).Names path := by
  apply names_of_message ("be " ++ expected.phrase)
  calc
    (kind path expected).message = path ++ (" must " ++ "be ") ++ expected.phrase := rfl
    _ = path ++ (" must " ++ ("be " ++ expected.phrase)) := by simp only [String.append_assoc]

theorem names_blank (path : String) : (blank path).Names path :=
  names_of_message "not be empty" rfl

theorem names_notPositive (path : String) : (notPositive path).Names path :=
  names_of_message "be positive" rfl

theorem names_level : SettingsFault.level.Names KnownOption.level.path :=
  names_of_message "be one of ['DEBUG', 'INFO', 'WARNING', 'ERROR', 'CRITICAL']" (by decide +kernel)

theorem names_scheme : SettingsFault.scheme.Names KnownOption.url.path :=
  names_of_message "start with http:// or https://" (by decide)

end SettingsFault

namespace Settings

/-- A group or an option that gives reason for a complaint. -/
inductive Offends (environment : Environment) (settings : Value) : Complaint → String → Prop
  /-- A group is given and is no object. -/
  | group {name : String} {given : Value} (known : name ∈ groups)
      (found : settings.field? name = some given) (filled : given ≠ .null)
      (plain : given.entries? = none) : Offends environment settings .kind name
  /-- An option is of the wrong kind. -/
  | kind (option : KnownOption) (misfit : ¬option.kind.Fits (option.value settings)) :
      Offends environment settings .kind option.path
  /-- An option is of the right kind and makes no sense. -/
  | sense (option : KnownOption) (fits : option.kind.Fits (option.value settings))
      (senseless : ¬option.MakesSense environment settings) :
      Offends environment settings .sense option.path

/-- A fault complains about a group or an option that gives reason for it, and names it. -/
def Blames (environment : Environment) (settings : Value) (complaint : Complaint)
    (fault : SettingsFault) : Prop :=
  fault.complaint? = some complaint ∧
    ∃ name, fault.Names name ∧ Offends environment settings complaint name

/-- The time to wait is a whole number that is too large to be a fractional one, and every group and
option is of the right kind. -/
def Overflows (environment : Environment) (settings : Value) : Prop :=
  (∀ name, ¬Offends environment settings .kind name) ∧
    ∃ n, settings.option? "elasticsearch" "timeout" = some (.int n) ∧ Decimal.floatOfInt? n = none

/-- A group is an object or nothing, and its options are of the right kinds. -/
structure IsFitting (settings : Value) (name : String) : Prop where
  /-- The group is an object or nothing. -/
  shape : settings.field? name = none ∨ settings.field? name = some .null ∨
    ∃ entries, settings.field? name = some (.object entries)
  /-- Its options are of the right kinds. -/
  fits : ∀ option : KnownOption, option.group = name → option.kind.Fits (option.value settings)

variable {environment : Environment} {settings : Value}

theorem not_isFilled {value : Value} {name : String} (given : value = .text name)
    (blank : Text.isAllBlank name.toList = true) : ¬value.IsFilled := by
  rintro ⟨other, given', filled⟩
  obtain rfl := Value.eq_of_eq_text given given'
  exact not_isAllBlank_iff.mpr filled blank

theorem not_isPositive {value : Value} {n : Int} (given : value = .int n) (low : n ≤ 0) :
    ¬value.IsPositive := by
  rintro ⟨m, given', positive⟩
  obtain rfl : n = m := by simpa using given.symm.trans given'
  exact absurd positive (Int.not_lt.mpr low)

/-- An address of a server is not blank. -/
theorem not_isAllBlank_of_isAddress {url : String} (address : isAddress url = true) :
    ¬Text.isAllBlank url.toList = true := by
  have first : 'h' ∈ url.toList := by
    obtain plain | secure := isAddress_iff.mp address
    · exact plain.subset (by decide)
    · exact secure.subset (by decide)
  exact not_isAllBlank_iff.mpr ⟨'h', first, by decide⟩

/-- A value with a number is one. -/
theorem fits_of_number? {value : Value} {x : Float} (number : value.number? = some x) :
    OptionKind.number.Fits value := by
  unfold Value.number? at number
  split at number
  · exact .inl ⟨_, rfl⟩
  · exact .inr ⟨_, rfl⟩
  · exact nomatch number

/-- Where all groups are as they should be, there is nothing to say about kinds. -/
theorem not_offends_of_isFitting (fitting : ∀ name ∈ groups, IsFitting settings name)
    (name : String) : ¬Offends environment settings .kind name := by
  intro offends
  cases offends with
  | group known found filled plain =>
      obtain missing | null | ⟨entries, object⟩ := (fitting name known).shape
      · exact nomatch found.symm.trans missing
      · exact filled (Option.some.inj (found.symm.trans null))
      · obtain rfl := Option.some.inj (found.symm.trans object)
        exact nomatch plain
  | kind option misfit =>
      have known : option.group ∈ groups := by cases option <;> decide
      exact misfit ((fitting option.group known).fits option rfl)

/-- A time to wait that is a number is not too large. -/
theorem not_overflows_of_number? {x : Float}
    (number : (KnownOption.timeout.value settings).number? = some x) :
    ¬Overflows environment settings := by
  rintro ⟨-, n, found, infinite⟩
  have value_eq : KnownOption.timeout.value settings = .int n :=
    congrArg (Option.getD · KnownOption.timeout.builtIn) found
  rw [value_eq] at number
  exact nomatch infinite.symm.trans number

end Settings

end EntrySearch
