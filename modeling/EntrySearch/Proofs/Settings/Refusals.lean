import EntrySearch.Proofs.Settings.Offences
import EntrySearch.Proofs.Text.WordEnds

/-!
# Settings that are refused

Settings are refused with the name of the group or option that is at fault: it is of the wrong kind,
or it is of the right kind and makes no sense. The one exception is a time to wait that is a whole
number beyond all fractional ones. It is refused when every group and option is of the right kind,
and nothing is said about where it stands.
-/

namespace EntrySearch

open Outcome

namespace OptionKind

theorem tooLarge_of_take {kind : OptionKind} {value : Value} {fault : SettingsFault}
    (taken : kind.take value = some (.error fault)) :
    kind = .number ∧ fault = .tooLarge ∧ ∃ n, value = .int n ∧ Decimal.floatOfInt? n = none := by
  unfold take at taken
  split at taken
  · exact nomatch taken
  · exact nomatch taken
  · exact nomatch taken
  · exact nomatch taken
  · rename_i n
    split at taken
    · exact nomatch taken
    · rename_i infinite
      exact ⟨rfl, (Except.error.inj (Option.some.inj taken)).symm, n, rfl, infinite⟩
  · exact nomatch taken

theorem not_fits_of_take {kind : OptionKind} {value : Value} (missed : kind.take value = none) :
    ¬kind.Fits value := by
  cases kind with
  | text =>
      rintro ⟨s, rfl⟩
      exact nomatch missed
  | truth =>
      rintro ⟨b, rfl⟩
      exact nomatch missed
  | integer =>
      rintro ⟨n, rfl⟩
      exact nomatch missed
  | number =>
      rintro (⟨x, rfl⟩ | ⟨n, rfl⟩)
      · exact nomatch missed
      · cases whole : Decimal.floatOfInt? n <;> simp [take, whole] at missed

end OptionKind

namespace OptionGroup

variable {group : OptionGroup} {kind : OptionKind} {key : String} {otherwise : kind.Held}
  {fault : SettingsFault}

theorem name_of_ofSettings {name : String} {settings : Value}
    (read : ofSettings name settings = .ok group) : group.name = name := by
  unfold ofSettings at read
  split at read
  · split at read
    · rw [← Except.ok.inj read]
    · rw [← Except.ok.inj read]
    · rw [← Except.ok.inj read]
    · exact nomatch read
  · exact nomatch read

theorem ofSettings_eq_error {name : String} {entries : List (Scalar × Value)}
    (refused : ofSettings name (.object entries) = .error fault) :
    fault = .group name ∧ ∃ given, (Value.object entries).field? name = some given ∧
      given ≠ .null ∧ given.entries? = none := by
  have field_eq : (Value.object entries).field? name = Entries.get? (.text name) entries := rfl
  unfold ofSettings at refused
  dsimp only at refused
  rw [field_eq]
  split at refused
  · exact nomatch refused
  · exact nomatch refused
  · exact nomatch refused
  · rename_i given filled plain found
    refine ⟨(Except.error.inj refused).symm, given, found, filled, ?_⟩
    cases given with
    | object options => exact absurd rfl (plain options)
    | scalar s => rfl
    | list items => rfl

/-- An option is refused when it is not of its kind, or when it is a number, whole and too large. -/
theorem read_eq_error (refused : group.read kind key otherwise = .error fault) :
    fault = .kind (group.path key) kind ∧
        ¬kind.Fits ((group.get? key).getD (kind.value otherwise)) ∨
      kind = .number ∧ fault = .tooLarge ∧
        ∃ n, group.get? key = some (.int n) ∧ Decimal.floatOfInt? n = none := by
  unfold OptionGroup.read at refused
  split at refused
  · rename_i outcome taken
    rw [refused] at taken
    obtain ⟨rfl, rfl, n, whole, infinite⟩ := OptionKind.tooLarge_of_take taken
    refine .inr ⟨rfl, rfl, n, ?_, infinite⟩
    cases given : group.get? key with
    | none =>
        rw [given] at whole
        exact nomatch whole
    | some value =>
        rw [given] at whole
        exact congrArg some whole
  · rename_i missed
    exact .inl ⟨(Except.error.inj refused).symm, OptionKind.not_fits_of_take missed⟩

/-- Apart from numbers an option is refused when it is not of its kind. -/
theorem misfit_of_read (refused : group.read kind key otherwise = .error fault)
    (plain : kind ≠ .number) :
    fault = .kind (group.path key) kind ∧
      ¬kind.Fits ((group.get? key).getD (kind.value otherwise)) :=
  (read_eq_error refused).resolve_right fun numeric => plain numeric.1

end OptionGroup

namespace Settings

variable {environment : Environment} {entries : List (Scalar × Value)} {fault : SettingsFault}

/-- A group that is refused is named. -/
theorem blames_of_ofSettings {name : String} (known : name ∈ groups)
    (refused : OptionGroup.ofSettings name (.object entries) = .error fault) :
    Blames environment (.object entries) .kind fault := by
  obtain ⟨rfl, given, found, filled, plain⟩ := OptionGroup.ofSettings_eq_error refused
  exact ⟨rfl, name, SettingsFault.names_group name, .group known found filled plain⟩

theorem value_eq_of_ofSettings {settings : Value} {group : OptionGroup} (option : KnownOption)
    (grouped : OptionGroup.ofSettings option.group settings = .ok group) :
    option.value settings = (group.get? option.key).getD option.builtIn := by
  rw [(OptionGroup.ofSettings_eq_ok grouped).2]
  rfl

/-- An option that is refused for its kind is named. -/
theorem blames_of_misfit {settings : Value} {group : OptionGroup} (option : KnownOption)
    (grouped : OptionGroup.ofSettings option.group settings = .ok group)
    (misfit : ¬option.kind.Fits ((group.get? option.key).getD option.builtIn)) :
    Blames environment settings .kind (.kind (group.path option.key) option.kind) := by
  have path_eq : group.path option.key = option.path := by
    rw [OptionGroup.path, OptionGroup.name_of_ofSettings grouped]
    rfl
  rw [← value_eq_of_ofSettings option grouped] at misfit
  rw [path_eq]
  exact ⟨rfl, option.path, SettingsFault.names_kind _ _, .kind option misfit⟩

theorem blames_of_journalOptions
    (refused : journalOptions (.object entries) = .error fault) :
    Blames environment (.object entries) .kind fault := by
  simp only [journalOptions, bind_eq_error_iff] at refused
  obtain ungrouped | ⟨group, grouped, refused⟩ := refused
  · exact blames_of_ofSettings (by decide) ungrouped
  obtain unleveled | ⟨_, -, refused⟩ := refused
  · obtain ⟨rfl, misfit⟩ := OptionGroup.misfit_of_read unleveled OptionKind.noConfusion
    exact blames_of_misfit .level grouped misfit
  obtain unfiled | ⟨_, -, refused⟩ := refused
  · obtain ⟨rfl, misfit⟩ := OptionGroup.misfit_of_read unfiled OptionKind.noConfusion
    exact blames_of_misfit .toFile grouped misfit
  obtain unplaced | ⟨_, -, done⟩ := refused
  · obtain ⟨rfl, misfit⟩ := OptionGroup.misfit_of_read unplaced OptionKind.noConfusion
    exact blames_of_misfit .directory grouped misfit
  · exact absurd done ok_ne_error

theorem blames_of_searchOptions
    (refused : searchOptions (.object entries) = .error fault) :
    Blames environment (.object entries) .kind fault := by
  simp only [searchOptions, bind_eq_error_iff] at refused
  obtain ungrouped | ⟨group, grouped, refused⟩ := refused
  · exact blames_of_ofSettings (by decide) ungrouped
  obtain unnamed | ⟨_, -, refused⟩ := refused
  · obtain ⟨rfl, misfit⟩ := OptionGroup.misfit_of_read unnamed OptionKind.noConfusion
    exact blames_of_misfit .index grouped misfit
  obtain unsized | ⟨_, -, refused⟩ := refused
  · obtain ⟨rfl, misfit⟩ := OptionGroup.misfit_of_read unsized OptionKind.noConfusion
    exact blames_of_misfit .defaultSize grouped misfit
  obtain unbounded | ⟨_, -, done⟩ := refused
  · obtain ⟨rfl, misfit⟩ := OptionGroup.misfit_of_read unbounded OptionKind.noConfusion
    exact blames_of_misfit .maxSize grouped misfit
  · exact absurd done ok_ne_error

/-- The options of the search engine are refused for what is named, or else all of them are of the
right kind and the time to wait is too large. -/
theorem engineOptions_eq_error
    (refused : engineOptions environment (.object entries) = .error fault) :
    Blames environment (.object entries) .kind fault ∨
      fault = .tooLarge ∧ IsFitting (.object entries) "elasticsearch" ∧
        ∃ n, (Value.object entries).option? "elasticsearch" "timeout" = some (.int n) ∧
          Decimal.floatOfInt? n = none := by
  simp only [engineOptions, bind_eq_error_iff] at refused
  obtain ungrouped | ⟨group, grouped, refused⟩ := refused
  · exact .inl (blames_of_ofSettings (by decide) ungrouped)
  obtain unnamed | ⟨variableName, named, refused⟩ := refused
  · obtain ⟨rfl, misfit⟩ := OptionGroup.misfit_of_read unnamed OptionKind.noConfusion
    exact .inl (blames_of_misfit .urlVariable grouped misfit)
  obtain unaddressed | ⟨url, addressed, refused⟩ := refused
  · obtain ⟨rfl, misfit⟩ := OptionGroup.misfit_of_read unaddressed OptionKind.noConfusion
    exact .inl (blames_of_misfit .url grouped misfit)
  obtain untimed | ⟨_, -, done⟩ := refused
  · obtain ⟨rfl, misfit⟩ | ⟨-, rfl, n, found, infinite⟩ := OptionGroup.read_eq_error untimed
    · exact .inl (blames_of_misfit .timeout grouped misfit)
    · obtain ⟨shaped, option_eq⟩ := OptionGroup.ofSettings_eq_ok grouped
      refine .inr ⟨rfl, ⟨shaped, fun option inside => ?_⟩, n, option_eq _ ▸ found, infinite⟩
      rw [value_eq_of_ofSettings option (inside ▸ grouped)]
      cases option with
      | urlVariable =>
          exact ⟨variableName, OptionGroup.eq_value_of_read named OptionKind.noConfusion⟩
      | url => exact ⟨url, OptionGroup.eq_value_of_read addressed OptionKind.noConfusion⟩
      | timeout => exact .inr ⟨n, congrArg (Option.getD · _) found⟩
      | _ => exact absurd inside (by decide)
  · exact absurd done ok_ne_error

section

variable {settings : Value}

theorem isFitting_of_journalOptions {level directory : String} {toFile : Bool}
    (read : journalOptions settings = .ok (level, toFile, directory)) :
    IsFitting settings "log" := by
  obtain ⟨⟨name, named, -⟩, filed, placed⟩ := journalOptions_eq_ok read
  simp only [journalOptions, bind_eq_ok_iff] at read
  obtain ⟨_, grouped, -⟩ := read
  refine ⟨(OptionGroup.ofSettings_eq_ok grouped).1, fun option inside => ?_⟩
  cases option with
  | level => exact ⟨name, named⟩
  | toFile => exact ⟨toFile, filed⟩
  | directory => exact ⟨directory, placed⟩
  | _ => exact absurd inside (by decide)

theorem isFitting_of_searchOptions {policy : Policy} (read : searchOptions settings = .ok policy) :
    IsFitting settings "search" := by
  obtain ⟨⟨name, named, -⟩, usual, greatest⟩ := searchOptions_eq_ok read
  simp only [searchOptions, bind_eq_ok_iff] at read
  obtain ⟨_, grouped, -⟩ := read
  refine ⟨(OptionGroup.ofSettings_eq_ok grouped).1, fun option inside => ?_⟩
  cases option with
  | index => exact ⟨name, named⟩
  | defaultSize => exact ⟨policy.defaultSize, usual⟩
  | maxSize => exact ⟨policy.maxSize, greatest⟩
  | _ => exact absurd inside (by decide)

theorem blames_of_checkJournal {level directory : String} {toFile : Bool}
    (read : journalOptions settings = .ok (level, toFile, directory))
    (refused : checkJournal level toFile directory = .error fault) :
    Blames environment settings .sense fault := by
  obtain ⟨⟨name, named, rfl⟩, -, placed⟩ := journalOptions_eq_ok read
  unfold checkJournal at refused
  split at refused
  · rename_i unknown
    obtain rfl := Except.error.inj refused
    refine ⟨rfl, _, SettingsFault.names_level, .sense .level ⟨name, named⟩ ?_⟩
    rintro ⟨other, known, given, found⟩
    obtain rfl := Value.eq_of_eq_text named given
    exact nomatch unknown.symm.trans found
  · rw [checkFilled] at refused
    split_ifs at refused with blank
    · obtain rfl := Except.error.inj refused
      exact ⟨rfl, _, SettingsFault.names_blank "log.dir",
        .sense .directory ⟨directory, placed⟩ (not_isFilled placed blank)⟩
    · exact absurd refused ok_ne_error

theorem blames_of_checkSearch {policy : Policy} (read : searchOptions settings = .ok policy)
    (refused : checkSearch policy = .error fault) : Blames environment settings .sense fault := by
  obtain ⟨⟨name, named, index_eq⟩, usual, greatest⟩ := searchOptions_eq_ok read
  rw [checkSearch_eq] at refused
  split_ifs at refused with blank low lower
  · obtain rfl := Except.error.inj refused
    rw [index_eq, trimmed, String.toList_ofList, Text.isAllBlank_trim] at blank
    exact ⟨rfl, _, SettingsFault.names_blank "search.index",
      .sense .index ⟨name, named⟩ (not_isFilled named blank)⟩
  · obtain rfl := Except.error.inj refused
    exact ⟨rfl, _, SettingsFault.names_notPositive "search.default_size",
      .sense .defaultSize ⟨policy.defaultSize, usual⟩ (not_isPositive usual low)⟩
  · obtain rfl := Except.error.inj refused
    exact ⟨rfl, _, SettingsFault.names_notPositive "search.max_size",
      .sense .maxSize ⟨policy.maxSize, greatest⟩ (not_isPositive greatest lower)⟩

theorem blames_of_checkEngine {engine : EngineSettings}
    (read : engineOptions environment settings = .ok engine)
    (refused : checkEngine engine = .error fault) : Blames environment settings .sense fault := by
  obtain ⟨named, ⟨given, addressed, url_eq⟩, timed⟩ := engineOptions_eq_ok read
  have senseless (unknown : ¬isAddress engine.url = true) :
      ¬KnownOption.url.MakesSense environment settings := by
    rintro ⟨name, other, named', addressed', address⟩
    obtain rfl := Value.eq_of_eq_text named named'
    obtain rfl := Value.eq_of_eq_text addressed addressed'
    rw [isAddress_iff, url_eq] at unknown
    exact unknown address
  rw [checkEngine_eq] at refused
  split_ifs at refused with blank unknown low
  · obtain rfl := Except.error.inj refused
    refine ⟨rfl, _, SettingsFault.names_blank "elasticsearch.url",
      .sense .url ⟨given, addressed⟩ (senseless fun address => ?_)⟩
    exact not_isAllBlank_of_isAddress address blank
  · obtain rfl := Except.error.inj refused
    exact ⟨rfl, _, SettingsFault.names_scheme,
      .sense .url ⟨given, addressed⟩ (senseless (by simpa using unknown))⟩
  · obtain rfl := Except.error.inj refused
    refine ⟨rfl, _, SettingsFault.names_notPositive "elasticsearch.timeout",
      .sense .timeout (fits_of_number? timed) ?_⟩
    rintro ⟨x, number, positive⟩
    obtain rfl := Option.some.inj (timed.symm.trans number)
    exact (Decimal.zero_lt_iff.mp positive).1 low

end

/-- What is read first is refused for its kind before anything is said about sense; only the time to
wait that is too large comes between. -/
theorem ofValue_eq_error (refused : ofValue environment (.object entries) = .error fault) :
    (∃ complaint, Blames environment (.object entries) complaint fault) ∧
        ¬Overflows environment (.object entries) ∨
      fault = .tooLarge ∧ Overflows environment (.object entries) := by
  have misfit (blamed : Blames environment (.object entries) .kind fault) :
      (∃ complaint, Blames environment (.object entries) complaint fault) ∧
        ¬Overflows environment (.object entries) := by
    obtain ⟨-, name, -, offends⟩ := id blamed
    exact ⟨⟨.kind, blamed⟩, fun ⟨fitting, _⟩ => fitting name offends⟩
  simp only [ofValue, bind_eq_error_iff] at refused
  obtain unread | ⟨⟨level, toFile, directory⟩, journaled, refused⟩ := refused
  · exact .inl (misfit (blames_of_journalOptions unread))
  obtain unread | ⟨policy, searched, refused⟩ := refused
  · exact .inl (misfit (blames_of_searchOptions unread))
  obtain unread | ⟨engine, connected, refused⟩ := refused
  · obtain blamed | ⟨rfl, fitting, large⟩ := engineOptions_eq_error unread
    · exact .inl (misfit blamed)
    · refine .inr ⟨rfl, not_offends_of_isFitting ?_, large⟩
      simp only [groups, List.forall_mem_cons]
      exact ⟨isFitting_of_journalOptions journaled, isFitting_of_searchOptions searched, fitting,
        List.forall_mem_nil _⟩
  obtain ⟨-, -, timed⟩ := engineOptions_eq_ok connected
  have small : ¬Overflows environment (.object entries) := not_overflows_of_number? timed
  refine .inl ⟨⟨.sense, ?_⟩, small⟩
  obtain unchecked | ⟨journal, -, refused⟩ := refused
  · exact blames_of_checkJournal journaled unchecked
  obtain unchecked | ⟨_, -, refused⟩ := refused
  · exact blames_of_checkSearch searched unchecked
  obtain unchecked | ⟨_, -, done⟩ := refused
  · exact blames_of_checkEngine connected unchecked
  · exact absurd done ok_ne_error

/-- Settings are read, or refused for a group or an option that is named with what is wrong about
it, unless a time to wait is too large; and just then they are refused for that alone. -/
theorem blames_iff_not_overflows (environment : Environment) (entries : List (Scalar × Value)) :
    let settings := Value.object entries
    let outcome := ofValue environment settings
    ((∀ fault, outcome = .error fault → ∃ complaint, Blames environment settings complaint fault) ↔
      ¬Overflows environment settings) ∧
    (outcome = .error .tooLarge ↔ Overflows environment settings) := by
  intro settings outcome
  have unblamed : ¬∃ complaint, Blames environment settings complaint .tooLarge :=
    fun ⟨_, complained, _⟩ => nomatch complained
  cases ended : outcome with
  | ok read =>
      have small : ¬Overflows environment settings :=
        not_overflows_of_number? (follows_of_ofValue ended).timeout
      exact ⟨iff_of_true nofun small, iff_of_false nofun small⟩
  | error fault =>
      obtain ⟨blamed, small⟩ | ⟨rfl, large⟩ := ofValue_eq_error ended
      · refine ⟨iff_of_true ?_ small, iff_of_false ?_ small⟩
        · rintro _ ⟨⟩
          exact blamed
        · rintro ⟨⟩
          exact unblamed blamed
      · refine ⟨iff_of_false ?_ (not_not_intro large), iff_of_true rfl large⟩
        intro named
        exact unblamed (named .tooLarge rfl)

/-- Settings with a time to wait of one and four hundred zeros, and nothing else. -/
def endlessTimeout : Value :=
  .record [("elasticsearch", .record [("timeout", .int (Int.pow 10 400))])]

theorem not_blames_endlessTimeout :
    ∃ fault, ofValue [] endlessTimeout = .error fault ∧
      ¬∃ complaint, Blames [] endlessTimeout complaint fault := by
  refine ⟨.tooLarge, ?_, fun ⟨_, complained, _⟩ => nomatch complained⟩
  exact fault?_eq_some_iff.mp (by decide +kernel)

end Settings

end EntrySearch
