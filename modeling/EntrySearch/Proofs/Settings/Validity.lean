import EntrySearch.Proofs.Search.CleanTerms
import EntrySearch.Proofs.Settings.Layering

/-!
# Settings that are accepted

Settings that are read make sense: the level is known, the directory, the index and the address are
filled in as they have to be, and the sizes are positive. The time to wait is positive if it is a
number at all; the check refuses what is at most zero, and the undefined number is not.
-/

namespace EntrySearch

open Outcome

namespace Decimal

open Float.Model (UnpackedFloat)

theorem lt_iff_unpack (x y : Float) :
    x < y ↔ UnpackedFloat.lt x.toModel.unpack y.toModel.unpack = true :=
  decide_eq_true_iff

theorem le_iff_unpack (x y : Float) :
    x ≤ y ↔ UnpackedFloat.le x.toModel.unpack y.toModel.unpack = true :=
  decide_eq_true_iff

theorem unpack_zero : (0.0 : Float).toModel.unpack = .zero .positive :=
  rfl

/-- A number is positive if it is not at most zero and not the undefined one. -/
theorem zero_lt_iff {x : Float} : 0.0 < x ↔ ¬x ≤ 0.0 ∧ x.isNaN = false := by
  have undefined_eq : x.isNaN = x.toModel.unpack.isNaN := rfl
  rw [lt_iff_unpack, le_iff_unpack, undefined_eq, unpack_zero]
  cases x.toModel.unpack with
  | notANumber => decide
  | zero sign | infinity sign => cases sign <;> decide
  | finite sign mantissa exponent positive =>
      cases sign with
      | positive => exact iff_of_true rfl ⟨Bool.false_ne_true, rfl⟩
      | negative => exact iff_of_false Bool.false_ne_true fun above => above.1 rfl

/-- A number that is not at most zero is not equal to it, the undefined one included. -/
theorem beq_zero_of_not_le {x : Float} (above : ¬x ≤ 0.0) : (x == 0.0) = false := by
  have beq_eq : (x == 0.0) =
      UnpackedFloat.beq x.toModel.unpack (0.0 : Float).toModel.unpack := rfl
  rw [le_iff_unpack, unpack_zero] at above
  rw [beq_eq, unpack_zero]
  cases unpacked : x.toModel.unpack with
  | notANumber => rfl
  | infinity sign => cases sign <;> rfl
  | finite sign mantissa exponent positive => cases sign <;> rfl
  | zero sign =>
      rw [unpacked] at above
      cases sign <;> exact absurd rfl above

end Decimal

namespace Settings

/-- Settings that make sense, whatever the time to wait is. -/
structure IsSound (settings : Settings) : Prop where
  /-- The level is one of those with a name. -/
  level : settings.journal.level.name ∈ ["DEBUG", "INFO", "WARNING", "ERROR", "CRITICAL"]
  /-- The directory of the journal is not blank. -/
  directory : ∃ c ∈ settings.journal.directory.toList, Text.isBlank c = false
  /-- The index is not empty and has no blank character at either end. -/
  index : Text.IsTrimmed settings.search.index.toList
  /-- There is at least one entry on a page without a limit. -/
  defaultSize : 1 ≤ settings.search.defaultSize
  /-- There is at least one entry on the largest page. -/
  maxSize : 1 ≤ settings.search.maxSize
  /-- The address is one of a server. -/
  url : "http://".toList <+: settings.engine.url.toList ∨
    "https://".toList <+: settings.engine.url.toList

/-- Settings that make sense. -/
structure IsValid (settings : Settings) : Prop extends IsSound settings where
  /-- The time to wait is positive. -/
  timeout : 0.0 < settings.engine.timeout

theorem name_mem (level : Level) :
    level.name ∈ ["DEBUG", "INFO", "WARNING", "ERROR", "CRITICAL"] := by
  cases level <;> decide

/-- The options of searches are checked one after another. -/
theorem checkSearch_eq (policy : Policy) :
    checkSearch policy =
      if Text.isAllBlank policy.index.toList then .error (.blank "search.index")
      else if policy.defaultSize ≤ 0 then .error (.notPositive "search.default_size")
      else if policy.maxSize ≤ 0 then .error (.notPositive "search.max_size")
      else .ok () := by
  unfold checkSearch checkFilled
  split
  · rfl
  · show (if _ then _ else _) = _
    split <;> rfl

/-- The options of the search engine are checked one after another. -/
theorem checkEngine_eq (engine : EngineSettings) :
    checkEngine engine =
      if Text.isAllBlank engine.url.toList then .error (.blank "elasticsearch.url")
      else if !isAddress engine.url then .error .scheme
      else if engine.timeout ≤ 0.0 then .error (.notPositive "elasticsearch.timeout")
      else .ok () := by
  unfold checkEngine checkFilled
  split
  · rfl
  · show (if _ then _ else _) = _
    split <;> rfl

theorem not_isAllBlank_iff {cs : List Char} :
    ¬Text.isAllBlank cs = true ↔ ∃ c ∈ cs, Text.isBlank c = false := by
  simp [Text.isAllBlank]

theorem isAddress_iff {url : String} :
    isAddress url = true ↔ "http://".toList <+: url.toList ∨ "https://".toList <+: url.toList := by
  rw [isAddress, Bool.or_eq_true, List.isPrefixOf_iff_prefix, List.isPrefixOf_iff_prefix]

theorem checkSearch_eq_ok {policy : Policy} (checked : checkSearch policy = .ok ()) :
    ¬Text.isAllBlank policy.index.toList = true ∧ 1 ≤ policy.defaultSize ∧ 1 ≤ policy.maxSize := by
  rw [checkSearch_eq] at checked
  split_ifs at checked with blank usual greatest
  exact ⟨blank, by omega, by omega⟩

theorem checkEngine_eq_ok {engine : EngineSettings} (checked : checkEngine engine = .ok ()) :
    isAddress engine.url = true ∧ ¬engine.timeout ≤ 0.0 := by
  rw [checkEngine_eq] at checked
  split_ifs at checked with blank unknown low
  exact ⟨by simpa using unknown, low⟩

theorem filled_of_checkJournal {level directory : String} {toFile : Bool}
    {journal : JournalSettings} (checked : checkJournal level toFile directory = .ok journal) :
    ¬Text.isAllBlank journal.directory.toList = true := by
  obtain ⟨-, -, directory_eq⟩ := checkJournal_eq_ok checked
  unfold checkJournal at checked
  split at checked
  · exact nomatch checked
  · obtain ⟨_, filled, -⟩ := bind_eq_ok_iff.mp checked
    rw [checkFilled] at filled
    split_ifs at filled with blank
    rwa [directory_eq]

theorem isTrimmed_trimmed {name : String} (filled : ¬Text.isAllBlank (trimmed name).toList = true) :
    Text.IsTrimmed (trimmed name).toList := by
  rw [trimmed, String.toList_ofList] at filled ⊢
  apply Text.isTrimmed_trim
  intro nothing
  rw [nothing] at filled
  exact filled rfl

/-- Settings that are read make sense, and the time to wait does unless it is the undefined
number. -/
theorem isValid_iff_of_ofValue {environment : Environment} {value : Value} {settings : Settings}
    (read : ofValue environment value = .ok settings) :
    settings.IsSound ∧ (settings.IsValid ↔ settings.engine.timeout.isNaN = false) := by
  simp only [ofValue, bind_eq_ok_iff] at read
  obtain ⟨⟨level, toFile, directory⟩, -, policy, searched, engine, -, journal, journaled, _,
    sized, _, connected, done⟩ := read
  obtain rfl := Except.ok.inj done
  obtain ⟨⟨name, -, index_eq⟩, -⟩ := searchOptions_eq_ok searched
  obtain ⟨indexed, usual, greatest⟩ := checkSearch_eq_ok sized
  obtain ⟨address, above⟩ := checkEngine_eq_ok connected
  have sound : IsSound { journal, search := policy, engine } := by
    constructor
    · exact name_mem journal.level
    · exact not_isAllBlank_iff.mp (filled_of_checkJournal journaled)
    · rw [index_eq] at indexed ⊢
      exact isTrimmed_trimmed indexed
    · exact usual
    · exact greatest
    · exact isAddress_iff.mp address
  refine ⟨sound, fun valid => (Decimal.zero_lt_iff.mp valid.timeout).2, fun defined => ?_⟩
  exact ⟨sound, Decimal.zero_lt_iff.mpr ⟨above, defined⟩⟩

/-- Settings at the edge of what makes sense: a level in small letters among blanks, blanks around
the index, pages of one entry, an endless time to wait, and an address in the environment. -/
def edgedSettings : Value :=
  .record
    [("log", .record [("level", .text " debug\n"), ("dir", .text " .")]),
      ("search", .record [("index", .text "\tlogs "), ("default_size", .int 1), ("max_size", .int 1)]),
      ("elasticsearch", .record
        [("url", .text "ftp://es"), ("url_env", .text "URL"), ("timeout", .float (1.0 / 0.0))])]

theorem isValid_edgedSettings :
    ∃ settings, ofValue [("URL", " https://es/ ")] edgedSettings = .ok settings ∧
      settings.engine.timeout.isNaN = false ∧ settings.IsSound ∧
      (settings.IsValid ↔ settings.engine.timeout.isNaN = false) := by
  let undefined (settings : Settings) := settings.engine.timeout.isNaN
  obtain ⟨settings, read, defined⟩ :
      ∃ settings, ofValue [("URL", " https://es/ ")] edgedSettings = .ok settings ∧
        undefined settings = false :=
    exists_ok_of_map_toOption undefined (by decide +kernel)
  exact ⟨settings, read, defined, isValid_iff_of_ofValue read⟩

/-- Settings with the undefined number as the time to wait, and nothing else. -/
def undefinedTimeout : Value :=
  .record [("elasticsearch", .record [("timeout", .float (0.0 / 0.0))])]

theorem not_isValid_undefinedTimeout :
    ∃ settings, ofValue [] undefinedTimeout = .ok settings ∧ ¬settings.IsValid := by
  let undefined (settings : Settings) := settings.engine.timeout.isNaN
  obtain ⟨settings, read, seen⟩ :
      ∃ settings, ofValue [] undefinedTimeout = .ok settings ∧ undefined settings = true :=
    exists_ok_of_map_toOption undefined (by decide +kernel)
  refine ⟨settings, read, fun valid => ?_⟩
  have defined := (Decimal.zero_lt_iff.mp valid.timeout).2
  exact Bool.false_ne_true (defined.symm.trans seen)

end Settings

end EntrySearch
