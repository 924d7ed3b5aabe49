import EntrySearch.Proofs.CommandLine.AllOrNothing
import EntrySearch.Proofs.CommandLine.Preview

/-!
# What becomes of failures

A command that fails while it is carried out reports one error and is aborted, whatever the server
answers. Its settings and its journal come before that. If they cannot be had, the program ends with
their fault, and no error is reported.
-/

namespace EntrySearch.CommandLine

open Traced Outcome

/-! ## Commands that are carried out -/

/-- What a command does that is carried out with a journal: it reports one error if it fails. -/
structure Report.Settles (journal : JournalSettings) (action : Action) (report : Report) :
    Prop where
  /-- A command that succeeds reports no error. -/
  of_success : report.ending.exitCode = 0 → Event.errors report.events = []
  /-- A command that fails is aborted after it has reported one error, which the journal takes
  unless it passes errors over. -/
  of_failure : report.ending.exitCode ≠ 0 → report.ending = .aborted ∧
    ∃ reason, Event.errors report.events = [⟨.error, action.title ++ " failed: " ++ reason⟩] ∧
      report.logged.filter (fun written => written.level = .error) =
        if PassesErrorsOver journal then [] else Event.errors report.events

/-- All went well, or an error is in the journal and the program is aborted. -/
def Report.IsConverted (report : Report) : Prop :=
  report.ending.exitCode = 0 ∨
    (∃ written ∈ report.logged, written.level = .error) ∧ report.ending = .aborted

theorem Report.Settles.isConverted_iff {journal : JournalSettings} {action : Action}
    {report : Report} (settles : report.Settles journal action) :
    report.IsConverted ↔ report.ending.exitCode = 0 ∨ ¬PassesErrorsOver journal := by
  refine or_congr_right' fun failed => ?_
  obtain ⟨aborted, reason, errors_eq, logged_eq⟩ := settles.of_failure failed
  rw [errors_eq] at logged_eq
  split_ifs at logged_eq with hushed
  · refine iff_of_false ?_ (not_not_intro hushed)
    rintro ⟨⟨written, member, grave⟩, -⟩
    have kept : written ∈ report.logged.filter fun written => written.level = .error :=
      List.mem_filter.mpr ⟨member, decide_eq_true grave⟩
    exact List.not_mem_nil (logged_eq ▸ kept)
  · have kept := logged_eq ▸ List.mem_singleton_self _
    obtain ⟨member, grave⟩ := List.mem_filter.mp kept
    exact iff_of_true ⟨⟨_, member, of_decide_eq_true grave⟩, aborted⟩ hushed

section Quiet

variable (world : World) (policy : Policy) (client : Client) (inquiry : Inquiry)

theorem only_requestFor_quiet : Only Event.IsQuiet (requestFor world policy inquiry) :=
  (only_requestFor world policy inquiry).imp fun _ ⟨_, same, calm⟩ => same ▸ calm

theorem only_preview : Only Event.IsQuiet (preview world policy inquiry) := by
  rw [preview_eq]
  exact (only_requestFor_quiet world policy inquiry).bind fun request =>
    only_print Value.jsonBlock _ fun _ => trivial

theorem only_lookUp : Only Event.IsQuiet (lookUp world policy client inquiry) := by
  rw [lookUp_eq]
  refine (only_requestFor_quiet world policy inquiry).bind fun request => ?_
  refine ((only_resultOf world client request).imp fun _ inner => inner.isQuiet).bind
    fun found => ?_
  exact only_present found (fun _ => trivial) fun _ => Level.noConfusion

theorem carryOut_eq_settle (settings : Settings) :
    ∃ doing last, Only Event.IsQuiet doing ∧ Event.errors last = [] ∧
      carryOut world settings inquiry =
        ((settle inquiry.action doing).1 ++ last, (settle inquiry.action doing).2) := by
  obtain ⟨action, parameters, now⟩ := inquiry
  cases action with
  | compile =>
      refine ⟨_, [], only_preview world settings.search ⟨.compile, parameters, now⟩, rfl, ?_⟩
      rw [List.append_nil]
      rfl
  | search => exact ⟨_, [.close], only_lookUp world settings.search _ ⟨.search, parameters, now⟩,
      rfl, rfl⟩

end Quiet

theorem errors_settle {doing : Doing Unit} (quiet : Only Event.IsQuiet doing) (action : Action) :
    (settle action doing).2 = .done ∧ Event.errors (settle action doing).1 = [] ∨
      (settle action doing).2 = .aborted ∧ ∃ reason,
        Event.errors (settle action doing).1 =
          [⟨.error, action.title ++ " failed: " ++ reason⟩] := by
  rcases settle_cases action doing with ⟨_, settled⟩ | ⟨fault, _, settled⟩
  · rw [settled]
    exact .inl ⟨rfl, Event.errors_of_quiet quiet⟩
  · rw [settled]
    refine .inr ⟨rfl, fault.message, ?_⟩
    rw [Event.errors_append, Event.errors_of_quiet quiet]
    rfl

/-- A command with a journal that can be begun settles everything. -/
theorem settles_perform {world : World} {settings : Settings} {inquiry : Inquiry}
    (kept : journalFault? world.files (journalSetup settings.journal inquiry.action) world.stamp =
      none) :
    (perform world settings inquiry).Settles settings.journal inquiry.action := by
  obtain ⟨doing, last, quiet, harmless, carried⟩ := carryOut_eq_settle world inquiry settings
  let journal := Journal.fresh.configure world.stamp (journalSetup settings.journal inquiry.action)
  let events := (settle inquiry.action doing).1 ++ last
  have performed : perform world settings inquiry =
      ⟨events, journal.writeAll (Event.records events), (settle inquiry.action doing).2⟩ := by
    unfold perform
    dsimp only
    rw [kept, carried]
  have takes : (perform world settings inquiry).journal.isEnabled Level.error.gravity = true ↔
      ¬PassesErrorsOver settings.journal := by
    rw [performed, Journal.isEnabled_writeAll]
    exact isEnabled_error_iff settings.journal inquiry.action world.stamp
  have errors_eq : Event.errors (perform world settings inquiry).events =
      Event.errors (settle inquiry.action doing).1 := by
    rw [performed, Event.errors_append, harmless, List.append_nil]
  have ending_eq : (perform world settings inquiry).ending =
      (settle inquiry.action doing).2 := by
    rw [performed]
  rcases errors_settle quiet inquiry.action with ⟨done, none⟩ | ⟨aborted, reason, one⟩
  · refine ⟨fun _ => errors_eq.trans none, fun failed => absurd ?_ failed⟩
    rw [ending_eq, done]
    rfl
  · refine ⟨fun succeeded => ?_, fun _ => ⟨ending_eq.trans aborted, reason, errors_eq.trans one,
      Report.filter_logged_eq takes⟩⟩
    rw [ending_eq, aborted] at succeeded
    exact nomatch succeeded

/-! ## Command lines that are understood -/

/-- A command line that is understood: options, and a command with options, which makes an inquiry
or asks for help. -/
inductive Understands (world : World) (arguments : List String) (path : String)
    (asked : Option Inquiry) : Prop where
  /-- The arguments are options and a command with options. -/
  | intro {general : Parsed} {action : Action} {rest : List String}
      (understood : parse generalOptions false arguments = .ok general)
      (helpless : general.has "--help" = false)
      (named : general.words = action.name :: rest)
      (file : general.settingsFile = path)
      (openable : ¬world.MistakesForFile path)
      (asked : readInquiry action rest = .ok asked)

/-- How a command line that is understood ends. -/
inductive Concludes (world : World) (path : String) : Option Inquiry → Report → Prop where
  /-- The settings are not loaded, and nothing is done. -/
  | notLoaded {asked : Option Inquiry} {fault : LoadFault}
      (refused : world.settings path = .error fault) :
      Concludes world path asked (.ofEnding (.notLoaded fault))
  /-- Help is given. -/
  | helped {settings : Settings} (loaded : world.settings path = .ok settings) :
      Concludes world path none (.ofEnding .help)
  /-- The journal cannot be begun, and nothing is done. -/
  | noJournal {settings : Settings} {inquiry : Inquiry} {fault : JournalFault}
      (loaded : world.settings path = .ok settings)
      (hindered : journalFault? world.files (journalSetup settings.journal inquiry.action)
        world.stamp = some fault) :
      Concludes world path (some inquiry) (.ofEnding (.noJournal fault))
  /-- The inquiry is carried out. -/
  | settled {settings : Settings} {inquiry : Inquiry} {report : Report}
      (loaded : world.settings path = .ok settings)
      (kept : journalFault? world.files (journalSetup settings.journal inquiry.action)
        world.stamp = none)
      (settles : report.Settles settings.journal inquiry.action) :
      Concludes world path (some inquiry) report

variable {world : World} {arguments : List String} {path : String} {asked : Option Inquiry}

theorem run_of_understands (understands : Understands world arguments path asked) :
    run world arguments =
      match world.settings path with
      | .error fault => .ofEnding (.notLoaded fault)
      | .ok settings => asked.elim (.ofEnding .help) (perform world settings) := by
  obtain ⟨understood, helpless, named, rfl, openable, inquired⟩ := understands
  rw [run_of_words world understood helpless named, if_neg openable, runCommand,
    Action.ofName?_name]
  simp only [runAction, inquired]
  cases asked <;> rfl

theorem concludes_run (understands : Understands world arguments path asked) :
    Concludes world path asked (run world arguments) := by
  rw [run_of_understands understands]
  cases loaded : world.settings path with
  | error fault => exact .notLoaded loaded
  | ok settings =>
      cases asked with
      | none => exact .helped loaded
      | some inquiry =>
          cases begun : journalFault? world.files (journalSetup settings.journal inquiry.action)
              world.stamp with
          | none => exact .settled loaded begun (settles_perform begun)
          | some fault =>
              have unperformed : perform world settings inquiry = .ofEnding (.noJournal fault) := by
                unfold perform
                dsimp only
                rw [begun]
              show Concludes world path _ (perform world settings inquiry)
              rw [unperformed]
              exact .noJournal loaded begun

/-- Nothing keeps what is asked for from being carried out: the settings load, and the journal can
be begun. -/
def World.Admits (world : World) (path : String) (asked : Option Inquiry) : Prop :=
  ∃ settings, world.settings path = .ok settings ∧ ∀ inquiry, asked = some inquiry →
    journalFault? world.files (journalSetup settings.journal inquiry.action) world.stamp = none

/-- The journal of the settings takes errors. -/
def World.TakesErrors (world : World) (path : String) : Prop :=
  ∀ settings, world.settings path = .ok settings → ¬PassesErrorsOver settings.journal

/-- A command line that is understood ends well, or with an error in the journal, exactly when its
settings load, its journal can be begun, and the journal takes the error if there is one. Otherwise
it ends with the fault of the settings or of the journal and reports nothing, or its error is passed
over. -/
theorem isConverted_iff_admits (understands : Understands world arguments path asked) :
    Concludes world path asked (run world arguments) ∧
      ((run world arguments).IsConverted ↔ world.Admits path asked ∧
        ((run world arguments).ending.exitCode = 0 ∨ world.TakesErrors path)) := by
  have concludes := concludes_run understands
  refine ⟨concludes, ?_⟩
  generalize run world arguments = report at concludes
  have unconverted {ending : Ending} (failed : ending.exitCode ≠ 0) :
      ¬(Report.ofEnding ending).IsConverted := by
    rintro (succeeded | ⟨⟨written, member, -⟩, -⟩)
    · exact failed succeeded
    · exact List.not_mem_nil member
  cases concludes with
  | notLoaded refused =>
      refine iff_of_false (unconverted (Nat.succ_ne_zero _)) ?_
      rintro ⟨⟨settings, loaded, _⟩, -⟩
      exact nomatch refused.symm.trans loaded
  | helped loaded => exact iff_of_true (.inl rfl) ⟨⟨_, loaded, nofun⟩, .inl rfl⟩
  | noJournal loaded hindered =>
      refine iff_of_false (unconverted (Nat.succ_ne_zero _)) ?_
      rintro ⟨⟨settings, again, kept⟩, -⟩
      obtain rfl := Except.ok.inj (loaded.symm.trans again)
      exact nomatch hindered.symm.trans (kept _ rfl)
  | @settled settings inquiry _ loaded kept settles =>
      have admits : world.Admits path (some inquiry) :=
        ⟨settings, loaded, fun _ same => Option.some.inj same ▸ kept⟩
      have takes : world.TakesErrors path ↔ ¬PassesErrorsOver settings.journal := by
        refine ⟨fun taken => taken settings loaded, fun taken other again => ?_⟩
        obtain rfl := Except.ok.inj (loaded.symm.trans again)
        exact taken
      rw [settles.isConverted_iff, takes]
      exact (and_iff_right admits).symm

theorem isConverted_iff_admits_morning :
    let arguments := ["--config", "week.yml", "compile", "-p", "start=yesterday"]
    ∃ inquiry, Understands morning arguments "week.yml" (some inquiry) ∧
      (run morning arguments).IsConverted ∧ (run morning arguments).ending = .aborted := by
  intro arguments
  obtain ⟨settings, loaded, seen⟩ : ∃ settings, morning.settings "week.yml" = .ok settings ∧
      settings.journal = ⟨.info, false, "log"⟩ :=
    exists_ok_of_map_toOption Settings.journal (by decide +kernel)
  have understands : Understands morning arguments "week.yml"
      (some ⟨.compile, QueryString.collect ["start=yesterday"] none, none⟩) :=
    .intro rfl rfl (show _ = Action.compile.name :: _ from rfl) rfl (by decide) rfl
  have admits : morning.Admits "week.yml"
      (some ⟨.compile, QueryString.collect ["start=yesterday"] none, none⟩) := by
    refine ⟨settings, loaded, ?_⟩
    rintro _ ⟨⟩
    rw [seen]
    decide
  have takes : morning.TakesErrors "week.yml" := by
    intro other again
    obtain rfl := Except.ok.inj (loaded.symm.trans again)
    rw [seen]
    decide
  exact ⟨_, understands, (isConverted_iff_admits understands).2.mpr ⟨admits, .inr takes⟩,
    by decide +kernel⟩

/-- A world in which the settings name a level that there is not. -/
def loud : World :=
  { morning with files := [(["my.yml"], "log:\n  level: LOUD\n")] }

theorem not_isConverted_loud :
    let arguments := ["--config", "my.yml", "compile"]
    (∃ inquiry, Understands loud arguments "my.yml" (some inquiry)) ∧
      ¬(run loud arguments).IsConverted ∧ Event.errors (run loud arguments).events = [] := by
  intro arguments
  have understands : Understands loud arguments "my.yml"
      (some ⟨.compile, QueryString.collect [] none, none⟩) :=
    .intro rfl rfl (show _ = Action.compile.name :: _ from rfl) rfl (by decide) rfl
  have failed : (run loud arguments).ending.exitCode = 1 := by decide +kernel
  have unconverted : (run loud arguments).ending ≠ .aborted := by decide +kernel
  refine ⟨⟨_, understands⟩, ?_, by decide +kernel⟩
  rintro (succeeded | ⟨_, aborted⟩)
  · exact absurd (failed.symm.trans succeeded) (by decide)
  · exact unconverted aborted

end EntrySearch.CommandLine
