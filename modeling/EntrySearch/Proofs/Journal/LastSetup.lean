import EntrySearch.Proofs.Journal.Writing
import EntrySearch.Proofs.Outcome

/-!
# The last setup counts

However often a journal is set up, messages go where the last setup says, and the console shows the
same whether or not a file is kept besides. No setup gets through with a name that stands for
something else than a level, though such a name is not known as that of a level and was to stand for
information.
-/

namespace EntrySearch

open Outcome

namespace Level

/-- The gravity that a name says in capital or small letters: that of the level with this name, and
that of information for a name that is not known. -/
def saidGravity (name : String) : Int :=
  match capitals name with
  | "DEBUG" => debug.gravity
  | "WARNING" | "WARN" => warning.gravity
  | "ERROR" => error.gravity
  | "CRITICAL" | "FATAL" => critical.gravity
  | _ => info.gravity

theorem gravityOf_eq_saidGravity {name : String} (leveled : capitals name ≠ "NOTSET") :
    gravityOf name = saidGravity name := by
  unfold gravityOf saidGravity
  generalize capitals name = capital at leveled
  split
  · rfl
  · rfl
  · rfl
  · rfl
  · rfl
  · rfl
  · by_cases informing : capital = "INFO"
    · rw [informing]
      rfl
    · have unknown : Entries.get? capital gravities = none := by
        simp_all [gravities, all, Level.name, Entries.get?, Ne.symm, eq_comm (b := capital)]
      rw [unknown, Option.getD_none]

theorem debug_le_saidGravity (name : String) : debug.gravity ≤ saidGravity name := by
  unfold saidGravity
  split <;> decide

/-- The names in capital letters that stand for something else than a level. -/
def misnaming : List String :=
  ["BASIC_FORMAT", "_STYLES"]

theorem misnomer?_eq_none_iff {name : String} :
    misnomer? name = none ↔ capitals name ∉ misnaming := by
  unfold misnomer? misnaming
  generalize capitals name = capital
  by_cases layout : capital = "BASIC_FORMAT" <;> by_cases styles : capital = "_STYLES" <;>
    simp [misnomers, Entries.get?, layout, styles, eq_comm (b := capital)]

end Level

namespace Journal

variable {journal : Journal}

theorem setUpAll_eq (journal : Journal) (setups : List (String × JournalSetup)) :
    journal.setUpAll setups =
      barring (setups.findSome? fun setup => Level.misnomer? setup.2.level)
        (setups.foldl (fun journal setup => journal.configure setup.1 setup.2) journal) := by
  induction setups generalizing journal with
  | nil => rfl
  | cons setup rest ih =>
      unfold setUpAll at ih ⊢
      rw [List.foldlM_cons, List.findSome?_cons, setUp]
      cases Level.misnomer? setup.2.level with
      | some misnomer => rfl
      | none => exact ih _

/-- After setups messages go where the last one says: to the console if they are grave enough, to
the file if one is asked for and there is an action to name it after, and nowhere else. -/
def CountsLast (journal : Journal) (earlier : List (String × JournalSetup))
    (last : String × JournalSetup) (messages : List (Int × String)) : Prop :=
  ∃ ready, journal.setUpAll (earlier ++ [last]) = .ok ready ∧
    (ready.writeEach messages).handsOn = false ∧
    ready.HasTaken (ready.writeEach messages) (Level.saidGravity last.2.level)
      (if last.2.toFile = true ∧ last.2.action ≠ "" then some (last.2.path last.1).resolved
        else none) messages

theorem ownFile_eq (stamp : String) (setup : JournalSetup) :
    ownFile stamp setup =
      if setup.toFile = true ∧ setup.action ≠ "" then some (setup.path stamp).resolved
      else none := by
  unfold ownFile JournalSetup.file? JournalSetup.keepsFile
  by_cases filed : setup.toFile = true <;> by_cases named : setup.action = "" <;>
    simp [filed, named]

/-- Messages go where the last setup says exactly when no setup has a name for its level that stands
for something else than a level. With such a name nothing is set up. -/
theorem countsLast_iff (journal : Journal) (earlier : List (String × JournalSetup))
    (last : String × JournalSetup) (leveled : Level.capitals last.2.level ≠ "NOTSET")
    (messages : List (Int × String)) :
    (journal.CountsLast earlier last messages ↔
        ∀ setup ∈ earlier ++ [last], Level.capitals setup.2.level ∉ Level.misnaming) ∧
      ((∃ misnomer, journal.setUpAll (earlier ++ [last]) = .error misnomer) ↔
        ∃ setup ∈ earlier ++ [last], Level.capitals setup.2.level ∈ Level.misnaming) := by
  have set_up := journal.setUpAll_eq (earlier ++ [last])
  have clean_iff : ((earlier ++ [last]).findSome? fun setup => Level.misnomer? setup.2.level) =
      none ↔ ∀ setup ∈ earlier ++ [last], Level.capitals setup.2.level ∉ Level.misnaming := by
    simp only [List.findSome?_eq_none_iff, Level.misnomer?_eq_none_iff]
  refine ⟨⟨?_, ?_⟩, ?_⟩
  · rintro ⟨ready, got_through, _⟩
    rw [set_up, barring_eq_ok_iff] at got_through
    exact clean_iff.mp got_through.1
  · intro clean
    rw [clean_iff.mpr clean, barring_none, List.foldl_append] at set_up
    have kept := isKeptAs_configure (earlier.foldl
      (fun journal setup => journal.configure setup.1 setup.2) journal) last.1 last.2
    have same := Level.gravityOf_eq_saidGravity leveled
    refine ⟨_, set_up, ?_, ?_⟩
    · exact (isKeptLike_writeEach _ messages).handsOn_eq.trans kept.handsOn_eq
    · rw [← same, ← ownFile_eq]
      exact hasTaken_writeEach kept (same ▸ Level.debug_le_saidGravity _) messages
  · have refused_iff : (∃ misnomer, journal.setUpAll (earlier ++ [last]) = .error misnomer) ↔
        ((earlier ++ [last]).findSome? fun setup => Level.misnomer? setup.2.level) ≠ none := by
      simp only [set_up, barring_eq_error_iff, Option.ne_none_iff_exists']
    rw [refused_iff, ne_eq, clean_iff]
    simp only [Classical.not_forall, Classical.not_not, exists_prop]

/-- Setups with one file under two names for its directory, and one with no file. -/
def threeSetups : List (String × JournalSetup) :=
  [("0601080000", ⟨"notset", "search", true, "old/../log"⟩),
    ("0601080000", ⟨"Error", "", true, "log"⟩),
    ("0601080000", ⟨"fAtal", "search", true, ""⟩)]

theorem countsLast_threeSetups :
    let last : String × JournalSetup := ("0601080000", ⟨"fAtal", "search", true, ""⟩)
    let messages : List (Int × String) := [(20, "begun"), (9, "detail"), (50, "over"), (10, "end")]
    Level.capitals last.2.level ≠ "NOTSET" ∧
      (∀ setup ∈ threeSetups ++ [last], Level.capitals setup.2.level ∉ Level.misnaming) ∧
      fresh.CountsLast threeSetups last messages ∧
      ((fresh.setUpAll (threeSetups ++ [last])).toOption.map fun ready =>
          ((ready.writeEach messages).console, (ready.writeEach messages).files)) =
        some ("[CRIT] over\n",
          [(["log", "search_0601080000.log"], "[INFO] begun\n[CRIT] over\n[DEBG] end\n")]) := by
  intro last messages
  have leveled : Level.capitals last.2.level ≠ "NOTSET" := by decide
  have clean : ∀ setup ∈ threeSetups ++ [last],
      Level.capitals setup.2.level ∉ Level.misnaming := by decide
  exact ⟨leveled, clean, (countsLast_iff fresh threeSetups last leveled messages).1.mpr clean,
    by decide +kernel⟩

theorem not_countsLast_layout :
    Level.capitals "basic_format" ≠ "NOTSET" ∧
      ¬fresh.CountsLast [] ("0601080000", ⟨"basic_format", "", false, "log"⟩) [(20, "hello")] := by
  refine ⟨by decide, ?_⟩
  rintro ⟨ready, got_through, _⟩
  exact absurd got_through nofun

end Journal

end EntrySearch
