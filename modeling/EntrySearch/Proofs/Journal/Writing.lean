import EntrySearch.Journal.Journal

/-!
# Writing to a journal

Whatever is written, a journal goes on being kept as it is. What a message adds to the console, to a
file and to what is handed on is said once for the outlets of a setup, and then for messages one
after another.
-/

namespace EntrySearch

namespace Journal

/-- Two journals are kept alike: they look at the same gravities, have the same outlets, and both
hand records on or both do not. -/
structure IsKeptLike (journal other : Journal) : Prop where
  /-- They look at the same gravities. -/
  gate_eq : journal.gate = other.gate
  /-- They have the same outlets. -/
  outlets_eq : journal.outlets = other.outlets
  /-- They hand records on alike. -/
  handsOn_eq : journal.handsOn = other.handsOn

namespace IsKeptLike

variable {journal other last : Journal}

theorem refl (journal : Journal) : journal.IsKeptLike journal :=
  ⟨rfl, rfl, rfl⟩

theorem trans (first : journal.IsKeptLike other) (second : other.IsKeptLike last) :
    journal.IsKeptLike last :=
  ⟨first.gate_eq.trans second.gate_eq, first.outlets_eq.trans second.outlets_eq,
    first.handsOn_eq.trans second.handsOn_eq⟩

theorem isEnabled_eq (alike : journal.IsKeptLike other) : journal.isEnabled = other.isEnabled := by
  unfold isEnabled
  rw [alike.gate_eq]

end IsKeptLike

theorem isKeptLike_deliver (gravity : Int) (text : String) (journal : Journal) (outlet : Outlet) :
    (deliver gravity text journal outlet).IsKeptLike journal := by
  unfold deliver
  split
  · cases outlet.place <;> exact ⟨rfl, rfl, rfl⟩
  · exact .refl journal

theorem isKeptLike_handOn (journal : Journal) (gravity : Int) (message : String) :
    (journal.handOn gravity message).IsKeptLike journal := by
  unfold handOn
  split
  · exact ⟨rfl, rfl, rfl⟩
  · exact .refl journal

theorem isKeptLike_write (journal : Journal) (gravity : Int) (message : String) :
    (journal.write gravity message).IsKeptLike journal := by
  have delivered (outlets : List Outlet) (text : String) (other : Journal) :
      (outlets.foldl (deliver gravity text) other).IsKeptLike other := by
    induction outlets generalizing other with
    | nil => exact .refl other
    | cons outlet rest ih => exact (ih _).trans (isKeptLike_deliver gravity text other outlet)
  unfold write
  split
  · exact (isKeptLike_handOn _ gravity message).trans (delivered _ _ journal)
  · exact .refl journal

theorem isKeptLike_writeEach (journal : Journal) (messages : List (Int × String)) :
    (journal.writeEach messages).IsKeptLike journal := by
  induction messages generalizing journal with
  | nil => exact .refl journal
  | cons message rest ih => exact (ih _).trans (journal.isKeptLike_write message.1 message.2)

theorem isEnabled_writeAll (journal : Journal) (records : List Record) :
    (journal.writeAll records).isEnabled = journal.isEnabled :=
  (journal.isKeptLike_writeEach _).isEnabled_eq

/-- Messages as lines. -/
def linesOf (messages : List (Int × String)) : String :=
  String.join (messages.map fun message => line message.1 message.2)

theorem linesOf_append (first second : List (Int × String)) :
    linesOf (first ++ second) = linesOf first ++ linesOf second := by
  rw [linesOf, List.map_append, String.join_append]
  rfl

/-- What a file holds. -/
def contents (path : FilePath) (journal : Journal) : String :=
  (Entries.get? path journal.files).getD ""

/-- How a journal is kept after a setup with a stamp. -/
structure IsKeptAs (journal : Journal) (stamp : String) (setup : JournalSetup) : Prop where
  /-- With a file all that the file keeps is looked at, and otherwise all that is shown. -/
  gate_eq : journal.gate =
    if setup.keepsFile then fileThreshold else Level.gravityOf setup.level
  /-- The outlets are those of the setup. -/
  outlets_eq : journal.outlets = setup.outlets stamp
  /-- Nothing is handed on. -/
  handsOn_eq : journal.handsOn = false

variable {before between after journal : Journal} {stamp : String} {setup : JournalSetup}

theorem isKeptAs_configure (journal : Journal) (stamp : String) (setup : JournalSetup) :
    (journal.configure stamp setup).IsKeptAs stamp setup where
  gate_eq := by
    unfold configure JournalSetup.outlets JournalSetup.file?
    cases setup.keepsFile <;> simp
  outlets_eq := rfl
  handsOn_eq := rfl

theorem IsKeptAs.of_isKeptLike (kept : before.IsKeptAs stamp setup)
    (alike : after.IsKeptLike before) : after.IsKeptAs stamp setup :=
  ⟨alike.gate_eq.trans kept.gate_eq, alike.outlets_eq.trans kept.outlets_eq,
    alike.handsOn_eq.trans kept.handsOn_eq⟩

/-- What messages have added to a journal: the console shows those from some gravity on, its own
file holds those that are not lighter than the lightest level, and nothing else has changed. -/
structure HasTaken (before after : Journal) (least : Int) (own : Option FilePath)
    (messages : List (Int × String)) : Prop where
  /-- The console shows each message that is grave enough, once and in order. -/
  console_eq : after.console =
    before.console ++ linesOf (messages.filter fun message => least ≤ message.1)
  /-- The file holds each message from the lightest level on, once and in order. -/
  own_eq : ∀ path ∈ own, after.contents path =
    before.contents path ++ linesOf (messages.filter fun message => Level.debug.gravity ≤ message.1)
  /-- All other files are as they were. -/
  other_eq : ∀ path ∉ own, after.contents path = before.contents path
  /-- Nothing was handed on. -/
  handedOn_eq : after.handedOn = before.handedOn

namespace HasTaken

variable {least : Int} {own : Option FilePath}

theorem nothing (journal : Journal) (least : Int) (own : Option FilePath) :
    journal.HasTaken journal least own [] :=
  ⟨String.append_empty.symm, fun _ _ => String.append_empty.symm, fun _ _ => rfl, rfl⟩

/-- Messages that are taken after others are taken behind them. -/
theorem trans {first second : List (Int × String)}
    (earlier : before.HasTaken between least own first)
    (later : between.HasTaken after least own second) :
    before.HasTaken after least own (first ++ second) where
  console_eq := by
    rw [later.console_eq, earlier.console_eq, List.filter_append, linesOf_append,
      String.append_assoc]
  own_eq path is_own := by
    rw [later.own_eq path is_own, earlier.own_eq path is_own, List.filter_append, linesOf_append,
      String.append_assoc]
  other_eq path other := (later.other_eq path other).trans (earlier.other_eq path other)
  handedOn_eq := later.handedOn_eq.trans earlier.handedOn_eq

end HasTaken

/-- The file that a setup keeps, steps back taken. -/
def ownFile (stamp : String) (setup : JournalSetup) : Option FilePath :=
  (setup.file? stamp).map FilePath.resolved

theorem write_of_no_file (kept : journal.IsKeptAs stamp setup) (filed : setup.keepsFile = false)
    (leveled : Level.gravityOf setup.level ≠ 0) (gravity : Int) (message : String) :
    journal.write gravity message =
      if Level.gravityOf setup.level ≤ gravity then
        { journal with console := journal.console ++ line gravity message }
      else journal := by
  have enabled : journal.isEnabled gravity = decide (Level.gravityOf setup.level ≤ gravity) := by
    unfold isEnabled
    rw [kept.gate_eq, filed, if_neg Bool.false_ne_true, if_neg leveled]
  have outlets : journal.outlets = [⟨.console, Level.gravityOf setup.level⟩] := by
    rw [kept.outlets_eq, JournalSetup.outlets, JournalSetup.file?, filed]
    rfl
  unfold write
  rw [enabled]
  by_cases shown : Level.gravityOf setup.level ≤ gravity
  · simp [shown, outlets, deliver, handOn, kept.handsOn_eq]
  · simp [shown]

theorem write_of_file (kept : journal.IsKeptAs stamp setup) (filed : setup.keepsFile = true)
    (gravity : Int) (message : String) :
    journal.write gravity message =
      if fileThreshold ≤ gravity then
        { journal with
          console :=
            if Level.gravityOf setup.level ≤ gravity then journal.console ++ line gravity message
            else journal.console
          files := Entries.upsert (setup.path stamp).resolved
            (fun old => old.getD "" ++ line gravity message) journal.files }
      else journal := by
  have enabled : journal.isEnabled gravity = decide (fileThreshold ≤ gravity) := by
    unfold isEnabled
    rw [kept.gate_eq, filed]
    rfl
  have outlets : journal.outlets =
      [⟨.console, Level.gravityOf setup.level⟩,
        ⟨.file (setup.path stamp).resolved, fileThreshold⟩] := by
    rw [kept.outlets_eq, JournalSetup.outlets, JournalSetup.file?, filed]
    rfl
  unfold write
  rw [enabled]
  by_cases looked : fileThreshold ≤ gravity
  · by_cases shown : Level.gravityOf setup.level ≤ gravity
    · simp [looked, shown, outlets, deliver, handOn, kept.handsOn_eq]
    · simp [looked, shown, outlets, deliver, handOn, kept.handsOn_eq]
  · simp [looked]

theorem contents_upsert (path other : FilePath) (text : String) (journal : Journal)
    (console : String) :
    contents other
        { journal with
          console
          files := Entries.upsert path (fun old => old.getD "" ++ text) journal.files } =
      if other = path then journal.contents other ++ text else journal.contents other := by
  by_cases same : other = path
  · subst same
    simp [contents, Entries.get?_upsert_self]
  · simp [contents, Entries.get?_upsert_of_ne same, same]

/-- A text with one message behind it, if the message is taken. -/
theorem append_linesOf_singleton (text : String) (least gravity : Int) (message : String) :
    text ++ linesOf ([(gravity, message)].filter fun message => least ≤ message.1) =
      if least ≤ gravity then text ++ line gravity message else text := by
  by_cases taken : least ≤ gravity <;> simp [linesOf, taken]

theorem hasTaken_write (kept : journal.IsKeptAs stamp setup)
    (leveled : Level.debug.gravity ≤ Level.gravityOf setup.level) (gravity : Int)
    (message : String) :
    journal.HasTaken (journal.write gravity message) (Level.gravityOf setup.level)
      (ownFile stamp setup) [(gravity, message)] := by
  cases filed : setup.keepsFile with
  | false =>
      have none_own : ownFile stamp setup = none := by
        rw [ownFile, JournalSetup.file?, filed]
        rfl
      have nonzero : Level.gravityOf setup.level ≠ 0 := by
        intro zero
        rw [zero] at leveled
        exact absurd leveled (by decide)
      rw [write_of_no_file kept filed nonzero, none_own]
      refine ⟨?_, fun _ is_own => absurd is_own (Option.not_mem_none _), fun path _ => ?_, ?_⟩
      · rw [append_linesOf_singleton]
        split <;> rfl
      · split <;> rfl
      · split <;> rfl
  | true =>
      have some_own : ownFile stamp setup = some (setup.path stamp).resolved := by
        rw [ownFile, JournalSetup.file?, filed]
        rfl
      rw [write_of_file kept filed, some_own]
      by_cases looked : Level.debug.gravity ≤ gravity
      · rw [if_pos (show fileThreshold ≤ gravity from looked)]
        refine ⟨(append_linesOf_singleton _ _ _ _).symm, fun path is_own => ?_,
          fun path other => ?_, rfl⟩
        · obtain rfl := Option.some.inj is_own
          rw [contents_upsert, if_pos rfl, append_linesOf_singleton, if_pos looked]
        · have distinct : path ≠ (setup.path stamp).resolved := fun same =>
            other (congrArg some same.symm)
          rw [contents_upsert, if_neg distinct]
      · rw [if_neg (show ¬fileThreshold ≤ gravity from looked)]
        have hidden : ¬Level.gravityOf setup.level ≤ gravity := fun shown =>
          looked (Int.le_trans leveled shown)
        refine ⟨?_, fun path _ => ?_, fun path _ => rfl, rfl⟩
        · rw [append_linesOf_singleton, if_neg hidden]
        · rw [append_linesOf_singleton, if_neg looked]

/-- What messages add, one after another: each of them leaves the journal kept as it is. -/
theorem hasTaken_writeEach (kept : journal.IsKeptAs stamp setup)
    (leveled : Level.debug.gravity ≤ Level.gravityOf setup.level)
    (messages : List (Int × String)) :
    journal.HasTaken (journal.writeEach messages) (Level.gravityOf setup.level)
      (ownFile stamp setup) messages := by
  induction messages generalizing journal with
  | nil => exact .nothing journal _ _
  | cons message rest ih =>
      have next := kept.of_isKeptLike (journal.isKeptLike_write message.1 message.2)
      exact (hasTaken_write kept leveled message.1 message.2).trans (ih next)

end Journal

end EntrySearch
