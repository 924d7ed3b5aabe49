import EntrySearch.Proofs.CommandLine.Invocation
import EntrySearch.Proofs.CommandLine.Stages
import EntrySearch.Proofs.Text.Pieces

/-!
# A preview of a search

The command that only compiles is a preview of the one that searches: it prints the request that the
other one posts, and it fails when the other one posts nothing. This holds for every inquiry that
says what the present is, also when the two commands run at different times.
-/

namespace EntrySearch

open Traced

theorem FilePath.ofText_append_name (directory : String) {name : String}
    (plain : '/' ∉ name.toList) (filled : name ≠ "") (other : name ≠ ".") :
    ofText (directory ++ "/" ++ name) = ofText (directory ++ "/") ++ [name] := by
  have long : (directory ++ "/" ++ name).toList = directory.toList ++ '/' :: name.toList := by simp
  have short : (directory ++ "/").toList = directory.toList ++ '/' :: [] := by simp
  have whole : Text.pieces (· = '/') name.toList = [name.toList] :=
    Text.pieces_eq_singleton fun c member => decide_eq_false fun slash => plain (slash ▸ member)
  have head : (directory.toList ++ '/' :: name.toList).head? =
      (directory.toList ++ '/' :: []).head? := by
    cases directory.toList <;> rfl
  have kept : List.filter (fun part => decide (part ≠ "" ∧ part ≠ ".")) [name] = [name] := by
    simp [filled, other]
  unfold ofText
  rw [long, short, head, Text.pieces_append (decide_eq_true rfl),
    Text.pieces_append (decide_eq_true rfl), whole]
  simp only [Text.pieces, List.map_append, List.map_cons, List.map_nil, List.filter_append,
    String.ofList_toList, kept]
  split
  · simp
  · simp

namespace CommandLine

/-- Two moments in one place: the same files, read in the same way, the same environment and the
same time zone. -/
structure World.IsPlaceOf (before after : World) : Prop where
  /-- The files are the same. -/
  files : before.files = after.files
  /-- The environment is the same. -/
  environment : before.environment = after.environment
  /-- The time zone is the same. -/
  zone : before.zone = after.zone
  /-- Settings files are read in the same way. -/
  reader : before.reader = after.reader

/-- The directory of the journals that are kept in files, if they are. -/
def journalDirectory? (settings : JournalSettings) : Option FilePath :=
  if settings.toFile then
    some (FilePath.ofText
      ((if settings.directory.isEmpty then "log" else settings.directory) ++ "/"))
  else none

theorem dropLast_file? (settings : JournalSettings) (action : Action) {stamp : String}
    (plain : '/' ∉ stamp.toList) :
    ((journalSetup settings action).file? stamp).map List.dropLast =
      journalDirectory? settings := by
  let name := action.name ++ "_" ++ stamp ++ ".log"
  have flat : '/' ∉ action.name.toList := by
    cases action <;> decide
  have name_plain : '/' ∉ name.toList := by
    simp [name, plain, flat]
  have long : 4 ≤ name.length := by
    simp only [name, String.length_append]
    exact Nat.le_add_left 4 _
  have filled : name ≠ "" := fun empty => absurd (empty ▸ long) (by decide)
  have other : name ≠ "." := fun dot => absurd (dot ▸ long) (by decide)
  have unrooted : ¬action.name.toList.head? = some '/' := fun rooted =>
    flat (List.mem_of_mem_head? rooted)
  have path (directory : String) :
      FilePath.ofText
          (if action.name.toList.head? = some '/' then name else s!"{directory}/{name}") =
        FilePath.ofText (directory ++ "/") ++ [name] := by
    rw [if_neg unrooted, ← FilePath.ofText_append_name directory name_plain filled other]
    simp [toString]
  unfold JournalSetup.file? journalDirectory?
  rw [keepsFile_journalSetup]
  cases settings.toFile with
  | false => rfl
  | true =>
      have path_eq : (journalSetup settings action).path stamp =
          FilePath.ofText
            ((if settings.directory.isEmpty then "log" else settings.directory) ++ "/") ++
            [name] := path _
      simp only [if_true, Option.map_some, path_eq, List.dropLast_concat]

theorem journalFault?_eq (files : Files) (settings : JournalSettings) (action other : Action)
    {stamp later : String} (plain : '/' ∉ stamp.toList) (later_plain : '/' ∉ later.toList) :
    journalFault? files (journalSetup settings action) stamp =
      journalFault? files (journalSetup settings other) later := by
  have fault_eq (setup : JournalSetup) (stamp : String) :
      journalFault? files setup stamp =
        ((setup.file? stamp).map List.dropLast).bind fun directory =>
          if files.any fun file => file.1 = directory then some .isFile
          else if files.any fun file => file.1.isPrefixOf directory then some .insideFile
          else none := by
    unfold journalFault?
    cases setup.file? stamp <;> rfl
  rw [fault_eq, fault_eq, dropLast_file? settings action plain,
    dropLast_file? settings other later_plain]

theorem requestFor_inquiry {before after : World} (place : before.IsPlaceOf after)
    (policy : Policy) {invocation : Invocation} (timed : invocation.now ≠ "")
    (action other : Action) :
    requestFor before policy (invocation.inquiry action) =
      requestFor after policy (invocation.inquiry other) := by
  have given : invocation.now.isEmpty = false := by simpa using timed
  simp [requestFor, presentTime, Invocation.inquiry, given, place.zone]

/-- A command ends well when its computation does, and is aborted otherwise. -/
theorem settle_cases (action : Action) (doing : Doing Unit) :
    doing.outcome = .ok () ∧ settle action doing = (doing.trace, .done) ∨
      ∃ fault, doing.outcome = .error fault ∧ settle action doing =
        (doing.trace ++ [.record ⟨.error, s!"{action.title} failed: {fault.message}"⟩],
          .aborted) := by
  unfold settle
  cases doing.outcome with
  | ok nothing => exact .inl ⟨rfl, rfl⟩
  | error fault => exact .inr ⟨fault, rfl, rfl⟩

theorem posts_settle (action : Action) (doing : Doing Unit) :
    Event.posts (settle action doing).1 = Event.posts doing.trace := by
  rcases settle_cases action doing with ⟨_, settled⟩ | ⟨fault, _, settled⟩
  · rw [settled]
  · rw [settled, Event.posts_append]
    exact List.append_nil _

theorem isWritable_printed (request : Request) :
    (Value.record [("index", .text request.index), ("body", request.body)]).isWritable =
      request.body.isWritable := by
  simp [Value.isWritable, Value.record, Json.isWritable, Json.haveWritable, Json.isWritableScalar]

variable {before after : World}

/-- Either the request that one command prints is what the other one posts, or both commands are
aborted and nothing is posted. -/
theorem carryOut_previews (place : before.IsPlaceOf after) (settings : Settings)
    {invocation : Invocation} (timed : invocation.now ≠ "") :
    let compiled := carryOut before settings (invocation.inquiry .compile)
    let searched := carryOut after settings (invocation.inquiry .search)
    let client := Client.connect settings.engine.url (some (.real settings.engine.timeout))
    (∃ request : Request, compiled.2 = .done ∧
        Event.lines compiled.1 =
          [(Value.record [("index", .text request.index), ("body", request.body)]).jsonBlock] ∧
        ∃ count, 0 < count ∧
          Event.posts searched.1 = List.replicate count (client.post request)) ∨
      compiled.2 = .aborted ∧ searched.2 = .aborted ∧ Event.posts searched.1 = [] := by
  intro compiled searched client
  have compiled_eq : compiled =
      settle .compile (preview before settings.search (invocation.inquiry .compile)) := rfl
  have searched_eq : searched =
      ((settle .search
          (lookUp after settings.search client (invocation.inquiry .search))).1 ++ [.close],
        (settle .search (lookUp after settings.search client (invocation.inquiry .search))).2) := rfl
  rw [compiled_eq, searched_eq, preview_eq, lookUp_eq,
    requestFor_inquiry place settings.search timed .compile .search]
  dsimp only
  rw [Event.posts_append, posts_settle]
  obtain ⟨no_posts, no_lines⟩ :=
    light_requestFor after settings.search (invocation.inquiry .search)
  generalize requestFor after settings.search (invocation.inquiry .search) = made
    at no_posts no_lines ⊢
  obtain ⟨written, fault | request⟩ := made
  · refine .inr ⟨rfl, rfl, ?_⟩
    rw [error_bind, no_posts]
    rfl
  · obtain ⟨count, _, counted, posts⟩ := posts_resultOf after client request
    rw [ok_bind, ok_bind, Event.posts_append, no_posts, posts_bind_present, posts]
    cases possible : request.body.isWritable with
    | true =>
        have positive : 0 < count := counted.mpr possible
        have printed : showRequest request = Traced.emit (.line
            (Value.record [("index", .text request.index), ("body", request.body)]).jsonBlock) :=
          if_pos ((isWritable_printed request).trans possible)
        rw [printed]
        refine .inl ⟨request, rfl, ?_, count, positive, ?_⟩
        · show Event.lines (written ++ [_]) = _
          rw [Event.lines_append, no_lines]
          rfl
        · simp [Event.posts, Event.post?]
    | false =>
        obtain rfl : count = 0 := Nat.eq_zero_of_not_pos fun positive =>
          Bool.false_ne_true (possible ▸ counted.mp positive)
        have refused : showRequest request = Traced.fail .unwritable :=
          if_neg (by rw [isWritable_printed, possible]; decide)
        rw [refused]
        refine .inr ⟨rfl, ?_, rfl⟩
        obtain ⟨fault, failed⟩ := failed_of_unwritable after client possible
        unfold settle
        rw [outcome_bind, failed]
        rfl

theorem World.IsPlaceOf.settings_eq (place : before.IsPlaceOf after) (path : String) :
    before.settings path = after.settings path := by
  rw [World.settings, World.settings, place.reader, place.files, place.environment]

theorem World.IsPlaceOf.mistakesForFile_iff (place : before.IsPlaceOf after) (path : String) :
    before.MistakesForFile path ↔ after.MistakesForFile path := by
  rw [World.MistakesForFile, World.MistakesForFile, place.files]

/-- The report of the command that compiles, as a preview of the one of the command that searches,
for the outcome of loading the settings. -/
structure Report.Previews (loaded : Except LoadFault Settings) (compiled searched : Report) :
    Prop where
  /-- The first command ends well exactly when the second one posts something. -/
  succeeds_iff : compiled.ending.exitCode = 0 ↔ Event.posts searched.events ≠ []
  /-- If it does, it prints what every post carries and where it goes. -/
  shows : compiled.ending.exitCode = 0 → ∃ settings index body, loaded = .ok settings ∧
    compiled.output = (Value.record [("index", .text index), ("body", body)]).jsonBlock ++ "\n" ∧
    ∀ post ∈ Event.posts searched.events, post.body = body ∧
      post.url = Client.withoutSlashes settings.engine.url ++ "/" ++ index ++ "/_search"
  /-- If it does not, nothing is posted, and the second command ends in the same way. -/
  fails : compiled.ending.exitCode ≠ 0 →
    Event.posts searched.events = [] ∧ searched.ending = compiled.ending

/-- Two commands that end before anything is done. -/
theorem Report.previews_ofEnding (loaded : Except LoadFault Settings) {ending : Ending}
    (failed : ending.exitCode ≠ 0) :
    Report.Previews loaded (.ofEnding ending) (.ofEnding ending) where
  succeeds_iff := ⟨fun ended => absurd ended failed, fun posted => absurd rfl posted⟩
  shows ended := absurd ended failed
  fails _ := ⟨rfl, rfl⟩

theorem previews_perform (place : before.IsPlaceOf after) (plain : '/' ∉ before.stamp.toList)
    (later_plain : '/' ∉ after.stamp.toList) (settings : Settings) {invocation : Invocation}
    (timed : invocation.now ≠ "") :
    Report.Previews (.ok settings) (perform before settings (invocation.inquiry .compile))
      (perform after settings (invocation.inquiry .search)) := by
  have journal : journalFault? before.files (journalSetup settings.journal .compile) before.stamp =
      journalFault? after.files (journalSetup settings.journal .search) after.stamp := by
    rw [place.files]
    exact journalFault?_eq after.files settings.journal .compile .search plain later_plain
  have previews := carryOut_previews place settings timed
  unfold perform
  dsimp only [Invocation.inquiry] at journal previews ⊢
  rw [journal]
  cases journalFault? after.files (journalSetup settings.journal .search) after.stamp with
  | some fault => exact Report.previews_ofEnding _ (Nat.succ_ne_zero _)
  | none =>
      dsimp only
      rcases previews with ⟨request, done, lines, count, positive, posts⟩ | ⟨failed, aborted, none⟩
      · refine ⟨⟨fun _ => ?_, fun _ => ?_⟩, fun _ => ?_, fun failed => ?_⟩
        · rw [posts]
          exact (List.replicate_eq_nil_iff _).not.mpr (Nat.ne_of_gt positive)
        · rw [done]
          rfl
        · refine ⟨settings, request.index, request.body, rfl, ?_, fun post member => ?_⟩
          · rw [Report.output, lines]
            simp
          · rw [posts] at member
            rw [List.eq_of_mem_replicate member]
            exact ⟨rfl, rfl⟩
        · rw [done] at failed
          exact absurd rfl failed
      · refine ⟨⟨fun succeeded => ?_, fun posted => absurd none posted⟩, fun succeeded => ?_,
          fun _ => ⟨none, aborted.trans failed.symm⟩⟩
        · rw [failed] at succeeded
          exact nomatch succeeded
        · rw [failed] at succeeded
          exact nomatch succeeded

/-- The command that compiles is a faithful preview of the one that searches. -/
theorem compile_previews_search (place : before.IsPlaceOf after)
    (plain : '/' ∉ before.stamp.toList) (later_plain : '/' ∉ after.stamp.toList)
    (invocation : Invocation) (timed : invocation.now ≠ "") :
    Report.Previews (after.settings invocation.settingsFile)
      (run before (invocation.arguments .compile)) (run after (invocation.arguments .search)) := by
  rw [Invocation.run_arguments, Invocation.run_arguments, place.settings_eq]
  by_cases mistaken : after.MistakesForFile invocation.settingsFile
  · rw [if_pos ((place.mistakesForFile_iff _).mpr mistaken), if_pos mistaken]
    exact Report.previews_ofEnding _ (Nat.succ_ne_zero _)
  · rw [if_neg (mt (place.mistakesForFile_iff _).mp mistaken), if_neg mistaken]
    cases after.settings invocation.settingsFile with
    | error fault => exact Report.previews_ofEnding _ (Nat.succ_ne_zero _)
    | ok settings => exact previews_perform place plain later_plain settings timed

/-- A world with a settings file, in the morning. -/
def morning : World where
  files := [(["week.yml"], "search:\n  index: ops\n")]
  environment := []
  zone := .utc
  now := .epoch
  stamp := "0601080000"
  server := .ofList []
  jitter := 0.0

/-- The same world in the evening, when the server is busy at first. -/
def evening : World :=
  { morning with
    now := ⟨⟨⟨1970, 1, 1⟩, 18, 0, 0, 0⟩, 0⟩
    stamp := "0601180000"
    server := .ofList [.ok ⟨503, "", ""⟩, .ok ⟨200, "", "\x7b\x7d"⟩] }

/-- A search for the entries of a week. -/
def weekly : Invocation where
  config := some "week.yml"
  pairs := ["start=2024-05-25 00:00:00.000", "tags=ops"]
  query := some "title=beam+loss"
  now := "2024-06-01 12:00:00.000"

theorem compile_previews_search_weekly :
    let compiled := run morning (weekly.arguments .compile)
    let searched := run evening (weekly.arguments .search)
    ('/' ∉ morning.stamp.toList ∧ '/' ∉ evening.stamp.toList ∧ weekly.now ≠ "") ∧
      compiled.ending.exitCode = 0 ∧
      Report.Previews (evening.settings weekly.settingsFile) compiled searched ∧
      Event.posts searched.events ≠ [] := by
  have place : morning.IsPlaceOf evening := ⟨rfl, rfl, rfl, rfl⟩
  have plain : '/' ∉ morning.stamp.toList := by decide
  have later_plain : '/' ∉ evening.stamp.toList := by decide
  have timed : weekly.now ≠ "" := by decide
  have previews := compile_previews_search place plain later_plain weekly timed
  have succeeds : (run morning (weekly.arguments .compile)).ending.exitCode = 0 := by
    decide +kernel
  exact ⟨⟨plain, later_plain, timed⟩, succeeds, previews, previews.succeeds_iff.mp succeeds⟩

end CommandLine

end EntrySearch
