import EntrySearch.Proofs.CommandLine.Invocation
import EntrySearch.Proofs.CommandLine.Stages
import EntrySearch.Proofs.Journal.Writing
import EntrySearch.Proofs.Json.Line
import EntrySearch.Proofs.Search.Hits
import EntrySearch.Proofs.Text.Pieces

/-!
# All or nothing

A search prints all the hits of the response or nothing, ends its session once and reports one error
if it fails. Whether the journal shows that error depends on how it is set up: one that is set to
critical records and kept in no file passes it over.
-/

namespace EntrySearch

open Traced Outcome

namespace Event

/-- The errors that were reported. -/
def errors (events : List Event) : List Record :=
  (records events).filter fun written => written.level = .error

theorem errors_append (left right : List Event) :
    errors (left ++ right) = errors left ++ errors right := by
  rw [errors, records, List.filterMap_append, List.filter_append]
  rfl

theorem lines_of_inner {events : List Event} (inner : ∀ event ∈ events, event.IsInner) :
    lines events = [] := by
  refine List.filterMap_eq_nil_iff.mpr fun event member => ?_
  have fine := inner event member
  cases event with
  | line text => exact fine.elim
  | _ => rfl

theorem closes_of_inner {events : List Event} (inner : ∀ event ∈ events, event.IsInner) :
    closes events = 0 := by
  refine List.countP_eq_zero.mpr fun event member => ?_
  have fine := inner event member
  cases event with
  | close => exact fine.elim
  | _ => exact Bool.false_ne_true

theorem errors_of_quiet {events : List Event} (quiet : ∀ event ∈ events, event.IsQuiet) :
    errors events = [] := by
  refine List.filter_eq_nil_iff.mpr fun written known => ?_
  obtain ⟨event, member, seen⟩ := List.mem_filterMap.mp known
  have fine := quiet event member
  cases event with
  | record other =>
      obtain rfl := Option.some.inj seen
      exact fun error => fine (of_decide_eq_true error)
  | _ => exact nomatch seen

theorem errors_of_inner {events : List Event} (inner : ∀ event ∈ events, event.IsInner) :
    errors events = [] :=
  errors_of_quiet fun event member => (inner event member).isQuiet

theorem map_line (texts : List String) :
    lines (texts.map line) = texts ∧ posts (texts.map line) = [] ∧ closes (texts.map line) = 0 ∧
      errors (texts.map line) = [] := by
  induction texts with
  | nil => exact ⟨rfl, rfl, rfl, rfl⟩
  | cons text rest ih =>
      obtain ⟨lines_eq, posts_eq, closes_eq, errors_eq⟩ := ih
      exact ⟨congrArg (text :: ·) lines_eq, posts_eq, closes_eq, errors_eq⟩

end Event

namespace CommandLine

/-- A journal that passes errors over: it shows critical records only, and is kept in no file. -/
def PassesErrorsOver (settings : JournalSettings) : Prop :=
  settings.level = .critical ∧ settings.toFile = false

instance (settings : JournalSettings) : Decidable (PassesErrorsOver settings) :=
  inferInstanceAs (Decidable (_ ∧ _))

theorem gravityOf_name (level : Level) : Level.gravityOf level.name = level.gravity := by
  cases level <;> decide

theorem isEnabled_error_iff (settings : JournalSettings) (action : Action) (stamp : String) :
    (Journal.fresh.configure stamp (journalSetup settings action)).isEnabled
        Level.error.gravity = true ↔ ¬PassesErrorsOver settings := by
  have gate_eq : (Journal.fresh.configure stamp (journalSetup settings action)).gate =
      if settings.toFile then Journal.fileThreshold else settings.level.gravity := by
    rw [(Journal.isKeptAs_configure _ _ _).gate_eq, keepsFile_journalSetup, ← gravityOf_name]
    rfl
  unfold Journal.isEnabled PassesErrorsOver
  rw [gate_eq, decide_eq_true_iff]
  cases settings.toFile with
  | true => simp [Journal.fileThreshold, Level.gravity]
  | false => cases settings.level <;> simp [Level.gravity]

namespace Report

/-- The records that the journal takes. -/
def logged (report : Report) : List Record :=
  (Event.records report.events).filter fun written =>
    report.journal.isEnabled written.level.gravity

/-- What a search does with given settings and a given server: it leaves nothing open, and it prints
everything or nothing. -/
structure IsAllOrNothing (settings : Settings) (server : Server) (report : Report) : Prop where
  /-- The session is ended once. -/
  closes_eq : Event.closes report.events = 1
  /-- There are at most four posts. -/
  posts_le : (Event.posts report.events).length ≤ 4
  /-- A search that fails prints nothing and reports one error, which the journal takes unless it
  passes errors over. -/
  of_failure : report.ending.exitCode ≠ 0 → report.output = "" ∧
    ∃ reason, Event.errors report.events = [⟨.error, "Search failed: " ++ reason⟩] ∧
      report.logged.filter (fun written => written.level = .error) =
        if PassesErrorsOver settings.journal then [] else [⟨.error, "Search failed: " ++ reason⟩]
  /-- A search that succeeds reports no error and prints a line for each hit of the response, which
  the last post is answered with, in the order of the response. -/
  of_success : report.ending.exitCode = 0 → Event.errors report.events = [] ∧
    ∃ passed post response hits, Event.posts report.events = List.replicate (passed + 1) post ∧
      (server passed).Settles post.url (.ok response) ∧
      List.Forall₂ (fun raw hit => Hit.ofValue raw = .ok hit) response.rawHits hits ∧
      Text.pieces (· = '\n') report.output.toList =
        (hits.map fun hit => hit.toValue.json.toList) ++ [[]]

theorem toList_output (report : Report) :
    report.output.toList =
      (Event.lines report.events).flatMap fun line => line.toList ++ ['\n'] := by
  have joined (lines : List String) (start : String) :
      (lines.foldl (· ++ ·) start).toList = start.toList ++ lines.flatMap String.toList := by
    induction lines generalizing start with
    | nil => simp
    | cons line rest ih => simp [ih, String.toList_append]
  rw [output, String.join, joined, List.flatMap_map]
  simp

theorem pieces_output {report : Report}
    (unbroken : ∀ line ∈ Event.lines report.events, '\n' ∉ line.toList) :
    Text.pieces (· = '\n') report.output.toList =
      (Event.lines report.events).map String.toList ++ [[]] := by
  rw [toList_output]
  generalize Event.lines report.events = lines at unbroken ⊢
  induction lines with
  | nil => rfl
  | cons line rest ih =>
      have here : ∀ c ∈ line.toList, decide (c = '\n') = false := fun c member =>
        decide_eq_false fun broken => unbroken line List.mem_cons_self (broken ▸ member)
      have later := ih fun other member => unbroken other (List.mem_cons_of_mem line member)
      rw [List.flatMap_cons, List.append_assoc, List.singleton_append,
        Text.pieces_append_cons here (decide_eq_true rfl), later]
      rfl

theorem filter_logged (report : Report) :
    report.logged.filter (fun written => written.level = .error) =
      (Event.errors report.events).filter fun written =>
        report.journal.isEnabled written.level.gravity :=
  List.filter_comm _ _ _

/-- The journal takes all the errors that are reported, unless it passes errors over. -/
theorem filter_logged_eq {settings : JournalSettings} {report : Report}
    (takes : report.journal.isEnabled Level.error.gravity = true ↔ ¬PassesErrorsOver settings) :
    report.logged.filter (fun written => written.level = .error) =
      if PassesErrorsOver settings then [] else Event.errors report.events := by
  have severe : ∀ written ∈ Event.errors report.events, written.level = .error :=
    fun written known => of_decide_eq_true (List.mem_filter.mp known).2
  rw [filter_logged]
  by_cases hushed : PassesErrorsOver settings
  · rw [if_pos hushed]
    refine List.filter_eq_nil_iff.mpr fun written known => ?_
    rw [severe written known]
    exact mt takes.mp (not_not_intro hushed)
  · rw [if_neg hushed]
    refine List.filter_eq_self.mpr fun written known => ?_
    rw [severe written known]
    exact takes.mpr hushed

section Endings

variable {settings : Settings} {server : Server} {journal : Journal} {trace : List Event}

theorem isAllOrNothing_of_failure
    (takes : journal.isEnabled Level.error.gravity = true ↔ ¬PassesErrorsOver settings.journal)
    (inner : ∀ event ∈ trace, event.IsInner) (few : (Event.posts trace).length ≤ Client.attempts)
    (reason : String) :
    IsAllOrNothing settings server
      ⟨trace ++ [.record ⟨.error, "Search failed: " ++ reason⟩, .close], journal, .aborted⟩ where
  closes_eq := by
    rw [Event.closes_append, Event.closes_of_inner inner]
    rfl
  posts_le := by
    have posts_eq :
        Event.posts (trace ++ [.record ⟨.error, "Search failed: " ++ reason⟩, .close]) =
          Event.posts trace := (Event.posts_append _ _).trans (List.append_nil _)
    exact posts_eq ▸ few
  of_failure _ := by
    have errors_eq :
        Event.errors (trace ++ [.record ⟨.error, "Search failed: " ++ reason⟩, .close]) =
          [⟨.error, "Search failed: " ++ reason⟩] := by
      rw [Event.errors_append, Event.errors_of_inner inner]
      rfl
    have lines_eq :
        Event.lines (trace ++ [.record ⟨.error, "Search failed: " ++ reason⟩, .close]) = [] := by
      rw [Event.lines_append, Event.lines_of_inner inner]
      rfl
    refine ⟨?_, reason, errors_eq, ?_⟩
    · rw [output, lines_eq]
      rfl
    · rw [filter_logged_eq takes, errors_eq]
  of_success succeeded := nomatch succeeded

/-- Hits that are printed stand in the output, each on a line. -/
theorem pieces_output_hits (inner : ∀ event ∈ trace, event.IsInner) (hits : List Hit)
    (message : String) :
    Text.pieces (· = '\n') (output ⟨trace ++ (hits.map fun hit => hit.toValue.json).map .line ++
        [.record ⟨.info, message⟩, .close], journal, .done⟩).toList =
      (hits.map fun hit => hit.toValue.json.toList) ++ [[]] := by
  have lines_eq : Event.lines (trace ++ (hits.map fun hit => hit.toValue.json).map .line ++
      [.record ⟨.info, message⟩, .close]) = hits.map fun hit => hit.toValue.json := by
    rw [Event.lines_append, Event.lines_append, (Event.map_line _).1, Event.lines_of_inner inner]
    exact List.append_nil _
  rw [pieces_output, lines_eq, List.map_map]
  · rfl
  · rw [lines_eq]
    intro line printed
    obtain ⟨hit, _, rfl⟩ := List.mem_map.mp printed
    exact hit.toValue.not_mem_json

theorem isAllOrNothing_of_success (inner : ∀ event ∈ trace, event.IsInner)
    (few : (Event.posts trace).length ≤ Client.attempts) {passed : Nat} {post : Post}
    {response : Value} {hits : List Hit}
    (posts : Event.posts trace = List.replicate (passed + 1) post)
    (settles : (server passed).Settles post.url (.ok response))
    (taken : List.Forall₂ (fun raw hit => Hit.ofValue raw = .ok hit) response.rawHits hits)
    (message : String) :
    IsAllOrNothing settings server
      ⟨trace ++ (hits.map fun hit => hit.toValue.json).map .line ++
        [.record ⟨.info, message⟩, .close], journal, .done⟩ := by
  obtain ⟨_, posts_printed, closes_printed, errors_printed⟩ :=
    Event.map_line (hits.map fun hit => hit.toValue.json)
  have posts_eq : Event.posts (trace ++ (hits.map fun hit => hit.toValue.json).map .line ++
      [.record ⟨.info, message⟩, .close]) = Event.posts trace := by
    rw [Event.posts_append, Event.posts_append, posts_printed, List.append_nil]
    exact List.append_nil _
  refine ⟨?_, posts_eq ▸ few, fun failed => absurd rfl failed, fun _ =>
    ⟨?_, passed, post, response, hits, posts_eq.trans posts, settles, taken,
      pieces_output_hits inner hits message⟩⟩
  · rw [Event.closes_append, Event.closes_append, closes_printed, Event.closes_of_inner inner]
    rfl
  · rw [Event.errors_append, Event.errors_append, errors_printed, Event.errors_of_inner inner]
    rfl

end Endings

end Report

variable (world : World) (policy : Policy) (client : Client) (inquiry : Inquiry)

/-- A search fails while nothing is printed, or prints all the hits of a response. -/
theorem lookUp_cases :
    ∃ trace, (∀ event ∈ trace, event.IsInner) ∧ (Event.posts trace).length ≤ Client.attempts ∧
      ((∃ fault, lookUp world policy client inquiry = ⟨trace, .error fault⟩) ∨
        ∃ passed post response hits message,
          Event.posts trace = List.replicate (passed + 1) post ∧
          (world.server passed).Settles post.url (.ok response) ∧
          List.Forall₂ (fun raw hit => Hit.ofValue raw = .ok hit) response.rawHits hits ∧
          lookUp world policy client inquiry =
            ⟨trace ++ (hits.map fun hit => hit.toValue.json).map .line ++
              [.record ⟨.info, message⟩], .ok ()⟩) := by
  rw [lookUp_eq]
  have inner : Only Event.IsInner (requestFor world policy inquiry) := by
    rintro _ member
    obtain ⟨written, rfl, calm⟩ := only_requestFor world policy inquiry _ member
    exact calm
  obtain ⟨no_posts, _⟩ := light_requestFor world policy inquiry
  generalize requestFor world policy inquiry = made at inner no_posts ⊢
  obtain ⟨before, fault | request⟩ := made
  · refine ⟨before, inner, ?_, .inl ⟨fault, rfl⟩⟩
    rw [no_posts]
    exact Nat.zero_le _
  · have found_inner := only_resultOf world client request
    obtain ⟨count, most, _, posts⟩ := posts_resultOf world client request
    have settled (result : SearchResult)
        (ended : (resultOf world client request).outcome = .ok result) :=
      settles_of_resultOf world client ended
    rw [ok_bind]
    generalize resultOf world client request = found at found_inner posts settled ⊢
    have inner_both : ∀ event ∈ before ++ found.trace, event.IsInner :=
      List.forall_mem_append.mpr ⟨inner, found_inner⟩
    have posts_both :
        Event.posts (before ++ found.trace) = List.replicate count (client.post request) := by
      rw [Event.posts_append, no_posts, posts, List.nil_append]
    have few : (Event.posts (before ++ found.trace)).length ≤ Client.attempts := by
      rw [posts_both, List.length_replicate]
      exact most
    obtain ⟨during, fault | result⟩ := found
    · exact ⟨before ++ during, inner_both, few, .inl ⟨fault, rfl⟩⟩
    · obtain ⟨passed, response, posted, settles, taken⟩ := settled result rfl
      have written := SearchResult.ofResponse_writable settles.isWritable result taken
      obtain ⟨message, presented⟩ := present_eq written
      refine ⟨before ++ during, inner_both, few, .inr ⟨passed, client.post request, response,
        result.hits, message, ?_, settles, SearchResult.hits_of_ofResponse taken, ?_⟩⟩
      · rw [posts_both, ← posts, posted]
      · rw [ok_bind, presented]
        simp only [List.append_assoc]

theorem perform_search {world : World} {settings : Settings} {inquiry : Inquiry}
    (searches : inquiry.action = .search)
    (kept : journalFault? world.files (journalSetup settings.journal .search) world.stamp = none) :
    perform world settings inquiry =
      let client := Client.connect settings.engine.url (some (.real settings.engine.timeout))
      let settled := settle .search (lookUp world settings.search client inquiry)
      let events := settled.1 ++ [.close]
      ⟨events, (Journal.fresh.configure world.stamp
        (journalSetup settings.journal .search)).writeAll (Event.records events), settled.2⟩ := by
  unfold perform carryOut
  dsimp only
  rw [searches, kept]

/-- A search that is carried out is all or nothing, whatever the server answers. -/
theorem search_all_or_nothing {world : World} {arguments : List String} {settings : Settings}
    {inquiry : Inquiry} (accepts : Accepts world arguments settings inquiry)
    (searches : inquiry.action = .search)
    (kept : journalFault? world.files (journalSetup settings.journal .search) world.stamp = none) :
    (run world arguments).IsAllOrNothing settings world.server := by
  rw [run_of_accepts accepts, perform_search searches kept]
  obtain ⟨trace, inner, few, ⟨fault, looked⟩ |
      ⟨passed, post, response, hits, message, posts, settles, taken, looked⟩⟩ :=
    lookUp_cases world settings.search
      (Client.connect settings.engine.url (some (.real settings.engine.timeout))) inquiry
  all_goals dsimp only
  · have worded : s!"{Action.search.title} failed: {fault.message}" =
        "Search failed: " ++ fault.message :=
      congrArg (· ++ fault.message) (show "Search" ++ " failed: " = "Search failed: " by decide)
    have settled : settle .search ⟨trace, .error fault⟩ =
        (trace ++ [.record ⟨.error, "Search failed: " ++ fault.message⟩], .aborted) := by
      rw [← worded]
      rfl
    rw [looked, settled, List.append_assoc]
    refine Report.isAllOrNothing_of_failure ?_ inner few fault.message
    rw [Journal.isEnabled_writeAll]
    exact isEnabled_error_iff settings.journal .search world.stamp
  · have settled (events : List Event) : settle .search ⟨events, .ok ()⟩ = (events, .done) := rfl
    rw [looked, settled, List.append_assoc _ _ [Event.close]]
    exact Report.isAllOrNothing_of_success inner few posts settles taken message

/-- A world in which the server is busy at first and then finds two entries. -/
def patient : World where
  files := []
  environment := []
  zone := .utc
  now := .epoch
  stamp := "0601080000"
  server := .ofList [.ok ⟨503, "", ""⟩,
    .ok ⟨200, "",
      "\x7b\"hits\":\x7b\"hits\":[\x7b\"_id\":7,\"_source\":[[\"id\",8]]\x7d,\x7b\x7d]\x7d\x7d"⟩]
  jitter := 0.0

theorem search_all_or_nothing_patient :
    ∃ settings inquiry, Accepts patient ["search", "-p", "tags=ops"] settings inquiry ∧
      inquiry.action = .search ∧
      journalFault? patient.files (journalSetup settings.journal .search) patient.stamp = none ∧
      (run patient ["search", "-p", "tags=ops"]).IsAllOrNothing settings patient.server ∧
      (run patient ["search", "-p", "tags=ops"]).output =
        "\x7b\"id\": 8, \"score\": null\x7d\n\x7b\"id\": \"\", \"score\": null\x7d\n" := by
  let journal (settings : Settings) : JournalSettings := settings.journal
  obtain ⟨settings, loaded, seen⟩ : ∃ settings, patient.settings defaultSettings = .ok settings ∧
      journal settings = ⟨.info, false, "log"⟩ :=
    exists_ok_of_map_toOption journal (by decide +kernel)
  have accepts : Accepts patient ["search", "-p", "tags=ops"] settings
      ⟨.search, QueryString.collect ["tags=ops"] none, none⟩ :=
    .intro rfl rfl rfl (by decide) loaded rfl
  have kept :
      journalFault? patient.files (journalSetup settings.journal .search) patient.stamp = none := by
    rw [show settings.journal = _ from seen]
    decide
  exact ⟨settings, _, accepts, rfl, kept, search_all_or_nothing accepts rfl kept,
    by decide +kernel⟩

/-- A world in which the journal passes errors over and the server fails. -/
def hushed : World :=
  { patient with
    files := [(["my.yml"], "log:\n  level: CRITICAL\n")]
    server := .ofList [.ok ⟨500, "Oops", "\x7b\x7d"⟩] }

theorem not_logged_hushed :
    ∃ settings inquiry, Accepts hushed ["--config", "my.yml", "search"] settings inquiry ∧
      inquiry.action = .search ∧
      journalFault? hushed.files (journalSetup settings.journal .search) hushed.stamp = none ∧
      (run hushed ["--config", "my.yml", "search"]).ending.exitCode ≠ 0 ∧
      ∀ reason, (run hushed ["--config", "my.yml", "search"]).logged.filter
        (fun written => written.level = .error) ≠ [⟨.error, "Search failed: " ++ reason⟩] := by
  let journal (settings : Settings) : JournalSettings := settings.journal
  obtain ⟨settings, loaded, seen⟩ : ∃ settings, hushed.settings "my.yml" = .ok settings ∧
      journal settings = ⟨.critical, false, "log"⟩ :=
    exists_ok_of_map_toOption journal (by decide +kernel)
  have accepts : Accepts hushed ["--config", "my.yml", "search"] settings
      ⟨.search, QueryString.collect [] none, none⟩ :=
    .intro rfl rfl rfl (by decide) loaded rfl
  have kept :
      journalFault? hushed.files (journalSetup settings.journal .search) hushed.stamp = none := by
    rw [show settings.journal = _ from seen]
    decide
  have failed : (run hushed ["--config", "my.yml", "search"]).ending.exitCode = 1 := by
    decide +kernel
  have untaken : (run hushed ["--config", "my.yml", "search"]).logged.filter
      (fun written => written.level = .error) = [] := by decide +kernel
  refine ⟨settings, _, accepts, rfl, kept, ?_, fun reason => ?_⟩
  · rw [failed]
    decide
  · rw [untaken]
    exact (List.cons_ne_nil _ _).symm

end CommandLine

end EntrySearch
