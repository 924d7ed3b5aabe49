import EntrySearch.Proofs.CommandLine.AllOrNothing
import EntrySearch.Proofs.CommandLine.Preview
import EntrySearch.Proofs.Json.RoundTrip
import EntrySearch.Proofs.Search.Responses

/-!
# What printed hits tell

The line that is printed for a hit is read back as an object with every entry that the hit stores.
It tells the identifier and the score of the hit if and only if the hit does not store something
else under these two names.
-/

namespace EntrySearch

open Outcome

namespace Value

/-- What a hit of a response stores is an object, or there is nothing. -/
def HasObjectSource (raw : Value) : Prop :=
  ∀ source, raw.field? "_source" = some source → source.IsObject ∨ source.isVoid = true

/-! ## Parts of values as JSON has them -/

theorem isJson_of_get? {key : Scalar} {entries : List (Scalar × Value)} {inner : Value}
    (known : Json.IsJson (.object entries)) (found : Entries.get? key entries = some inner) :
    Json.IsJson inner := by
  obtain ⟨entry, member, rfl⟩ := List.mem_map.mp (Entries.mem_snd_of_get? found)
  cases known with
  | object _ _ values => exact values entry member

theorem isJson_of_field? {value inner : Value} {key : String} (known : Json.IsJson value)
    (found : value.field? key = some inner) : Json.IsJson inner := by
  cases value with
  | object entries => exact isJson_of_get? known found
  | scalar | list => contradiction

theorem isJson_of_mem_parts? {value part : Value} {parts : List Value} (known : Json.IsJson value)
    (taken : value.parts? = some parts) (member : part ∈ parts) : Json.IsJson part := by
  cases known with
  | list items =>
      obtain rfl := Option.some.inj taken
      exact items part member
  | object _ keys _ =>
      obtain rfl := Option.some.inj taken
      obtain ⟨entry, inside, rfl⟩ := List.mem_map.mp member
      obtain ⟨s, key_eq⟩ := keys entry inside
      rw [key_eq]
      exact .scalar trivial
  | @scalar s _ =>
      cases s with
      | text s =>
          obtain rfl := Option.some.inj taken
          obtain ⟨c, _, rfl⟩ := List.mem_map.mp member
          exact .scalar trivial
      | _ => contradiction

theorem isJson_of_mem_rawHits {response raw : Value} (known : Json.IsJson response)
    (member : raw ∈ response.rawHits) : Json.IsJson raw := by
  unfold rawHits at member
  cases taken : ((response.field? "hits").bind (field? "hits")).bind parts? with
  | none =>
      rw [taken] at member
      contradiction
  | some parts =>
      rw [taken] at member
      obtain ⟨list, inner, taken⟩ := Option.bind_eq_some_iff.mp taken
      obtain ⟨found, outer, inner⟩ := Option.bind_eq_some_iff.mp inner
      exact isJson_of_mem_parts? (isJson_of_field? (isJson_of_field? known outer) inner) taken
        member

end Value

namespace Hit

/-- A hit with a score and a source as JSON has them. -/
structure IsJson (hit : Hit) : Prop where
  score : Json.IsJson hit.score
  source : Json.IsJson (.object hit.source)

theorem isJson_of_sourceOf {source : Value} {entries : List (Scalar × Value)}
    (known : Json.IsJson source) (fine : source.IsObject ∨ source.isVoid = true)
    (taken : sourceOf source = .ok entries) : Json.IsJson (.object entries) := by
  unfold sourceOf at taken
  split at taken
  · exact Except.ok.inj taken ▸ known
  · rename_i no_object
    rcases fine with ⟨stored, rfl⟩ | void
    · exact absurd rfl (no_object stored)
    · rw [if_pos void] at taken
      exact Except.ok.inj taken ▸ Json.isJson_ofPairs (List.forall_mem_nil _)

theorem isJson_of_ofValue {raw : Value} {hit : Hit} (known : Json.IsJson raw)
    (objects : raw.HasObjectSource) (taken : ofValue raw = .ok hit) : hit.IsJson := by
  have field {key : String} {otherwise : Value} (fine : Json.IsJson otherwise) :
      Json.IsJson ((raw.field? key).getD otherwise) := by
    cases found : raw.field? key with
    | none => exact fine
    | some inner => exact Value.isJson_of_field? known found
  have null : Json.IsJson .null := .scalar trivial
  have source_fine : ((raw.field? "_source").getD .null).IsObject ∨
      ((raw.field? "_source").getD .null).isVoid = true := by
    cases found : raw.field? "_source" with
    | none => exact .inr rfl
    | some source => exact objects source found
  unfold ofValue at taken
  split at taken
  · obtain ⟨source, stored, ended⟩ := bind_eq_ok_iff.mp taken
    obtain rfl := Except.ok.inj ended
    exact ⟨field null, isJson_of_sourceOf (field null) source_fine stored⟩
  · contradiction

/-- The entries of the object that is printed for a hit. -/
def entries (hit : Hit) : List (Scalar × Value) :=
  Entries.ofPairs ((.text "id", .text hit.id) :: (.text "score", hit.score) :: hit.source)

theorem IsJson.distinct {hit : Hit} (known : hit.IsJson) : Entries.Distinct hit.source := by
  cases known.source with
  | object distinct => exact distinct

theorem IsJson.toValue {hit : Hit} (known : hit.IsJson) : Json.IsJson hit.toValue := by
  obtain ⟨score, source⟩ := known
  cases source with
  | object _ keys values =>
      refine Json.isJson_ofPairs ?_
      simp only [List.forall_mem_cons]
      exact ⟨⟨⟨_, rfl⟩, .scalar trivial⟩, ⟨⟨_, rfl⟩, score⟩,
        fun entry member => ⟨keys entry member, values entry member⟩⟩

/-- The line that is printed for a hit is read back as its entries. -/
theorem IsJson.read_json {hit : Hit} (known : hit.IsJson) :
    Json.read hit.toValue.json = .ok (.object hit.entries) :=
  Json.read_json known.toValue

/-! ## What the entries tell -/

/-- Every entry that a hit stores is among other entries, with its value. -/
def IsStoredIn (hit : Hit) (entries : List (Scalar × Value)) : Prop :=
  ∀ key value, Entries.get? key hit.source = some value → Entries.get? key entries = some value

/-- Entries tell the identifier and the score of a hit and all that it stores. -/
structure IsToldBy (hit : Hit) (entries : List (Scalar × Value)) : Prop where
  id : Entries.get? (.text "id") entries = some (.text hit.id)
  score : Entries.get? (.text "score") entries = some hit.score
  stored : hit.IsStoredIn entries

/-- A hit does not store something else under the names of its identifier and its score. -/
structure KeepsNames (hit : Hit) : Prop where
  id : ∀ value, Entries.get? (.text "id") hit.source = some value → value = .text hit.id
  score : ∀ value, Entries.get? (.text "score") hit.source = some value → value = hit.score

/-- A key has the value that is stored for it, or else the one that the hit has. -/
theorem get?_entries {hit : Hit} (distinct : Entries.Distinct hit.source) (key : Scalar) :
    Entries.get? key hit.entries = (Entries.get? key hit.source).or
      (Entries.get? key [(.text "score", hit.score), (.text "id", .text hit.id)]) := by
  have stored : Entries.get? key hit.source.reverse = Entries.get? key hit.source := by
    rw [← (Entries.isTableOf_ofPairs hit.source).get?_eq, Entries.ofPairs_of_distinct distinct]
  rw [entries, (Entries.isTableOf_ofPairs _).get?_eq, List.reverse_cons, List.reverse_cons,
    List.append_assoc, Entries.get?_append, stored]
  rfl

theorem isStoredIn_entries {hit : Hit} (distinct : Entries.Distinct hit.source) :
    hit.IsStoredIn hit.entries := by
  intro key value found
  rw [get?_entries distinct, found]
  rfl

theorem isToldBy_entries_iff {hit : Hit} (distinct : Entries.Distinct hit.source) :
    hit.IsToldBy hit.entries ↔ hit.KeepsNames := by
  have or_eq {stored : Option Value} {own : Value} :
      stored.or (some own) = some own ↔ ∀ value, stored = some value → value = own := by
    cases stored <;> simp
  have id_eq : Entries.get? (.text "id") hit.entries =
      (Entries.get? (.text "id") hit.source).or (some (.text hit.id)) := get?_entries distinct _
  have score_eq : Entries.get? (.text "score") hit.entries =
      (Entries.get? (.text "score") hit.source).or (some hit.score) := get?_entries distinct _
  constructor
  · rintro ⟨id, score, -⟩
    exact ⟨or_eq.mp (id_eq.symm.trans id), or_eq.mp (score_eq.symm.trans score)⟩
  · rintro ⟨id, score⟩
    exact ⟨id_eq.trans (or_eq.mpr id), score_eq.trans (or_eq.mpr score),
      isStoredIn_entries distinct⟩

/-- A line is read back as an object that has all that a hit stores, and that tells its identifier
and its score too unless the hit stores something else under their names. -/
def IsShownAs (hit : Hit) (line : String) : Prop :=
  ∃ entries, Json.read line = .ok (.object entries) ∧ hit.IsStoredIn entries ∧
    (hit.IsToldBy entries ↔ hit.KeepsNames)

theorem IsJson.isShownAs {hit : Hit} (known : hit.IsJson) : hit.IsShownAs hit.toValue.json :=
  ⟨hit.entries, known.read_json, isStoredIn_entries known.distinct,
    isToldBy_entries_iff known.distinct⟩

end Hit

namespace SearchResult

/-- The hits of a response as JSON has it are as JSON has them, if what they store are objects. -/
theorem isJson_of_mem_hits {response : Value} {result : SearchResult}
    (known : Json.IsJson response) (objects : ∀ raw ∈ response.rawHits, raw.HasObjectSource)
    (taken : ofResponse response = .ok result) : ∀ hit ∈ result.hits, hit.IsJson := by
  have fine : ∀ raw ∈ response.rawHits, Json.IsJson raw ∧ raw.HasObjectSource :=
    fun raw member => ⟨Value.isJson_of_mem_rawHits known member, objects raw member⟩
  have each : List.Forall₂ (fun hit _ => Hit.IsJson hit) result.hits response.rawHits :=
    .flip (((List.forall₂_and_left _ _).mpr ⟨fine, hits_of_ofResponse taken⟩).imp
      fun _ _ ⟨⟨raw_known, object⟩, taken⟩ => Hit.isJson_of_ofValue raw_known object taken)
  intro hit member
  obtain ⟨_, hit_known⟩ := exists_forall₂_iff.mp ⟨_, each⟩ hit member
  exact hit_known

end SearchResult

theorem Answer.settles_json {entries : List (Scalar × Value)}
    (known : Json.IsJson (.object entries)) (url reason : String) :
    Answer.Settles url (.ok ⟨200, reason, (Value.object entries).json⟩)
      (.ok (.object entries)) := by
  refine .object (.inl (show (200 : Int) < 400 by decide)) ?_
  have text_eq :
      Reply.text ⟨200, reason, (Value.object entries).json⟩ = Json.line (.object entries) := by
    rw [Reply.text, Value.json, String.toList_ofList]
    rfl
  have read_back := Json.read_json known
  rw [Json.read, Value.json, String.toList_ofList] at read_back
  rw [text_eq]
  exact read_back

namespace CommandLine

open Traced

/-! ## Runs -/

variable {world : World} {settings : Settings} {inquiry : Inquiry} {passed : Nat} {post : Post}
  {response : Value} {result : SearchResult}

/-- If the answer to the last post gives a response that is taken, all its hits are printed. -/
theorem lookUp_of_settles {policy : Policy} {client : Client}
    (posted : Event.posts (lookUp world policy client inquiry).trace =
      List.replicate (passed + 1) post)
    (settles : (world.server passed).Settles post.url (.ok response))
    (taken : SearchResult.ofResponse response = .ok result) :
    ∃ trace message, (∀ event ∈ trace, event.IsInner) ∧
      lookUp world policy client inquiry =
        ⟨trace ++ (result.hits.map fun hit => hit.toValue.json).map .line ++
          [.record ⟨.info, message⟩], .ok ()⟩ := by
  rw [lookUp_eq] at posted ⊢
  have inner : Only Event.IsInner (requestFor world policy inquiry) := by
    rintro _ member
    obtain ⟨written, rfl, calm⟩ := only_requestFor world policy inquiry _ member
    exact calm
  obtain ⟨no_posts, _⟩ := light_requestFor world policy inquiry
  generalize requestFor world policy inquiry = made at inner no_posts posted ⊢
  obtain ⟨before, fault | request⟩ := made
  · rw [error_bind, no_posts] at posted
    contradiction
  · rw [ok_bind, Event.posts_append, no_posts, List.nil_append, posts_bind_present] at posted
    have found_inner := only_resultOf world client request
    have found_eq := resultOf_of_settles world client posted settles taken
    have written := SearchResult.ofResponse_writable settles.isWritable result taken
    obtain ⟨message, presented⟩ := present_eq written
    rw [ok_bind]
    generalize resultOf world client request = found at found_inner found_eq ⊢
    obtain ⟨during, outcome⟩ := found
    obtain rfl : outcome = .ok result := found_eq
    refine ⟨before ++ during, message, List.forall_mem_append.mpr ⟨inner, found_inner⟩, ?_⟩
    rw [ok_bind, presented]
    simp only [List.append_assoc]

/-- A search whose last post is answered with a response that is taken ends well and prints its
hits. -/
theorem search_prints_hits {arguments : List String}
    (accepts : Accepts world arguments settings inquiry) (searches : inquiry.action = .search)
    (kept : journalFault? world.files (journalSetup settings.journal .search) world.stamp = none)
    (posted : Event.posts (run world arguments).events = List.replicate (passed + 1) post)
    (settles : (world.server passed).Settles post.url (.ok response))
    (taken : SearchResult.ofResponse response = .ok result) :
    (run world arguments).ending.exitCode = 0 ∧
      Text.pieces (· = '\n') (run world arguments).output.toList =
        (result.hits.map fun hit => hit.toValue.json.toList) ++ [[]] := by
  rw [run_of_accepts accepts, perform_search searches kept] at posted ⊢
  dsimp only at posted ⊢
  rw [Event.posts_append, posts_settle] at posted
  change _ ++ [] = _ at posted
  rw [List.append_nil] at posted
  obtain ⟨trace, message, inner, looked⟩ := lookUp_of_settles posted settles taken
  have settled (events : List Event) : settle .search ⟨events, .ok ()⟩ = (events, .done) := rfl
  rw [looked, settled, List.append_assoc _ _ [Event.close]]
  exact ⟨rfl, Report.pieces_output_hits inner result.hits message⟩

/-- Such a search prints a line for each hit, in order, and each line shows its hit. -/
theorem search_shows_hits {arguments : List String}
    (accepts : Accepts world arguments settings inquiry) (searches : inquiry.action = .search)
    (kept : journalFault? world.files (journalSetup settings.journal .search) world.stamp = none)
    (posted : Event.posts (run world arguments).events = List.replicate (passed + 1) post)
    (settles : (world.server passed).Settles post.url (.ok response))
    (taken : SearchResult.ofResponse response = .ok result)
    (objects : ∀ raw ∈ response.rawHits, raw.HasObjectSource) :
    (run world arguments).ending.exitCode = 0 ∧ ∃ lines : List String,
      Text.pieces (· = '\n') (run world arguments).output.toList =
        lines.map String.toList ++ [[]] ∧
      List.Forall₂ Hit.IsShownAs result.hits lines := by
  obtain ⟨ended, printed⟩ := search_prints_hits accepts searches kept posted settles taken
  have known := SearchResult.isJson_of_mem_hits settles.isJson objects taken
  refine ⟨ended, result.hits.map fun hit => hit.toValue.json, ?_, ?_⟩
  · rw [printed, List.map_map]
    rfl
  · exact List.forall₂_map_right_iff.mpr
      (List.forall₂_same.mpr fun hit member => (known hit member).isShownAs)

/-- A response with one hit that stores something. -/
def found (source : List (String × Value)) : Value :=
  .record [("hits", .record [("hits", .list [.record [("_id", .text "1"), ("_score", .null),
    ("_source", .record source)]])])]

theorem isJson_found {source : List (String × Value)} (known : Json.IsJson (.record source)) :
    Json.IsJson (found source) := by
  have alone {key : String} {value : Value} (fine : Json.IsJson value) :
      Json.IsJson (.record [(key, value)]) :=
    Json.isJson_record (List.nodup_singleton key) (List.forall_mem_singleton.mpr fine)
  refine alone (alone (.list (List.forall_mem_singleton.mpr (Json.isJson_record ?_ ?_))))
  · change ["_id", "_score", "_source"].Nodup
    decide
  · simp only [List.forall_mem_cons]
    exact ⟨.scalar trivial, .scalar trivial, known, List.forall_mem_nil _⟩

/-- A world in which the server answers with that response. -/
def finding (source : List (String × Value)) : World :=
  { patient with server := .ofList [.ok ⟨200, "", (found source).json⟩] }

theorem hasObjectSource_of_found (source : List (String × Value)) :
    ∀ raw ∈ (found source).rawHits, raw.HasObjectSource := by
  refine List.forall_mem_singleton.mpr fun stored known => ?_
  obtain rfl : .record source = stored := Option.some.inj known
  exact .inl ⟨_, rfl⟩

theorem exists_search_finding {source : List (String × Value)}
    (known : Json.IsJson (.record source))
    (sends : (Event.posts (run (finding source) ["search"]).events).length = 1) :
    ∃ settings inquiry post, Accepts (finding source) ["search"] settings inquiry ∧
      inquiry.action = .search ∧
      journalFault? (finding source).files (journalSetup settings.journal .search)
        (finding source).stamp = none ∧
      Event.posts (run (finding source) ["search"]).events = List.replicate (0 + 1) post ∧
      ((finding source).server 0).Settles post.url (.ok (found source)) := by
  let journal (settings : Settings) : JournalSettings := settings.journal
  obtain ⟨settings, loaded, seen⟩ : ∃ settings, patient.settings defaultSettings = .ok settings ∧
      journal settings = ⟨.info, false, "log"⟩ :=
    exists_ok_of_map_toOption journal (by decide +kernel)
  have plain : ¬patient.MistakesForFile defaultSettings := by decide
  have kept : journalFault? (finding source).files (journalSetup settings.journal .search)
      (finding source).stamp = none := by
    rw [show settings.journal = _ from seen]
    rfl
  obtain ⟨post, posted⟩ := List.length_eq_one_iff.mp sends
  exact ⟨settings, ⟨.search, QueryString.collect [] none, none⟩, post,
    .intro rfl rfl rfl plain loaded rfl, rfl, kept, posted,
    Answer.settles_json (isJson_found known) post.url ""⟩

theorem search_shows_hits_titled :
    let world := finding [("title", .text "Beam loss")]
    let response := found [("title", .text "Beam loss")]
    ∃ settings inquiry post result, Accepts world ["search"] settings inquiry ∧
      inquiry.action = .search ∧
      journalFault? world.files (journalSetup settings.journal .search) world.stamp = none ∧
      Event.posts (run world ["search"]).events = List.replicate (0 + 1) post ∧
      (world.server 0).Settles post.url (.ok response) ∧
      SearchResult.ofResponse response = .ok result ∧
      (∀ raw ∈ response.rawHits, raw.HasObjectSource) ∧
      (run world ["search"]).ending.exitCode = 0 ∧ ∃ lines : List String,
        Text.pieces (· = '\n') (run world ["search"]).output.toList =
          lines.map String.toList ++ [[]] ∧
        List.Forall₂ Hit.IsShownAs result.hits lines := by
  intro world response
  have known : Json.IsJson (.record [("title", .text "Beam loss")]) :=
    Json.isJson_record (List.nodup_singleton _) (List.forall_mem_singleton.mpr (.scalar trivial))
  have objects := hasObjectSource_of_found [("title", .text "Beam loss")]
  obtain ⟨settings, inquiry, post, accepts, searches, kept, posted, settles⟩ :=
    exists_search_finding known (by decide +kernel)
  exact ⟨settings, inquiry, post, _, accepts, searches, kept, posted, settles, rfl, objects,
    search_shows_hits accepts searches kept posted settles rfl objects⟩

theorem not_told_overridden :
    let source := [("id", .text "x"), ("title", .text "Beam loss")]
    let world := finding source
    let response := found source
    ∃ settings inquiry post result, Accepts world ["search"] settings inquiry ∧
      inquiry.action = .search ∧
      journalFault? world.files (journalSetup settings.journal .search) world.stamp = none ∧
      Event.posts (run world ["search"]).events = List.replicate (0 + 1) post ∧
      (world.server 0).Settles post.url (.ok response) ∧
      SearchResult.ofResponse response = .ok result ∧
      (∀ raw ∈ response.rawHits, raw.HasObjectSource) ∧
      ¬∃ lines : List String,
        Text.pieces (· = '\n') (run world ["search"]).output.toList =
          lines.map String.toList ++ [[]] ∧
        List.Forall₂ (fun hit line => ∃ entries, Json.read line = .ok (.object entries) ∧
          Entries.get? (.text "id") entries = some (.text hit.id)) result.hits lines := by
  intro source world response
  have known : Json.IsJson (.record source) := by
    refine Json.isJson_record (show ["id", "title"].Nodup by decide) ?_
    simp only [source, List.forall_mem_cons]
    exact ⟨.scalar trivial, .scalar trivial, List.forall_mem_nil _⟩
  have objects := hasObjectSource_of_found source
  obtain ⟨settings, inquiry, post, accepts, searches, kept, posted, settles⟩ :=
    exists_search_finding known (by decide +kernel)
  obtain ⟨total, hit, taken, id_eq, stored_id⟩ : ∃ total hit,
      SearchResult.ofResponse response = .ok ⟨total, [hit]⟩ ∧ hit.id = "1" ∧
      Entries.get? (.text "id") hit.source = some (.text "x") := ⟨_, _, rfl, rfl, rfl⟩
  refine ⟨settings, inquiry, post, _, accepts, searches, kept, posted, settles, taken, objects, ?_⟩
  rintro ⟨lines, split, each⟩
  obtain ⟨-, printed⟩ := search_prints_hits accepts searches kept posted settles taken
  obtain _ | ⟨⟨entries, read_back, told⟩, others⟩ := each
  obtain rfl := List.forall₂_nil_left_iff.mp others
  obtain ⟨line_eq, -⟩ := List.cons.inj (List.append_cancel_right (printed.symm.trans split))
  have hit_known := SearchResult.isJson_of_mem_hits settles.isJson objects taken hit
    (List.mem_singleton_self hit)
  rw [← String.toList_injective line_eq, hit_known.read_json] at read_back
  obtain rfl := Value.object.inj (Except.ok.inj read_back)
  have printed_id := Hit.isStoredIn_entries hit_known.distinct _ _ stored_id
  rw [told, id_eq] at printed_id
  exact absurd printed_id (by simp)

end CommandLine

end EntrySearch
