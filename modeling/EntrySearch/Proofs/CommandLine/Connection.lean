import EntrySearch.Proofs.CommandLine.Preview
import EntrySearch.Proofs.Search.Compilation
import EntrySearch.Proofs.Settings.Validity
import Mathlib.Data.List.DropRight

/-!
# The connection to the search engine

A search posts to the server and the indices that the settings name, and it waits as long as they
say. The address loses the slashes at its end. Where nothing but slashes stands behind its scheme it
loses those of the scheme as well, and then it names no server any more.
-/

namespace EntrySearch

open Outcome Traced

namespace Client

/-- The schemes of addresses, which two slashes follow. -/
def schemes : List String :=
  ["http:", "https:"]

/-- Something stands behind the scheme of an address. -/
def NamesServer (url : String) : Prop :=
  ∃ scheme ∈ schemes, ∃ c rest, url.toList = scheme.toList ++ ['/', '/'] ++ c :: rest

/-- Something else than slashes stands behind the scheme of an address. -/
def HasHost (url : String) : Prop :=
  ∃ scheme ∈ schemes, ∃ rest, url.toList = scheme.toList ++ ['/', '/'] ++ rest ∧
    ∃ c ∈ rest, c ≠ '/'

/-- A client goes to the address in the settings, up to slashes at its end, and waits as long as
they say. -/
structure IsFor (client : Client) (engine : EngineSettings) : Prop where
  /-- The address lacks nothing but slashes at its end. -/
  url : ∃ n, engine.url.toList = client.baseUrl.toList ++ List.replicate n '/'
  /-- The address ends with no slash. -/
  bare : client.baseUrl.toList.getLast? ≠ some '/'
  /-- The time to wait is the one of the settings. -/
  timeout : client.timeout = .real engine.timeout

theorem toList_withoutSlashes (url : String) :
    (withoutSlashes url).toList = url.toList.rdropWhile (· = '/') :=
  String.toList_ofList

theorem getLast?_withoutSlashes (url : String) :
    (withoutSlashes url).toList.getLast? ≠ some '/' := by
  intro slash
  rw [toList_withoutSlashes] at slash
  obtain ⟨nonempty, last⟩ := List.mem_getLast?_eq_getLast slash
  exact List.rdropWhile_last_not _ _ nonempty (decide_eq_true last.symm)

theorem eq_withoutSlashes_append (url : String) :
    ∃ n, url.toList = (withoutSlashes url).toList ++ List.replicate n '/' := by
  have slashes : ∀ c ∈ url.toList.rtakeWhile (· = '/'), c = '/' := by
    intro c member
    simpa using List.mem_rtakeWhile_imp member
  refine ⟨(url.toList.rtakeWhile (· = '/')).length, ?_⟩
  rw [← List.eq_replicate_iff.mpr ⟨rfl, slashes⟩, toList_withoutSlashes,
    List.rdropWhile_append_rtakeWhile]

theorem withoutSlashes_eq {url front : String} (bare : front.toList.getLast? ≠ some '/')
    {rest : List Char} (slashes : ∀ c ∈ rest, c = '/')
    (url_eq : url.toList = front.toList ++ rest) : withoutSlashes url = front := by
  have dropped : (front.toList ++ rest).rdropWhile (· = '/') = front.toList := by
    clear url_eq
    induction rest using List.reverseRecOn with
    | nil =>
        rw [List.append_nil]
        refine List.rdropWhile_eq_self_iff.mpr fun nonempty slash => bare ?_
        rw [List.getLast?_eq_some_getLast nonempty, of_decide_eq_true slash]
    | append_singleton rest c ih =>
        obtain ⟨earlier, last⟩ := List.forall_mem_append.mp slashes
        rw [← List.append_assoc, List.rdropWhile_concat_pos, ih earlier]
        exact decide_eq_true (last c List.mem_cons_self)
  exact String.toList_injective (by rw [toList_withoutSlashes, url_eq, dropped])

theorem exists_scheme {url : String} (address : Settings.isAddress url = true) :
    ∃ scheme ∈ schemes, ∃ rest, url.toList = scheme.toList ++ ['/', '/'] ++ rest := by
  rcases Settings.isAddress_iff.mp address with ⟨rest, whole⟩ | ⟨rest, whole⟩
  · exact ⟨"http:", List.mem_cons_self, rest, whole.symm⟩
  · exact ⟨"https:", List.mem_of_getLast? rfl, rest, whole.symm⟩

theorem not_namesServer_of_mem_schemes {url : String} (known : url ∈ schemes) :
    ¬NamesServer url := by
  rintro ⟨scheme, other, c, rest, url_eq⟩
  have lengths : ∀ scheme ∈ schemes, 5 ≤ scheme.toList.length ∧ scheme.toList.length ≤ 6 := by
    decide
  have shorter := (lengths scheme other).1
  have longer := (lengths url known).2
  simp only [url_eq, List.length_append, List.length_cons] at longer
  omega

theorem withoutSlashes_of_not_hasHost {url : String} (address : Settings.isAddress url = true)
    (hostless : ¬HasHost url) : withoutSlashes url ∈ schemes := by
  obtain ⟨scheme, known, rest, whole⟩ := exists_scheme address
  have bare : ∀ scheme ∈ schemes, scheme.toList.getLast? ≠ some '/' := by decide
  have slashes : ∀ c ∈ ['/', '/'] ++ rest, c = '/' := by
    refine List.forall_mem_append.mpr ⟨by simp, fun c member => of_not_not fun other => ?_⟩
    exact hostless ⟨scheme, known, rest, whole, c, member, other⟩
  rw [List.append_assoc] at whole
  rwa [withoutSlashes_eq (bare scheme known) slashes whole]

theorem isFor_connect {engine : EngineSettings} (above : ¬engine.timeout ≤ 0.0) :
    (connect engine.url (some (.real engine.timeout))).IsFor engine where
  url := eq_withoutSlashes_append engine.url
  bare := getLast?_withoutSlashes engine.url
  timeout := if_neg (Bool.eq_false_iff.mp (Decimal.beq_zero_of_not_le above))

namespace IsFor

variable {client : Client} {engine : EngineSettings}

/-- The address of a client names a server if there is more than slashes behind the scheme. -/
theorem namesServer_iff (connected : client.IsFor engine) :
    NamesServer client.baseUrl ↔ HasHost engine.url := by
  obtain ⟨n, url_eq⟩ := connected.url
  constructor
  · rintro ⟨scheme, known, c, rest, base_eq⟩
    have filled : c :: rest ≠ [] := List.cons_ne_nil c rest
    refine ⟨scheme, known, c :: rest ++ List.replicate n '/', ?_, (c :: rest).getLast filled,
      List.mem_append_left _ (List.getLast_mem filled), fun slash => connected.bare ?_⟩
    · rw [url_eq, base_eq, List.append_assoc]
    · rw [base_eq, List.getLast?_append_of_ne_nil _ filled, List.getLast?_eq_some_getLast filled,
        slash]
  · rintro ⟨scheme, known, rest, whole, c, member, other⟩
    rw [url_eq] at whole
    rcases List.append_eq_append_iff.mp whole with ⟨more, _, slashes⟩ | ⟨more, base_eq, rest_eq⟩
    · -- The scheme would reach into the slashes, and nothing else would stand behind it.
      have mem_slashes : c ∈ List.replicate n '/' := slashes ▸ List.mem_append_right more member
      exact absurd (List.eq_of_mem_replicate mem_slashes) other
    · cases more with
      | nil => exact absurd (List.eq_of_mem_replicate (rest_eq ▸ member)) other
      | cons d more => exact ⟨scheme, known, d, more, base_eq⟩

end IsFor

end Client

/-- The client that searches with the settings use. -/
def Settings.client (settings : Settings) : Client :=
  Client.connect settings.engine.url (some (.real settings.engine.timeout))

namespace CommandLine

variable (world : World)

theorem carryOut_eq_of_search (settings : Settings) {inquiry : Inquiry}
    (searches : inquiry.action = .search) :
    carryOut world settings inquiry =
      let settled := settle .search (lookUp world settings.search settings.client inquiry)
      (settled.1 ++ [.close], settled.2) := by
  unfold carryOut
  rw [searches]
  rfl

theorem eq_assembled_of_requestFor {policy : Policy} {inquiry : Inquiry} {request : Request}
    (made : (requestFor world policy inquiry).outcome = .ok request) :
    ∃ now, request = (Criteria.asked world.zone inquiry.parameters).assembled policy now := by
  obtain ⟨now, -, compiled⟩ := outcome_bind_eq_ok_iff.mp made
  have compiled : (policy.compile world.zone now inquiry.parameters).outcome = .ok request :=
    mapError_eq_ok_iff.mp compiled
  rw [Policy.outcome_compile, barring_eq_ok_iff] at compiled
  exact ⟨now, compiled.2.symm⟩

theorem eq_post_of_mem_lookUp {policy : Policy} {client : Client} {inquiry : Inquiry} {post : Post}
    (member : post ∈ Event.posts (lookUp world policy client inquiry).trace) :
    ∃ request, (requestFor world policy inquiry).outcome = .ok request ∧
      post = client.post request := by
  rw [lookUp_eq] at member
  have light := (light_requestFor world policy inquiry).1
  generalize requestFor world policy inquiry = made at light member ⊢
  obtain ⟨written, fault | request⟩ := made
  · rw [error_bind, light] at member
    exact absurd member List.not_mem_nil
  · obtain ⟨count, _, _, posts⟩ := posts_resultOf world client request
    rw [ok_bind, Event.posts_append, light, List.nil_append, posts_bind_present, posts] at member
    exact ⟨request, rfl, List.eq_of_mem_replicate member⟩

/-- A search posts to the address and the indices of its settings, and waits as long as they say. -/
theorem posts_of_search (settings : Settings) {inquiry : Inquiry}
    (searches : inquiry.action = .search) :
    ∀ post ∈ Event.posts (carryOut world settings inquiry).1,
      ∃ now, post = settings.client.post
        ((Criteria.asked world.zone inquiry.parameters).assembled settings.search now) := by
  intro post member
  rw [carryOut_eq_of_search world settings searches, Event.posts_append, posts_settle] at member
  obtain ⟨request, made, rfl⟩ :=
    eq_post_of_mem_lookUp world ((List.append_nil _).subst member)
  obtain ⟨now, rfl⟩ := eq_assembled_of_requestFor world made
  exact ⟨now, rfl⟩

end CommandLine

namespace Settings

/-- Searches follow the options that the settings are read from: they use the indices and sizes that
are given, the address up to slashes at its end, and the time to wait. -/
structure IsConnected (environment : Environment) (option? : String → String → Option Value)
    (settings : Settings) : Prop where
  /-- The settings are what the options say. -/
  follows : settings.Follows environment option?
  /-- The client goes to the address and waits as long as the settings say. -/
  client : settings.client.IsFor settings.engine
  /-- All that is posted is the request for the indices and sizes, and the client posts it. -/
  posts : ∀ (world : CommandLine.World) (inquiry : CommandLine.Inquiry), inquiry.action = .search →
    ∀ post ∈ Event.posts (CommandLine.carryOut world settings inquiry).1,
      ∃ now, post = settings.client.post
        ((Criteria.asked world.zone inquiry.parameters).assembled settings.search now)
  /-- The client has a server to go to if the address has more than slashes behind its scheme. -/
  server : Client.NamesServer settings.client.baseUrl ↔ Client.HasHost settings.engine.url
  /-- Otherwise nothing but the scheme is left. -/
  scheme : ¬Client.HasHost settings.engine.url → settings.client.baseUrl ∈ Client.schemes

/-- Searches follow all options of settings that are accepted, except that an address without a host
is left with nothing to go to. -/
theorem isConnected_of_ofValue {environment : Environment} {value : Value} {settings : Settings}
    (read : ofValue environment value = .ok settings) :
    settings.IsConnected environment value.option? := by
  have follows := follows_of_ofValue read
  simp only [ofValue, bind_eq_ok_iff] at read
  obtain ⟨_, -, policy, -, engine, -, journal, -, _, -, _, connected, done⟩ := read
  obtain rfl := Except.ok.inj done
  obtain ⟨address, above⟩ := checkEngine_eq_ok connected
  have client : (Settings.client { journal, search := policy, engine }).IsFor engine :=
    Client.isFor_connect above
  constructor
  · exact follows
  · exact client
  · exact fun world inquiry searches => CommandLine.posts_of_search world _ searches
  · exact client.namesServer_iff
  · exact Client.withoutSlashes_of_not_hasHost address

theorem isConnected_edgedSettings :
    let environment : Environment := [("URL", " https://es/path/// ")]
    ∃ settings, ofValue environment edgedSettings = .ok settings ∧
      (settings.client.baseUrl, settings.search) = ("https://es/path", ⟨"logs", 1, 1⟩) ∧
      settings.IsConnected environment edgedSettings.option? := by
  intro environment
  let chosen (settings : Settings) := (settings.client.baseUrl, settings.search)
  obtain ⟨settings, read, seen⟩ : ∃ settings, ofValue environment edgedSettings = .ok settings ∧
      chosen settings = ("https://es/path", ⟨"logs", 1, 1⟩) :=
    exists_ok_of_map_toOption chosen (by decide +kernel)
  exact ⟨settings, read, seen, isConnected_of_ofValue read⟩

/-- Settings with an address that is a scheme and nothing else. -/
def hostlessAddress : Value :=
  .record [("elasticsearch", .record [("url", .text "http://")])]

theorem not_namesServer_hostlessAddress :
    ∃ settings, ofValue [] hostlessAddress = .ok settings ∧
      settings.client.baseUrl = "http:" ∧ ¬Client.NamesServer settings.client.baseUrl := by
  let address (settings : Settings) := settings.client.baseUrl
  obtain ⟨settings, read, seen⟩ : ∃ settings, ofValue [] hostlessAddress = .ok settings ∧
      address settings = "http:" :=
    exists_ok_of_map_toOption address (by decide +kernel)
  have bare : settings.client.baseUrl ∈ Client.schemes := by
    rw [show settings.client.baseUrl = "http:" from seen]
    exact List.mem_cons_self
  exact ⟨settings, read, seen, Client.not_namesServer_of_mem_schemes bare⟩

end Settings

end EntrySearch
