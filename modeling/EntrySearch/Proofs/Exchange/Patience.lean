import EntrySearch.Proofs.Exchange.Persistence

/-!
# Patience with a server in trouble

A server that gets over its troubles is asked again as long as each of them is one that is waited
for. The first reply that reports any other trouble ends the exchange, although the next reply would
have been a response.
-/

namespace EntrySearch

open Client

/-- A reply that reports too many requests or a mistake of the server. -/
def Reply.ReportsTrouble (reply : Reply) : Prop :=
  reply.status = 429 ∨ 500 ≤ reply.status ∧ reply.status ≤ 599

/-- A reply that another attempt is made for. -/
def Reply.IsWaitedFor (reply : Reply) : Prop :=
  reply.status ∈ [429, 502, 503, 504]

instance (reply : Reply) : Decidable reply.IsWaitedFor :=
  inferInstanceAs (Decidable (_ ∈ _))

theorem Reply.exists_first_decisive {replies : List Reply}
    (decided : ¬∀ reply ∈ replies, reply.IsWaitedFor) :
    ∃ waited reply rest, replies = waited ++ reply :: rest ∧
      (∀ earlier ∈ waited, earlier.IsWaitedFor) ∧ ¬reply.IsWaitedFor := by
  cases found : replies.find? fun reply => ¬reply.IsWaitedFor with
  | none => exact absurd (by simpa using found) decided
  | some reply =>
      obtain ⟨decisive, waited, rest, cut, each⟩ := List.find?_eq_some_iff_append.mp found
      exact ⟨waited, reply, rest, cut, by simpa using each, by simpa using decisive⟩

theorem Answer.Settles.eq_of_trouble {url : String} {reply : Reply}
    {outcome : Except ClientFault Value} (settles : Answer.Settles url (.ok reply) outcome)
    (trouble : reply.ReportsTrouble) : outcome = .error (.status reply url) := by
  have mistaken : 400 ≤ reply.status ∧ reply.status ≤ 599 := by
    rcases trouble with many | server <;> omega
  cases settles with
  | mistake => rfl
  | undecoded outside | tooLong outside | other outside | object outside => omega

theorem Answer.Settles.eq_of_success {url : String} {reply : Reply}
    {outcome : Except ClientFault Value} {response : List (Scalar × Value)}
    (settles : Answer.Settles url (.ok reply) outcome) (success : reply.status = 200)
    (body : Json.readChars reply.text = .ok (.object response)) :
    outcome = .ok (.object response) := by
  cases settles with
  | mistake least => omega
  | undecoded _ read | tooLong _ read => exact nomatch body.symm.trans read
  | other _ read unlike =>
      cases body.symm.trans read
      exact nomatch unlike
  | object _ read =>
      cases body.symm.trans read
      rfl

namespace Server

/-- The answers from a place on begin with those of a list. -/
def Begins (server : Server) (start : Nat) : List Answer → Prop
  | [] => True
  | answer :: rest => server start = answer ∧ server.Begins (start + 1) rest

theorem Begins.append_iff {server : Server} {start : Nat} {front back : List Answer} :
    server.Begins start (front ++ back) ↔
      server.Begins start front ∧ server.Begins (start + front.length) back := by
  induction front generalizing start with
  | nil => simp [Begins]
  | cons answer front ih =>
      rw [List.cons_append, Begins, Begins, ih, List.length_cons, and_assoc, Nat.add_right_comm,
        Nat.add_assoc]

theorem passes_of_begins {server : Server} {start : Nat} {replies : List Reply}
    (begins : server.Begins start (replies.map .ok))
    (waited : ∀ reply ∈ replies, reply.IsWaitedFor) : server.Passes start replies.length := by
  induction replies generalizing start with
  | nil => exact nofun
  | cons reply rest ih =>
      obtain ⟨here, later⟩ := begins
      obtain ⟨first, others⟩ := List.forall_mem_cons.mp waited
      intro n small
      cases n with
      | zero =>
          rw [Nat.add_zero, here]
          exact first
      | succ n =>
          have passing := ih later others n (Nat.lt_of_succ_lt_succ small)
          rwa [Nat.add_right_comm, Nat.add_assoc] at passing

/-- A few replies report troubles, and then a response comes. -/
structure Relents (server : Server) (start : Nat) (troubles : List Reply)
    (response : List (Scalar × Value)) : Prop where
  /-- An attempt is left for the response. -/
  few : troubles.length ≤ 3
  /-- Each reply before it reports a trouble. -/
  troubled : ∀ reply ∈ troubles, reply.ReportsTrouble
  /-- The next reply is a success whose body is the response. -/
  granted : ∃ reply : Reply, reply.status = 200 ∧
    Json.readChars reply.text = .ok (.object response) ∧
    server.Begins start (troubles.map .ok ++ [.ok reply])

end Server

/-- What is posted and how long is waited, in order. -/
def Event.deeds (events : List Event) : List Event :=
  events.filter fun event => event.post?.isSome || event.pause?.isSome

/-- A run that posts once more than it pauses, with one pause between two posts, and then ends. -/
structure Client.Ends (run : Traced Event ClientFault Value) (post : Post) (retries : Nat)
    (outcome : Except ClientFault Value) : Prop where
  /-- How it ends. -/
  outcome : run.outcome = outcome
  /-- What it does before. -/
  deeds : ∃ pauses : List Float, pauses.length = retries ∧
    Event.deeds run.trace =
      (pauses.flatMap fun pause => [.post post, .pause pause]) ++ [.post post]

namespace Client

theorem deeds_rounds (post : Post) (costs : List (Record × Float)) :
    Event.deeds (costs.flatMap (round post)) =
      (costs.map Prod.snd).flatMap fun pause => [.post post, .pause pause] := by
  induction costs with
  | nil => rfl
  | cons cost rest ih =>
      rw [List.flatMap_cons, List.map_cons, List.flatMap_cons, ← ih]
      exact List.filter_append ..

variable (server : Server) (jitter : Float) (client : Client) (request : Request)

/-- The first reply that is not waited for decides about a request. -/
theorem ends_of_begins {sent : Nat} {waited : List Reply} {reply : Reply} (few : waited.length ≤ 3)
    (each : ∀ earlier ∈ waited, earlier.IsWaitedFor) (decisive : ¬reply.IsWaitedFor)
    (begins : server.Begins sent (waited.map .ok ++ [.ok reply])) :
    ∃ outcome, Answer.Settles (client.post request).url (.ok reply) outcome ∧
      Ends (execute client server jitter sent request) (client.post request) waited.length
        outcome := by
  obtain ⟨before, here, _⟩ := Server.Begins.append_iff.mp begins
  rw [List.length_map] at here
  have ending : ¬(server (sent + waited.length)).IsPassing := by
    rw [here]
    exact decisive
  obtain ⟨⟨written, costs, costs_length, trace_eq⟩, settles⟩ := exists_rounds_execute server jitter
    client request (Nat.lt_succ_of_le few) (Server.passes_of_begins before each) ending
  rw [here] at settles
  refine ⟨_, settles, rfl, costs.map Prod.snd, (List.length_map _).trans costs_length, ?_⟩
  rw [trace_eq, ← deeds_rounds]
  exact List.filter_append ..

/-- A server that relents is seen through its troubles if and only if each of them is waited for;
otherwise the first one that is not is reported, after a retry for each one before it. -/
theorem ends_with_response_iff {sent : Nat} {troubles : List Reply}
    {response : List (Scalar × Value)} (relents : server.Relents sent troubles response) :
    let run := client.execute server jitter sent request
    let post := client.post request
    (Ends run post troubles.length (.ok (.object response)) ↔
        ∀ reply ∈ troubles, reply.IsWaitedFor) ∧
      ∀ waited reply rest, troubles = waited ++ reply :: rest →
        (∀ earlier ∈ waited, earlier.IsWaitedFor) → ¬reply.IsWaitedFor →
        Ends run post waited.length (.error (.status reply post.url)) := by
  intro run post
  obtain ⟨few, troubled, last, success, body, begins⟩ := relents
  have blamed : ∀ waited reply rest, troubles = waited ++ reply :: rest →
      (∀ earlier ∈ waited, earlier.IsWaitedFor) → ¬reply.IsWaitedFor →
      Ends run post waited.length (.error (.status reply post.url)) := by
    rintro waited reply rest rfl each decisive
    have trouble : reply.ReportsTrouble := troubled reply (by simp)
    have short : waited.length ≤ 3 := by
      rw [List.length_append] at few
      omega
    have cut : (waited ++ reply :: rest).map Except.ok ++ [.ok last] =
        (waited.map .ok ++ [.ok reply]) ++ (rest.map .ok ++ [(.ok last : Answer)]) := by
      simp
    rw [cut, Server.Begins.append_iff] at begins
    obtain ⟨outcome, settles, ends⟩ :=
      ends_of_begins server jitter client request short each decisive begins.1
    rwa [settles.eq_of_trouble trouble] at ends
  refine ⟨⟨fun ends => ?_, fun each => ?_⟩, blamed⟩
  · apply Decidable.byContradiction
    intro impatient
    obtain ⟨waited, reply, rest, cut, each, decisive⟩ := Reply.exists_first_decisive impatient
    have reported := (blamed waited reply rest cut each decisive).outcome
    rw [ends.outcome] at reported
    exact nomatch reported
  · have decisive : ¬last.IsWaitedFor := by
      rw [Reply.IsWaitedFor, success]
      decide
    obtain ⟨outcome, settles, ends⟩ :=
      ends_of_begins server jitter client request few each decisive begins
    rwa [settles.eq_of_success success body] at ends

/-- A request for all entries. -/
def everything : Request where
  index := "olog_logs*"
  query := .all []
  sort := [⟨"createdDate", .descending⟩]
  offset := 0
  size := 100
  seconds := 60

theorem ends_with_response_recovering :
    let troubles : List Reply := [⟨503, "", ""⟩, ⟨429, "", "[]"⟩, ⟨502, "", ""⟩]
    let server : Server := .ofList (troubles.map .ok ++ [.ok ⟨200, "", "\x7b\x7d"⟩])
    let client : Client := .connect "http://es:9200/" none
    server.Relents 0 troubles [] ∧ (∀ reply ∈ troubles, reply.IsWaitedFor) ∧
      Ends (client.execute server 0.0 0 everything) (client.post everything) 3
        (.ok (.object [])) := by
  intro troubles server client
  have troubled : ∀ reply ∈ troubles, reply.ReportsTrouble := by
    simp [troubles, Reply.ReportsTrouble]
  have relents : server.Relents 0 troubles [] :=
    ⟨by decide, troubled, ⟨200, "", "\x7b\x7d"⟩, rfl, rfl, rfl, rfl, rfl, rfl, trivial⟩
  have waited : ∀ reply ∈ troubles, reply.IsWaitedFor := by decide
  exact ⟨relents, waited,
    (ends_with_response_iff server 0.0 client everything relents).1.mpr waited⟩

theorem not_ends_with_response_stumbling :
    let troubles : List Reply := [⟨500, "Oops", ""⟩]
    let server : Server := .ofList (troubles.map .ok ++ [.ok ⟨200, "", "\x7b\x7d"⟩])
    let client : Client := .connect "http://es:9200/" none
    server.Relents 0 troubles [] ∧
      ¬Ends (client.execute server 0.0 0 everything) (client.post everything) 1
        (.ok (.object [])) := by
  intro troubles server client
  have troubled : ∀ reply ∈ troubles, reply.ReportsTrouble := by
    simp [troubles, Reply.ReportsTrouble]
  refine ⟨⟨by decide, troubled, ⟨200, "", "\x7b\x7d"⟩, rfl, rfl, rfl, rfl, trivial⟩, fun ends => ?_⟩
  have failed : (client.execute server 0.0 0 everything).outcome =
      .error (.status ⟨500, "Oops", ""⟩ (client.post everything).url) := rfl
  exact nomatch failed.symm.trans ends.outcome

end Client

end EntrySearch
