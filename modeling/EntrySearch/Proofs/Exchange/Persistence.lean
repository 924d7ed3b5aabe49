import EntrySearch.Exchange.Session
import EntrySearch.Proofs.Json.LongNumbers
import EntrySearch.Proofs.Outcome

/-!
# Posting again

Passing answers cost one round each, and the first answer that does not pass ends the exchange and
decides it alone. When the last attempt is used up, the answer to it is the fault. A body that is
JSON is no response if reading it meets a whole number that is too long.
-/

namespace EntrySearch

namespace Event

@[simp]
theorem posts_append (left right : List Event) :
    posts (left ++ right) = posts left ++ posts right :=
  List.filterMap_append

@[simp]
theorem pauses_append (left right : List Event) :
    pauses (left ++ right) = pauses left ++ pauses right :=
  List.filterMap_append

theorem posts_map_record (written : List Record) : posts (written.map record) = [] := by
  simp [posts, post?, List.filterMap_eq_nil_iff]

theorem pauses_map_record (written : List Record) : pauses (written.map record) = [] := by
  simp [pauses, pause?, List.filterMap_eq_nil_iff]

end Event

/-- An answer that asks for another attempt: the server is busy, the exchange took too long, no
connection came about, or the exchange was refused. -/
def Answer.IsPassing : Answer → Prop
  | .ok reply => reply.status ∈ [429, 502, 503, 504]
  | .error failure =>
      failure.kind ∈ [.timeout, .readTimeout, .connectTimeout, .connection, .security, .proxy,
        .refusal]

instance (answer : Answer) : Decidable answer.IsPassing := by
  cases answer <;> exact inferInstanceAs (Decidable (_ ∈ _))

/-- The body of a reply without the mark for its encoding. -/
def Reply.text (reply : Reply) : List Char :=
  match reply.body.toList with
  | [] => []
  | c :: rest => if c = Client.byteOrderMark then rest else c :: rest

/-- What an answer that does not pass makes of a request to an address. -/
inductive Answer.Settles (url : String) : Answer → Except ClientFault Value → Prop where
  /-- A failure is passed on unchanged. -/
  | failure (cause : Failure) : Settles url (.error cause) (.error (.failure cause))
  /-- A reply reports a mistake of the client or of the server. -/
  | mistake {reply : Reply} : 400 ≤ reply.status → reply.status ≤ 599 →
      Settles url (.ok reply) (.error (.status reply url))
  /-- The body of a reply is no JSON. -/
  | undecoded {reply : Reply} {complaint : Json.Complaint} {remaining : Nat} :
      reply.status < 400 ∨ 599 < reply.status →
      Json.readChars reply.text = .error (.malformed complaint remaining) →
      Settles url (.ok reply)
        (.error (.body (.malformed complaint remaining) (String.ofList reply.text)))
  /-- A whole number in the body of a reply is too long. -/
  | tooLong {reply : Reply} {number : Decimal.TooManyDigits} :
      reply.status < 400 ∨ 599 < reply.status →
      Json.readChars reply.text = .error (.digits number) →
      Settles url (.ok reply) (.error (.body (.digits number) (String.ofList reply.text)))
  /-- The body of a reply is no object. -/
  | other {reply : Reply} {value : Value} : reply.status < 400 ∨ 599 < reply.status →
      Json.readChars reply.text = .ok value → value.entries? = none →
      Settles url (.ok reply) (.error .notObject)
  /-- The body of a reply is an object, which is the response. -/
  | object {reply : Reply} {entries : List (Scalar × Value)} :
      reply.status < 400 ∨ 599 < reply.status →
      Json.readChars reply.text = .ok (.object entries) →
      Settles url (.ok reply) (.ok (.object entries))

/-- A fault of a body, whether or not it is JSON. -/
def ClientFault.IsOfBody : ClientFault → Prop
  | .body _ _ | .notObject => True
  | .failure _ | .busy _ | .status _ _ => False

/-- What an answer that does not pass is meant to make of a request to an address, with whole
numbers of any length in the body of a reply. -/
inductive Answer.Promises (url : String) : Answer → Except ClientFault Value → Prop where
  /-- A failure is passed on unchanged. -/
  | failure (cause : Failure) : Promises url (.error cause) (.error (.failure cause))
  /-- A reply reports a mistake of the client or of the server. -/
  | mistake {reply : Reply} : 400 ≤ reply.status → reply.status ≤ 599 →
      Promises url (.ok reply) (.error (.status reply url))
  /-- A body that is no JSON is complained about. -/
  | undecoded {reply : Reply} {fault : Json.Fault} {complaint : Json.Complaint} {remaining : Nat}
      {text : String} : reply.status < 400 ∨ 599 < reply.status →
      Json.readAny reply.text = .error fault →
      Promises url (.ok reply) (.error (.body (.malformed complaint remaining) text))
  /-- A body that is no object is refused. -/
  | other {reply : Reply} {value : Value} {fault : ClientFault} :
      reply.status < 400 ∨ 599 < reply.status → Json.readAny reply.text = .ok value →
      value.entries? = none → fault.IsOfBody → Promises url (.ok reply) (.error fault)
  /-- A body that is an object is the response. -/
  | object {reply : Reply} {entries : List (Scalar × Value)} :
      reply.status < 400 ∨ 599 < reply.status →
      Json.readAny reply.text = .ok (.object entries) →
      Promises url (.ok reply) (.ok (.object entries))

/-- A reply that reports no mistake, but whose body meets a whole number that is too long, although
the body is an object or else no JSON. -/
def Answer.BreaksAtNumber : Answer → Prop
  | .ok reply => (reply.status < 400 ∨ 599 < reply.status) ∧
      (∃ number, Json.readChars reply.text = .error (.digits number)) ∧
      ∀ value, Json.readAny reply.text = .ok value → value.entries? ≠ none
  | .error _ => False

/-- What an answer makes of a request is what it is meant to, unless it breaks at a number. -/
theorem Answer.Settles.promises_iff {url : String} {answer : Answer}
    {outcome : Except ClientFault Value} (settles : answer.Settles url outcome) :
    answer.Promises url outcome ↔ ¬answer.BreaksAtNumber := by
  have unbroken {reply : Reply} {other : Except Json.Fault Value}
      (read : Json.readChars reply.text = other)
      (short : ∀ number, other ≠ .error (.digits number)) :
      ¬Answer.BreaksAtNumber (.ok reply) :=
    fun ⟨_, ⟨number, met⟩, _⟩ => short number (read.symm.trans met)
  cases settles with
  | failure cause => exact iff_of_true (.failure cause) id
  | mistake least most => exact iff_of_true (.mistake least most) fun ⟨outside, _⟩ => by omega
  | undecoded outside read =>
      exact iff_of_true (.undecoded outside (Json.readAny_eq read nofun)) (unbroken read nofun)
  | tooLong outside read =>
      constructor
      · rintro (_ | _ | _ | ⟨_, free, unlike, _⟩) ⟨_, _, object⟩
        exact object _ free unlike
      · intro unbroken
        obtain ⟨value, free, unlike⟩ : ∃ value, Json.readAny _ = .ok value ∧
            value.entries? = none := by
          simpa [BreaksAtNumber, outside, read] using unbroken
        exact .other outside free unlike trivial
  | other outside read unlike =>
      exact iff_of_true (.other outside (Json.readAny_eq read nofun) unlike trivial)
        (unbroken read nofun)
  | object outside read =>
      exact iff_of_true (.object outside (Json.readAny_eq read nofun)) (unbroken read nofun)

/-- The fault of a request when a passing answer is the last one. -/
inductive Answer.Exhausts : Answer → ClientFault → Prop where
  /-- A failure is passed on unchanged. -/
  | failure (cause : Failure) : Exhausts (.error cause) (.failure cause)
  /-- The server is still busy. -/
  | busy (reply : Reply) : Exhausts (.ok reply) (.busy reply.status)

/-- The first answers from a place on pass, as many as told. -/
def Server.Passes (server : Server) (start count : Nat) : Prop :=
  ∀ n < count, (server (start + n)).IsPassing

theorem Server.Passes.tail {server : Server} {start count : Nat}
    (passes : server.Passes start (count + 1)) : server.Passes (start + 1) count := by
  intro n small
  have later := passes (n + 1) (by omega)
  rwa [show start + (n + 1) = start + 1 + n by omega] at later

namespace Client

theorem isBusy_iff {status : Int} : isBusy status = true ↔ status ∈ [429, 502, 503, 504] := by
  simp [isBusy, or_assoc]

theorem isPassing_kind_iff {cause : FailureKind} :
    cause.isPassing = true ↔ cause ∈ [.timeout, .readTimeout, .connectTimeout, .connection,
      .security, .proxy, .refusal] := by
  cases cause <;> decide

theorem exists_judge_of_passing {answer : Answer} (passing : answer.IsPassing) :
    ∃ fault, judge answer = .passing fault ∧ answer.Exhausts fault := by
  cases answer with
  | ok reply =>
      have busy : isBusy reply.status = true := isBusy_iff.mpr passing
      exact ⟨.busy reply.status, by simp [judge, busy], .busy reply⟩
  | error failure =>
      have passes : failure.kind.isPassing = true := isPassing_kind_iff.mpr passing
      exact ⟨.failure failure, by simp [judge, passes], .failure failure⟩

theorem readBody_settles (reply : Reply) (url : String) :
    Answer.Settles url (.ok reply) (readBody reply url) := by
  have text_eq : (if reply.body.toList.head? = some byteOrderMark then reply.body.toList.drop 1
      else reply.body.toList) = reply.text := by
    unfold Reply.text
    cases reply.body.toList with
    | nil => rfl
    | cons c rest => by_cases mark : c = byteOrderMark <;> simp [mark]
  unfold readBody
  simp only [text_eq]
  split
  · rename_i mistaken
    exact .mistake mistaken.1 (by omega)
  · rename_i accepted
    have outside : reply.status < 400 ∨ 599 < reply.status := by omega
    cases decoded : Json.readChars reply.text with
    | error fault =>
        cases fault with
        | malformed complaint remaining => exact .undecoded outside decoded
        | digits number => exact .tooLong outside decoded
    | ok value =>
        cases value with
        | object entries => exact .object outside decoded
        | scalar s => exact .other outside decoded rfl
        | list items => exact .other outside decoded rfl

/-- What a passing answer costs: the post, the record of another attempt and the pause before it. -/
def round (post : Post) (cost : Record × Float) : List Event :=
  [.post post, .record cost.1, .pause cost.2]

theorem posts_rounds (post : Post) (costs : List (Record × Float)) :
    Event.posts (costs.flatMap (round post)) = List.replicate costs.length post := by
  induction costs with
  | nil => rfl
  | cons cost rest ih =>
      rw [List.flatMap_cons, Event.posts_append, ih]
      rfl

theorem pauses_rounds (post : Post) (costs : List (Record × Float)) :
    Event.pauses (costs.flatMap (round post)) = costs.map Prod.snd := by
  induction costs with
  | nil => rfl
  | cons cost rest ih =>
      rw [List.flatMap_cons, Event.pauses_append, ih]
      rfl

variable (server : Server) (jitter : Float) (post : Post)

/-- A passing answer that is not the last one costs one round, and the exchange goes on as if it had
started with the next answer. -/
theorem persist_of_passing (left : Nat) {sent : Nat} (passing : (server sent).IsPassing) :
    ∃ cost, persist server jitter post (left + 1) sent =
      ⟨round post cost ++ (persist server jitter post left (sent + 1)).trace,
        (persist server jitter post left (sent + 1)).outcome⟩ := by
  obtain ⟨fault, judged, _⟩ := exists_judge_of_passing passing
  let attempt := attempts - (left + 1)
  let message :=
    s!"Search retrying after attempt {attempt}/{attempts} (error={fault.message})"
  refine ⟨(⟨.debug, message⟩, pauseAfter attempt jitter), ?_⟩
  rw [persist, judged]
  rfl

/-- Passing answers cost one round each. -/
theorem persist_of_passes (left : Nat) {count sent : Nat} (passes : server.Passes sent count) :
    ∃ costs : List (Record × Float), costs.length = count ∧
      persist server jitter post (left + count) sent =
        ⟨costs.flatMap (round post) ++ (persist server jitter post left (sent + count)).trace,
          (persist server jitter post left (sent + count)).outcome⟩ := by
  -- The first answer is taken off, so the place where the others start moves on.
  induction count generalizing sent with
  | zero => exact ⟨[], rfl, rfl⟩
  | succ count ih =>
      have passing : (server sent).IsPassing := passes 0 count.succ_pos
      obtain ⟨cost, first⟩ := persist_of_passing server jitter post (left + count) passing
      obtain ⟨costs, costs_length, later⟩ := ih passes.tail
      refine ⟨cost :: costs, ?_, ?_⟩
      · rw [List.length_cons, costs_length]
      · rw [← Nat.add_assoc, first, later, List.flatMap_cons, List.append_assoc,
          Nat.add_right_comm, Nat.add_assoc]

theorem persist_of_not_passing (left : Nat) {sent : Nat} (url : String)
    (decisive : ¬(server sent).IsPassing) :
    ∃ outcome, persist server jitter post left sent = ⟨[.post post], outcome⟩ ∧
      (server sent).Settles url (outcome >>= fun reply => readBody reply url) := by
  rw [persist]
  cases answer : server sent with
  | ok reply =>
      have settled : isBusy reply.status ≠ true := by
        rw [answer] at decisive
        exact fun busy => decisive (isBusy_iff.mp busy)
      rw [judge, if_neg settled]
      exact ⟨.ok reply, rfl, readBody_settles reply url⟩
  | error failure =>
      have final : failure.kind.isPassing ≠ true := by
        rw [answer] at decisive
        exact fun passes => decisive (isPassing_kind_iff.mp passes)
      rw [judge, if_neg final]
      exact ⟨.error (.failure failure), rfl, .failure failure⟩

theorem persist_zero_of_passing {sent : Nat} (passing : (server sent).IsPassing) :
    ∃ fault, persist server jitter post 0 sent = ⟨[.post post], .error fault⟩ ∧
      (server sent).Exhausts fault := by
  obtain ⟨fault, judged, exhausts⟩ := exists_judge_of_passing passing
  refine ⟨fault, ?_, exhausts⟩
  rw [persist, judged]
  rfl

variable (client : Client) (request : Request)

theorem execute_eq (sent : Nat) :
    let exchange := persist server jitter (client.post request) (attempts - 1) sent
    let run := execute client server jitter sent request
    (∃ written, run.trace = .record written :: exchange.trace) ∧
      run.outcome = exchange.outcome >>= fun reply => readBody reply (client.post request).url := by
  intro exchange run
  let written : Record :=
    ⟨.debug, s!"Search request: url={(client.post request).url} size={request.size}"⟩
  have run_eq : run = (do
      Traced.emit (.record written)
      let reply ← exchange
      Traced.ofExcept (readBody reply (client.post request).url)) := rfl
  rw [run_eq]
  obtain ⟨trace, _ | reply⟩ := exchange
  · exact ⟨⟨written, rfl⟩, rfl⟩
  · exact ⟨⟨written, congrArg (Event.record written :: ·) (List.append_nil trace)⟩, rfl⟩

/-- The first answer that does not pass decides about a request, if an attempt is left for it, and
each answer before it has cost one round. -/
theorem exists_rounds_execute {passed sent : Nat} (small : passed < attempts)
    (passes : server.Passes sent passed) (decisive : ¬(server (sent + passed)).IsPassing) :
    let run := execute client server jitter sent request
    let post := client.post request
    (∃ written, ∃ costs : List (Record × Float), costs.length = passed ∧
        run.trace = .record written :: (costs.flatMap (round post) ++ [.post post])) ∧
      (server (sent + passed)).Settles post.url run.outcome := by
  obtain ⟨⟨written, trace_eq⟩, outcome_eq⟩ := execute_eq server jitter client request sent
  obtain ⟨costs, costs_length, exchange⟩ := persist_of_passes server jitter
    (client.post request) (attempts - 1 - passed) passes
  obtain ⟨outcome, last, settles⟩ := persist_of_not_passing server jitter (client.post request)
    (attempts - 1 - passed) (client.post request).url decisive
  rw [Nat.sub_add_cancel (Nat.le_sub_one_of_lt small), last] at exchange
  rw [exchange] at trace_eq outcome_eq
  refine ⟨⟨written, costs, costs_length, trace_eq⟩, ?_⟩
  rw [outcome_eq]
  exact settles

/-- What the first answer that does not pass makes of a request, counted in posts and pauses. -/
theorem execute_of_not_passing {passed sent : Nat} (small : passed < attempts)
    (passes : server.Passes sent passed) (decisive : ¬(server (sent + passed)).IsPassing) :
    let run := execute client server jitter sent request
    Event.posts run.trace = List.replicate (passed + 1) (client.post request) ∧
      (Event.pauses run.trace).length = passed ∧
      (server (sent + passed)).Settles (client.post request).url run.outcome := by
  obtain ⟨⟨written, costs, costs_length, trace_eq⟩, settles⟩ :=
    exists_rounds_execute server jitter client request small passes decisive
  refine ⟨?_, ?_, settles⟩
  · rw [trace_eq, ← List.singleton_append, Event.posts_append, Event.posts_append, posts_rounds,
      costs_length, List.replicate_succ']
    rfl
  · rw [trace_eq, ← List.singleton_append, Event.pauses_append, Event.pauses_append, pauses_rounds,
      List.length_append, List.length_append, List.length_map, costs_length]
    exact Nat.zero_add passed

/-- When all attempts pass, the answer to the last one is the fault. -/
theorem execute_of_passes {sent : Nat} (passes : server.Passes sent attempts) :
    let run := execute client server jitter sent request
    Event.posts run.trace = List.replicate attempts (client.post request) ∧
      (Event.pauses run.trace).length = attempts - 1 ∧
      ∃ fault, (server (sent + (attempts - 1))).Exhausts fault ∧ run.outcome = .error fault := by
  obtain ⟨⟨written, trace_eq⟩, outcome_eq⟩ := execute_eq server jitter client request sent
  have before : server.Passes sent (attempts - 1) := fun n small =>
    passes n (Nat.lt_of_lt_pred small)
  obtain ⟨costs, costs_length, exchange⟩ := persist_of_passes server jitter
    (client.post request) 0 before
  obtain ⟨fault, last, exhausts⟩ := persist_zero_of_passing server jitter (client.post request)
    (passes (attempts - 1) (by decide))
  rw [Nat.zero_add, last] at exchange
  rw [exchange] at trace_eq outcome_eq
  refine ⟨?_, ?_, fault, exhausts, outcome_eq⟩
  · rw [trace_eq, ← List.singleton_append, Event.posts_append, Event.posts_append, posts_rounds,
      costs_length]
    rfl
  · rw [trace_eq, ← List.singleton_append, Event.pauses_append, Event.pauses_append, pauses_rounds,
      List.length_append, List.length_append, List.length_map, costs_length]
    rfl

end Client

namespace Session

theorem mapError_engine_injective :
    Function.Injective (Except.mapError ServiceFault.engine : Except ClientFault Value → _) := by
  rintro (fault | value) (other | value_too) same
  · rw [ServiceFault.engine.inj (Except.error.inj same)]
  · exact nomatch same
  · exact nomatch same
  · rw [Except.ok.inj same]

/-- Number of posts that were sent. -/
def postCount (runs : List (Traced Event Fault Value)) : Nat :=
  (runs.flatMap fun run => Event.posts run.trace).length

/-- Each use of a client starts with the answer behind those that the uses before it have taken. -/
theorem getElem?_useAll (setting : Setting) (steps : List Step) (sent position : Nat) :
    (setting.useAll sent steps)[position]? =
      steps[position]?.map
        (setting.use (sent + postCount ((setting.useAll sent steps).take position))) := by
  induction steps generalizing sent position with
  | nil => rfl
  | cons step rest ih =>
      cases position with
      | zero => rfl
      | succ position =>
          have later := ih (sent + (Event.posts (setting.use sent step).trace).length) position
          simpa [Setting.useAll, postCount, Nat.add_assoc] using later

theorem use_ask_eq (setting : Setting) (sent : Nat) {raw : RawParameters} {request : Request}
    (compiled : (setting.policy.compileRaw setting.zone setting.now raw).outcome = .ok request) :
    let exchange := setting.client.execute setting.server setting.jitter sent request
    let run := setting.use sent (.ask raw)
    Event.posts run.trace = Event.posts exchange.trace ∧
      Event.pauses run.trace = Event.pauses exchange.trace ∧
      run.outcome = exchange.outcome.mapError .engine := by
  intro exchange run
  have run_eq : run = (do
      let request ← (setting.policy.compileRaw setting.zone setting.now raw).widen .record .search
      (setting.client.execute setting.server setting.jitter sent request).widen id .engine) := rfl
  rw [run_eq]
  generalize setting.policy.compileRaw setting.zone setting.now raw = compilation at compiled ⊢
  obtain ⟨written, outcome⟩ := compilation
  obtain rfl : outcome = .ok request := compiled
  refine ⟨?_, ?_, rfl⟩
  · show Event.posts (written.map Event.record ++ exchange.trace.map id) =
      Event.posts exchange.trace
    rw [Event.posts_append, Event.posts_map_record, List.map_id, List.nil_append]
  · show Event.pauses (written.map Event.record ++ exchange.trace.map id) =
      Event.pauses exchange.trace
    rw [Event.pauses_append, Event.pauses_map_record, List.map_id, List.nil_append]

/-- A use of a client that starts with a certain answer and makes the same post again and again. The
first answer that does not pass decides about it, if it is among the four that come next; otherwise
the fourth answer is the fault. -/
structure IsDecidedBy (settles : String → Answer → Except ClientFault Value → Prop)
    (server : Server) (start : Nat) (post : Post) (run : Traced Event Fault Value) : Prop where
  /-- Each answer before the one that decides costs a post and a pause. -/
  decided : ∀ passed < 4, server.Passes start passed → ¬(server (start + passed)).IsPassing →
    Event.posts run.trace = List.replicate (passed + 1) post ∧
      (Event.pauses run.trace).length = passed ∧
      ∃ outcome, settles post.url (server (start + passed)) outcome ∧
        run.outcome = outcome.mapError .engine
  /-- There is no fifth post. -/
  exhausted : server.Passes start 4 →
    Event.posts run.trace = List.replicate 4 post ∧
      (Event.pauses run.trace).length = 3 ∧
      ∃ fault, (server (start + 3)).Exhausts fault ∧ run.outcome = .error (.engine fault)

/-- The answer that decides is taken as it is meant to, if and only if it does not break at a
number. -/
theorem isDecidedBy_promises_iff {server : Server} {start : Nat} {post : Post}
    {run : Traced Event Fault Value} (known : IsDecidedBy Answer.Settles server start post run) :
    IsDecidedBy Answer.Promises server start post run ↔
      ∀ passed < 4, server.Passes start passed → ¬(server (start + passed)).IsPassing →
        ¬(server (start + passed)).BreaksAtNumber := by
  constructor
  · intro promised passed small passes decisive
    obtain ⟨_, _, outcome, settles, ended⟩ := known.decided passed small passes decisive
    obtain ⟨_, _, other, promises, ended_too⟩ := promised.decided passed small passes decisive
    rw [← mapError_engine_injective (ended.symm.trans ended_too)] at promises
    exact settles.promises_iff.mp promises
  · refine fun unbroken => ⟨fun passed small passes decisive => ?_, known.exhausted⟩
    obtain ⟨posts, pauses, outcome, settles, ended⟩ := known.decided passed small passes decisive
    exact ⟨posts, pauses, outcome,
      settles.promises_iff.mpr (unbroken passed small passes decisive), ended⟩

/-- The first answer that does not pass decides about a request. -/
theorem use_isDecidedBy_settles (setting : Setting) (start : Nat) {raw : RawParameters}
    {request : Request}
    (compiled : (setting.policy.compileRaw setting.zone setting.now raw).outcome = .ok request) :
    IsDecidedBy Answer.Settles setting.server start (setting.client.post request)
      (setting.use start (.ask raw)) := by
  obtain ⟨posts_eq, pauses_eq, outcome_eq⟩ := use_ask_eq setting start compiled
  constructor
  · intro passed small passes decisive
    obtain ⟨posts, pauses, settles⟩ := Client.execute_of_not_passing setting.server setting.jitter
      setting.client request small passes decisive
    exact ⟨posts_eq.trans posts, (congrArg List.length pauses_eq).trans pauses, _, settles,
      outcome_eq⟩
  · intro passes
    obtain ⟨posts, pauses, fault, exhausts, failed⟩ := Client.execute_of_passes setting.server
      setting.jitter setting.client request passes
    exact ⟨posts_eq.trans posts, (congrArg List.length pauses_eq).trans pauses, fault, exhausts,
      outcome_eq.trans (congrArg (Except.mapError ServiceFault.engine) failed)⟩

/-- Wherever a request comes in a session, the first answer that does not pass decides about it. It
is taken as it is meant to, if and only if it does not break at a number. -/
theorem useAll_decided_iff (setting : Setting) (steps : List Step) (position : Nat)
    (raw : RawParameters) (request : Request) (asked : steps[position]? = some (.ask raw))
    (compiled : (setting.policy.compileRaw setting.zone setting.now raw).outcome = .ok request) :
    let runs := setting.useAll 0 steps
    let start := postCount (runs.take position)
    let post := setting.client.post request
    ∃ run, runs[position]? = some run ∧
      IsDecidedBy Answer.Settles setting.server start post run ∧
      (IsDecidedBy Answer.Promises setting.server start post run ↔
        ∀ passed < 4, setting.server.Passes start passed →
          ¬(setting.server (start + passed)).IsPassing →
          ¬(setting.server (start + passed)).BreaksAtNumber) := by
  intro runs start post
  have known := use_isDecidedBy_settles setting start compiled
  refine ⟨setting.use start (.ask raw), ?_, known, isDecidedBy_promises_iff known⟩
  rw [getElem?_useAll, asked, Option.map_some, Nat.zero_add]

/-- A session in which the third answer is a response, and the four behind it all pass. -/
def troubled : Setting where
  client := .connect "http://es:9200/" none
  server := .ofList [.error ⟨.timeout, "slow"⟩, .ok ⟨503, "", ""⟩, .ok ⟨200, "", "\x7b\x7d"⟩,
    .error ⟨.security, "cert"⟩, .ok ⟨429, "", ""⟩, .ok ⟨502, "", ""⟩, .error ⟨.refusal, "gone"⟩]
  jitter := 0.0
  policy := {}
  zone := .utc
  now := .epoch

/-- Uses of a client of which the second and the third one post nothing. -/
def uses : List Step :=
  [.ask [("tags", .text "ops")], .ask [("start", .text "dawn")], .close, .ask []]

theorem useAll_decided_iff_troubled :
    let runs := troubled.useAll 0 uses
    let request : Request :=
      { index := "olog_logs*"
        query := .all []
        sort := [⟨"createdDate", .descending⟩]
        offset := 0
        size := 100
        seconds := 60 }
    uses[3]? = some (.ask []) ∧
      (troubled.policy.compileRaw troubled.zone troubled.now []).outcome = .ok request ∧
      postCount (runs.take 3) = 3 ∧
      ∃ run, runs[3]? = some run ∧
        Event.posts run.trace = List.replicate 4 (troubled.client.post request) ∧
        (Event.pauses run.trace).length = 3 ∧
        run.outcome = .error (.engine (.failure ⟨.refusal, "gone"⟩)) := by
  intro runs request
  have start_eq : postCount (runs.take 3) = 3 := rfl
  obtain ⟨run, found, known, _⟩ := useAll_decided_iff troubled uses 3 [] request rfl rfl
  have passes : troubled.server.Passes (postCount (runs.take 3)) 4 := by
    rw [start_eq]
    intro n small
    have cases : n = 0 ∨ n = 1 ∨ n = 2 ∨ n = 3 := by omega
    rcases cases with rfl | rfl | rfl | rfl <;> decide
  obtain ⟨posts, pauses, fault, exhausts, failed⟩ := known.exhausted passes
  cases exhausts with
  | failure cause => exact ⟨rfl, rfl, start_eq, run, found, posts, pauses, failed⟩

/-- A body that gives its only key a whole number and then a one. -/
def overridden (ds : List Char) : List Char :=
  '\x7b' :: '\"' :: 'n' :: '\"' :: ':' :: (ds ++ ", \"n\": 1\x7d".toList)

theorem breaksAtNumber_overridden {ds : List Char} (significant : Decimal.IsSignificant ds)
    (long : Decimal.digitLimit < ds.length) :
    Answer.BreaksAtNumber (.ok ⟨200, "", String.ofList (overridden ds)⟩) := by
  have text_eq : Reply.text ⟨200, "", String.ofList (overridden ds)⟩ = overridden ds := by
    rw [Reply.text, String.toList_ofList]
    rfl
  rw [Answer.BreaksAtNumber, text_eq]
  exact ⟨.inl (show (200 : Int) < 400 by decide),
    ⟨_, Json.readChars_of_long significant long (Json.endsNumber_cons (by decide) _) ['n']⟩,
    Json.readUpTo_brace none _⟩

/-- Digits of a whole number that is just too long. -/
def longDigits : List Char :=
  List.replicate (Decimal.digitLimit + 1) '1'

theorem isSignificant_longDigits : Decimal.IsSignificant longDigits where
  isDigit _ member := List.eq_of_mem_replicate member ▸ rfl
  filled := List.cons_ne_nil _ _
  first := by simp [longDigits, List.replicate_succ]

/-- A session with a server that sends an object with such a number. -/
def lengthy : Setting where
  client := .connect "http://es:9200/" none
  server := .ofList [.ok ⟨200, "", String.ofList (overridden longDigits)⟩]
  jitter := 0.0
  policy := {}
  zone := .utc
  now := .epoch

theorem not_isDecidedBy_promises_lengthy :
    let request : Request :=
      { index := "olog_logs*"
        query := .all []
        sort := [⟨"createdDate", .descending⟩]
        offset := 0
        size := 100
        seconds := 60 }
    (lengthy.policy.compileRaw lengthy.zone lengthy.now []).outcome = .ok request ∧
      ∃ run, lengthy.useAll 0 [.ask []] = [run] ∧
        ¬IsDecidedBy Answer.Promises lengthy.server 0 (lengthy.client.post request) run := by
  intro request
  have compiled :
      (lengthy.policy.compileRaw lengthy.zone lengthy.now []).outcome = .ok request := rfl
  refine ⟨compiled, lengthy.use 0 (.ask []), rfl, fun promised => ?_⟩
  have known := use_isDecidedBy_settles lengthy 0 compiled
  exact (isDecidedBy_promises_iff known).mp promised 0 (by decide) nofun (by decide)
    (breaksAtNumber_overridden isSignificant_longDigits
      (Nat.lt_of_lt_of_eq (Nat.lt_succ_self _) (List.length_replicate).symm))

end Session

end EntrySearch
