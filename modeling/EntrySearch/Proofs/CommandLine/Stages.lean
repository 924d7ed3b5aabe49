import EntrySearch.CommandLine.Run
import EntrySearch.Proofs.Exchange.Response
import EntrySearch.Proofs.Traces

/-!
# The stages of a command

Both commands make the same request first. One prints it; the other lets the server carry it out and
prints the hits of the response, all of which can be printed.
-/

namespace EntrySearch.CommandLine

open Traced Outcome

/-- Make the request for an inquiry. -/
def requestFor (world : World) (policy : Policy) (inquiry : Inquiry) : Doing Request := do
  let now ← presentTime world inquiry.now
  (policy.compile world.zone now inquiry.parameters).widen .record
    fun fault => .search (.search fault)

/-- Print a request as the command that only compiles does. -/
def showRequest (request : Request) : Doing Unit :=
  print Value.jsonBlock (.record [("index", .text request.index), ("body", request.body)])

/-- Let the server carry out a request and take out of its response what was found. -/
def resultOf (world : World) (client : Client) (request : Request) : Doing SearchResult :=
  (Service.carryOut (answer world client) request).widen id .search

/-- Print what was found. -/
def present (result : SearchResult) : Doing Unit := do
  printHits result.hits
  emit <| .record ⟨.info, s!"Returned {result.hits.length} of {result.total} log entries"⟩

variable (world : World) (policy : Policy) (client : Client) (inquiry : Inquiry)

theorem preview_eq :
    preview world policy inquiry = requestFor world policy inquiry >>= showRequest :=
  (bind_assoc _ _ _).symm

theorem lookUp_eq :
    lookUp world policy client inquiry =
      requestFor world policy inquiry >>= fun request =>
        resultOf world client request >>= present := by
  unfold lookUp Service.search requestFor
  rw [bind_assoc]
  refine congrArg (presentTime world inquiry.now >>= ·) (funext fun now => ?_)
  rw [widen_bind, widen_widen, bind_assoc]
  rfl

/-- Making a request does nothing but write light records. -/
theorem only_requestFor :
    Only (fun event => ∃ written, event = .record written ∧ written.IsCalm)
      (requestFor world policy inquiry) := by
  have timed : Only (fun event => ∃ written, event = .record written ∧ written.IsCalm)
      (presentTime world inquiry.now) := by
    unfold presentTime
    split
    · exact only_pure _
    · split
      · exact only_pure _
      · exact only_ofExcept _
  refine timed.bind fun now => ?_
  exact (policy.only_compile world.zone now inquiry.parameters).widen _ fun written calm =>
    ⟨written, rfl, calm⟩

theorem light_requestFor :
    Event.posts (requestFor world policy inquiry).trace = [] ∧
      Event.lines (requestFor world policy inquiry).trace = [] := by
  have light := only_requestFor world policy inquiry
  constructor
  · refine List.filterMap_eq_nil_iff.mpr fun event member => ?_
    obtain ⟨written, rfl, _⟩ := light event member
    rfl
  · refine List.filterMap_eq_nil_iff.mpr fun event member => ?_
    obtain ⟨written, rfl, _⟩ := light event member
    rfl

/-- Carrying out a request prints nothing, goes on with the session and reports no error. -/
theorem only_resultOf (request : Request) :
    Only Event.IsInner (resultOf world client request) := by
  have answered : Only Event.IsInner (answer world client request) := by
    unfold answer
    split
    · exact client.only_execute world.server world.jitter 0 request
    · exact only_fail _
  exact (Service.only_carryOut answered).widen _ fun _ fine => fine

theorem posts_resultOf_eq (request : Request) :
    Event.posts (resultOf world client request).trace =
      Event.posts (answer world client request).trace :=
  (congrArg Event.posts (List.map_id _)).trans Service.posts_carryOut

/-- A request is posted as it is, if it can be written, and more than once if need be; otherwise it
is not posted. -/
theorem posts_resultOf (request : Request) :
    ∃ count ≤ Client.attempts, (0 < count ↔ request.body.isWritable = true) ∧
      Event.posts (resultOf world client request).trace =
        List.replicate count (client.post request) := by
  rw [posts_resultOf_eq, answer]
  split
  · rename_i written
    obtain ⟨count, positive, most, posts⟩ :=
      client.posts_execute world.server world.jitter request 0
    exact ⟨count, most, ⟨fun _ => written, fun _ => positive⟩, posts⟩
  · rename_i unwritten
    exact ⟨0, Nat.zero_le _, ⟨nofun, fun written => absurd written unwritten⟩, rfl⟩

/-- What is found is taken out of the response that the answer to the last post gives. -/
theorem settles_of_resultOf {request : Request} {result : SearchResult}
    (ended : (resultOf world client request).outcome = .ok result) :
    ∃ passed response, Event.posts (resultOf world client request).trace =
        List.replicate (passed + 1) (client.post request) ∧
      (world.server passed).Settles (client.post request).url (.ok response) ∧
      SearchResult.ofResponse response = .ok result := by
  obtain ⟨response, answered, taken⟩ :=
    Service.outcome_carryOut_eq_ok_iff.mp (mapError_eq_ok_iff.mp ended)
  rw [posts_resultOf_eq]
  unfold answer at answered ⊢
  split at answered
  · rename_i written
    obtain ⟨passed, posts, settles⟩ :=
      client.settles_of_execute world.server world.jitter request answered
    rw [Nat.zero_add] at settles
    rw [if_pos written]
    exact ⟨passed, response, posts, settles, taken⟩
  · exact nomatch answered

/-- If the answer to the last post gives a response that is taken, its result is found. -/
theorem resultOf_of_settles {request : Request} {passed : Nat} {post : Post} {response : Value}
    {result : SearchResult}
    (posted : Event.posts (resultOf world client request).trace = List.replicate (passed + 1) post)
    (settles : (world.server passed).Settles post.url (.ok response))
    (taken : SearchResult.ofResponse response = .ok result) :
    (resultOf world client request).outcome = .ok result := by
  refine mapError_eq_ok_iff.mpr (Service.outcome_carryOut_eq_ok_iff.mpr ⟨response, ?_, taken⟩)
  rw [posts_resultOf_eq] at posted
  unfold answer at posted ⊢
  split at posted
  · rename_i written
    rw [if_pos written]
    rw [← Nat.zero_add passed] at settles
    exact client.execute_of_settles world.server world.jitter request posted settles
  · contradiction

theorem only_print {allowed : Event → Prop} (write : Value → String) (value : Value)
    (lines : ∀ text, allowed (.line text)) : Only allowed (print write value) := by
  unfold print
  split
  · exact only_emit (lines _)
  · exact only_fail _

/-- What was found is printed line by line, and one light record is written. -/
theorem only_present {allowed : Event → Prop} (result : SearchResult)
    (lines : ∀ text, allowed (.line text))
    (records : ∀ message, allowed (.record ⟨.info, message⟩)) : Only allowed (present result) := by
  have printed (hits : List Hit) : Only allowed (printHits hits) := by
    induction hits with
    | nil => exact only_pure _
    | cons hit rest ih => exact (only_print Value.json hit.toValue lines).bind fun _ => ih
  exact (printed result.hits).bind fun _ => only_emit (records _)

/-- Nothing is posted once the result is there. -/
theorem posts_bind_present (request : Request) :
    Event.posts (resultOf world client request >>= present).trace =
      Event.posts (resultOf world client request).trace :=
  posts_bind fun result => only_present result (fun _ => rfl) fun _ => rfl

/-- A request that cannot be written has no result: there is no post that would be answered. -/
theorem failed_of_unwritable {request : Request} (unwritten : request.body.isWritable = false) :
    ∃ fault, (resultOf world client request).outcome = .error fault := by
  unfold resultOf Service.carryOut answer
  rw [if_neg (Bool.eq_false_iff.mp unwritten)]
  exact ⟨_, rfl⟩

theorem printHits_eq {hits : List Hit} (written : ∀ hit ∈ hits, hit.toValue.isWritable = true) :
    printHits hits = ⟨(hits.map fun hit => hit.toValue.json).map .line, .ok ()⟩ := by
  induction hits with
  | nil => rfl
  | cons hit rest ih =>
      obtain ⟨here, later⟩ := List.forall_mem_cons.mp written
      rw [printHits, ih later, print, if_pos here]
      rfl

theorem present_eq {result : SearchResult}
    (written : ∀ hit ∈ result.hits, hit.toValue.isWritable = true) :
    ∃ message, present result =
      ⟨(result.hits.map fun hit => hit.toValue.json).map .line ++ [.record ⟨.info, message⟩],
        .ok ()⟩ := by
  rw [present, printHits_eq written]
  exact ⟨_, rfl⟩

end EntrySearch.CommandLine
