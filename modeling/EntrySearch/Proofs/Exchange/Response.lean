import EntrySearch.Proofs.Exchange.Persistence
import EntrySearch.Proofs.Json.Writable

/-!
# What becomes of a request

A request is posted at least once and at most four times, always in the same way. If there is a
response, the answer to the last post is the one that gives it, and it can be written again.
-/

namespace EntrySearch

open Outcome

/-- Of some answers in a row, all pass or one is the first that does not. -/
theorem Server.passes_or_decides (server : Server) (start count : Nat) :
    server.Passes start count ∨
      ∃ passed < count, server.Passes start passed ∧ ¬(server (start + passed)).IsPassing := by
  induction count with
  | zero => exact .inl nofun
  | succ count ih =>
      rcases ih with passes | ⟨passed, small, before, decisive⟩
      · by_cases last : (server (start + count)).IsPassing
        · refine .inl fun n small => ?_
          rcases Nat.lt_succ_iff_lt_or_eq.mp small with earlier | rfl
          · exact passes n earlier
          · exact last
        · exact .inr ⟨count, count.lt_succ_self, passes, last⟩
      · exact .inr ⟨passed, Nat.lt_succ_of_lt small, before, decisive⟩

namespace Answer.Settles

variable {url : String} {answer : Answer}

/-- An answer makes one thing of a request. -/
theorem unique {outcome other : Except ClientFault Value} (settles : answer.Settles url outcome)
    (settles_too : answer.Settles url other) : outcome = other := by
  cases settles <;> cases settles_too
  all_goals grind [Value.entries?]

theorem not_isPassing {response : Value} (settles : answer.Settles url (.ok response)) :
    ¬answer.IsPassing := by
  cases settles with
  | object outside read =>
      intro passing
      simp only [IsPassing, List.mem_cons, List.not_mem_nil, or_false] at passing
      omega

end Answer.Settles

namespace Client

variable (server : Server) (jitter : Float) (client : Client) (request : Request)

/-- A request is posted again and again, but not more often than there are attempts. -/
theorem posts_execute (sent : Nat) :
    ∃ count, 0 < count ∧ count ≤ attempts ∧
      Event.posts (client.execute server jitter sent request).trace =
        List.replicate count (client.post request) := by
  rcases server.passes_or_decides sent attempts with passes | ⟨passed, small, passes, decisive⟩
  · obtain ⟨posts, _⟩ := execute_of_passes server jitter client request passes
    exact ⟨attempts, by decide, Nat.le_refl _, posts⟩
  · obtain ⟨posts, _⟩ := execute_of_not_passing server jitter client request small passes decisive
    exact ⟨passed + 1, passed.succ_pos, small, posts⟩

/-- A response is settled by the answer to the last post. -/
theorem settles_of_execute {sent : Nat} {response : Value}
    (ended : (client.execute server jitter sent request).outcome = .ok response) :
    ∃ passed, Event.posts (client.execute server jitter sent request).trace =
        List.replicate (passed + 1) (client.post request) ∧
      (server (sent + passed)).Settles (client.post request).url (.ok response) := by
  rcases server.passes_or_decides sent attempts with passes | ⟨passed, small, passes, decisive⟩
  · obtain ⟨_, _, fault, _, failed⟩ := execute_of_passes server jitter client request passes
    rw [failed] at ended
    exact nomatch ended
  · obtain ⟨posts, _, settles⟩ :=
      execute_of_not_passing server jitter client request small passes decisive
    rw [ended] at settles
    exact ⟨passed, posts, settles⟩

/-- If the answer to the last post gives a response, the request has it. -/
theorem execute_of_settles {sent passed : Nat} {post : Post} {response : Value}
    (posted : Event.posts (client.execute server jitter sent request).trace =
      List.replicate (passed + 1) post)
    (settles : (server (sent + passed)).Settles post.url (.ok response)) :
    (client.execute server jitter sent request).outcome = .ok response := by
  rcases server.passes_or_decides sent attempts with passes | ⟨first, small, passes, decisive⟩
  · obtain ⟨posts, _⟩ := execute_of_passes server jitter client request passes
    obtain ⟨count_eq, _⟩ := List.replicate_inj.mp (posts.symm.trans posted)
    exact absurd (passes passed (by omega)) settles.not_isPassing
  · obtain ⟨posts, _, decided⟩ :=
      execute_of_not_passing server jitter client request small passes decisive
    obtain ⟨count_eq, post_eq⟩ := List.replicate_inj.mp (posts.symm.trans posted)
    obtain rfl : first = passed := Nat.succ.inj count_eq
    rw [← post_eq.resolve_left (Nat.succ_ne_zero _)] at settles
    exact decided.unique settles

end Client

/-- A response is read as JSON. -/
theorem Answer.Settles.isJson {url : String} {answer : Answer} {response : Value}
    (settles : answer.Settles url (.ok response)) : Json.IsJson response := by
  cases settles with
  | object outside read => exact Json.readChars_isJson _ _ read

/-- So it can be written. -/
theorem Answer.Settles.isWritable {url : String} {answer : Answer} {response : Value}
    (settles : answer.Settles url (.ok response)) : response.isWritable = true :=
  settles.isJson.isWritable

end EntrySearch
