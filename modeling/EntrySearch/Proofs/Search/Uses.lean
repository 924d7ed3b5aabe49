import EntrySearch.Proofs.Search.Arguments
import EntrySearch.Proofs.Traces

/-!
# Uses of the service, one after another

A service is used again and again, each time at a time of its own. What a use ends with depends on
that use alone. The requests handed to the engine so far are those of the searches so far that were
understood, and the session was ended as often as that was asked for.
-/

namespace EntrySearch.Service

open Outcome

variable {φ : Type}

/-- A use of the service and the time at which it is made. -/
structure Turn (φ : Type) where
  /-- The present. -/
  now : Present
  /-- The use. -/
  step : Step φ

/-- The use ends the session. -/
def Turn.isClose (turn : Turn φ) : Bool :=
  match turn.step with
  | .search _ _ => false
  | .close => true

/-- What a search with an engine comes to, for an answer of the engine. -/
inductive Concludes : Except φ Value → Except (ServiceFault φ) SearchResult → Prop where
  /-- A fault of the engine is passed on unchanged. -/
  | failed (failure : φ) : Concludes (.error failure) (.error (.engine failure))
  /-- The response is refused. -/
  | unreadable {response : Value} {fault : ResponseFault}
      (taken : SearchResult.ofResponse response = .error fault) :
      Concludes (.ok response) (.error (.response fault))
  /-- The result is what is found in the response. -/
  | found {response : Value} {result : SearchResult}
      (taken : SearchResult.ofResponse response = .ok result) :
      Concludes (.ok response) (.ok result)

/-- Where a service looks, and whether its engine has a session to end. -/
structure Setting where
  /-- Where searches look. -/
  policy : Policy
  /-- Local time zone. -/
  zone : Time.Zone
  /-- Whether there is a session to end. -/
  closable : Bool

namespace Setting

/-- Use the service once. -/
def use (setting : Setting) (turn : Turn φ) :
    Traced Event (ServiceFault φ) (Option SearchResult) :=
  Service.use setting.policy setting.zone (turn.now.resolve setting.zone) setting.closable turn.step

/-- Use the service again and again. Each use ends with an outcome and leaves all that has been done
so far. -/
def useAll (setting : Setting) (done : List Event) :
    List (Turn φ) → List (Traced Event (ServiceFault φ) (Option SearchResult))
  | [] => []
  | turn :: rest =>
    let run := setting.use turn
    ⟨done ++ run.trace, run.outcome⟩ :: setting.useAll (done ++ run.trace) rest

variable (setting : Setting)

/-- What compiling search parameters alone gives. -/
def compiled (now : Present) (raw : RawParameters) : Except SearchFault Request :=
  (setting.policy.compileRaw setting.zone (now.resolve setting.zone) raw).outcome

/-- The request of a use, if it is a search that is understood. -/
def request? (turn : Turn φ) : Option Request :=
  match turn.step with
  | .search raw _ => (setting.compiled turn.now raw).toOption
  | .close => none

/-- What a use of the service does, apart from the records it writes, and what it ends with. -/
inductive Ends : Turn φ → List Event → Except (ServiceFault φ) (Option SearchResult) → Prop where
  /-- Parameters that are not understood are refused, and the engine is left alone. -/
  | refused {now : Present} {raw : RawParameters} {answer : Except φ Value} {fault : SearchFault}
      {own : List Event} (refused : setting.compiled now raw = .error fault)
      (unasked : Event.requests own = []) (unclosed : Event.closes own = 0) :
      Ends ⟨now, .search raw answer⟩ own (.error (.search fault))
  /-- The request is handed to the engine once, and its answer decides. -/
  | answered {now : Present} {raw : RawParameters} {answer : Except φ Value} {request : Request}
      {own : List Event} {outcome : Except (ServiceFault φ) SearchResult}
      (understood : setting.compiled now raw = .ok request)
      (asked : Event.requests own = [request]) (unclosed : Event.closes own = 0)
      (concludes : Concludes answer outcome) :
      Ends ⟨now, .search raw answer⟩ own (outcome.map some)
  /-- The session is ended, if there is one; otherwise nothing is done. -/
  | closed {now : Present} :
      Ends ⟨now, .close⟩ (if setting.closable then [.close] else []) (.ok none)

end Setting

/-- A request is handed to the engine before anything else is done, and its answer decides. -/
theorem carryOut_ofExcept (request : Request) (answer : Except φ Value) :
    ∃ (later : List Record) (outcome : Except (ServiceFault φ) SearchResult),
      Concludes answer outcome ∧
        carryOut (fun _ => .ofExcept answer) request =
          ⟨.request request :: later.map .record, outcome⟩ := by
  cases answer with
  | error failure => exact ⟨[], _, .failed failure, rfl⟩
  | ok response =>
      cases taken : SearchResult.ofResponse response with
      | error fault =>
          refine ⟨[], _, .unreadable taken, ?_⟩
          simp [carryOut, Traced.emit, Traced.widen, Traced.ofExcept, mapError_ok, mapError_error,
            taken]
      | ok result =>
          have completed : ∃ message, carryOut (fun _ => .ofExcept (.ok response)) request =
              (⟨[.request request, .record ⟨.info, message⟩], .ok result⟩ :
                Traced Event (ServiceFault φ) SearchResult) := by
            simp [carryOut, note, Traced.emit, Traced.widen, Traced.ofExcept, mapError_ok, taken]
          obtain ⟨message, run_eq⟩ := completed
          exact ⟨[⟨.info, message⟩], _, .found taken, run_eq⟩

namespace Setting

variable (setting : Setting)

/-- One use of the service, whatever was done before. -/
theorem ends_use (turn : Turn φ) :
    setting.Ends turn (setting.use turn).trace (setting.use turn).outcome := by
  obtain ⟨now, step⟩ := turn
  cases step with
  | close =>
      have run_eq : setting.use ⟨now, .close⟩ =
          (⟨if setting.closable then [.close] else [], .ok none⟩ :
            Traced Event (ServiceFault φ) (Option SearchResult)) := by
        unfold use Service.use
        cases setting.closable <;> rfl
      rw [run_eq]
      exact .closed
  | search raw answer =>
      have run_eq : setting.use ⟨now, .search raw answer⟩ = (do
          let request ← (setting.policy.compileRaw setting.zone (now.resolve setting.zone)
            raw).widen .record .search
          let result ← carryOut (fun _ => .ofExcept answer) request
          return some result) := rfl
      have understood : setting.compiled now raw =
          (setting.policy.compileRaw setting.zone (now.resolve setting.zone) raw).outcome := rfl
      rw [run_eq]
      generalize setting.policy.compileRaw setting.zone (now.resolve setting.zone) raw =
        compilation at understood ⊢
      obtain ⟨written, fault | request⟩ := compilation
      · exact .refused understood (Event.requests_map_record written)
          (Event.closes_map_record written)
      · obtain ⟨later, outcome, concludes, carried⟩ := carryOut_ofExcept request answer
        let own : List Event := written.map .record ++ .request request :: later.map .record
        have asked : Event.requests own = [request] := by
          rw [Event.requests_append, Event.requests_map_record, List.nil_append]
          exact congrArg (request :: ·) (Event.requests_map_record later)
        have unclosed : Event.closes own = 0 := by
          rw [Event.closes_append, Event.closes_map_record, Nat.zero_add]
          exact Event.closes_map_record later
        have ends := Ends.answered understood asked unclosed concludes
        simp only [Traced.widen, mapError_ok, Traced.ok_bind, carried]
        cases outcome with
        | error fault => exact ends
        | ok result =>
            simp only [Traced.pure_def, Traced.ok_bind, List.append_nil]
            exact ends

theorem account_of_ends {turn : Turn φ} {own : List Event}
    {outcome : Except (ServiceFault φ) (Option SearchResult)}
    (ends : setting.Ends turn own outcome) :
    Event.requests own = (setting.request? turn).toList ∧
      Event.closes own = if setting.closable && turn.isClose then 1 else 0 := by
  cases ends with
  | refused refused unasked unclosed =>
      simp [request?, refused, unasked, unclosed, Turn.isClose, Except.toOption]
  | answered understood asked unclosed concludes =>
      simp [request?, understood, asked, unclosed, Turn.isClose]
  | closed =>
      cases setting.closable <;> exact ⟨rfl, rfl⟩

/-- All that has been done by some uses. -/
def doneBy (turns : List (Turn φ)) : List Event :=
  turns.flatMap fun turn => (setting.use turn).trace

/-- The requests handed over by some uses are those of the searches that were understood, and the
session was ended by the uses that end it. -/
theorem account_doneBy (turns : List (Turn φ)) :
    Event.requests (setting.doneBy turns) = turns.filterMap setting.request? ∧
      Event.closes (setting.doneBy turns) =
        if setting.closable then turns.countP Turn.isClose else 0 := by
  induction turns with
  | nil => simp [doneBy, Event.requests, Event.closes]
  | cons turn rest ih =>
      obtain ⟨asked, closed⟩ := setting.account_of_ends (setting.ends_use turn)
      obtain ⟨rest_asked, rest_closed⟩ := ih
      have done_eq : setting.doneBy (turn :: rest) =
          (setting.use turn).trace ++ setting.doneBy rest := rfl
      rw [done_eq, Event.requests_append, Event.closes_append, asked, closed, rest_asked,
        rest_closed]
      constructor
      · rw [List.filterMap_cons]
        cases setting.request? turn <;> rfl
      · rw [List.countP_cons]
        cases setting.closable <;> cases turn.isClose <;> simp [Nat.add_comm]

/-- Wherever a use comes, it ends as it would end alone, and what was done before is kept. -/
theorem getElem?_useAll (done : List Event) (earlier : List (Turn φ)) (turn : Turn φ)
    (later : List (Turn φ)) :
    (setting.useAll done (earlier ++ turn :: later))[earlier.length]? =
      some ⟨done ++ setting.doneBy (earlier ++ [turn]), (setting.use turn).outcome⟩ := by
  induction earlier generalizing done with
  | nil => simp [useAll, doneBy]
  | cons first rest ih =>
      simp only [List.cons_append, useAll, List.length_cons, List.getElem?_cons_succ]
      rw [ih]
      simp [doneBy]

/-- Wherever a use comes in a sequence of uses, what it does and ends with is the same, whatever
came before. By then the requests of all searches that were understood have been handed over, each
once and in order, and the session has been ended by every use that ends it, if there is one. -/
theorem useAll_accounted (turn : Turn φ) :
    ∃ own outcome, setting.Ends turn own outcome ∧ ∀ earlier later : List (Turn φ),
      ∃ before,
        (setting.useAll [] (earlier ++ turn :: later))[earlier.length]? =
            some ⟨before ++ own, outcome⟩ ∧
          Event.requests (before ++ own) = (earlier ++ [turn]).filterMap setting.request? ∧
          Event.closes (before ++ own) =
            if setting.closable then (earlier ++ [turn]).countP Turn.isClose else 0 := by
  refine ⟨_, _, setting.ends_use turn, fun earlier later => ⟨setting.doneBy earlier, ?_⟩⟩
  have done_eq : setting.doneBy earlier ++ (setting.use turn).trace =
      setting.doneBy (earlier ++ [turn]) := by
    simp [doneBy]
  rw [done_eq, getElem?_useAll, List.nil_append]
  exact ⟨rfl, setting.account_doneBy (earlier ++ [turn])⟩

end Setting

end EntrySearch.Service
