import EntrySearch.Exchange.Client
import EntrySearch.Proofs.Exchange.Persistence
import EntrySearch.Search.Service

/-!
# What computations do

The trace of a computation is made of what its steps do. A search that is carried out posts, pauses
and writes to the journal, but it prints nothing, leaves the session open and reports no error.
-/

namespace EntrySearch

namespace Event

theorem lines_append (left right : List Event) :
    lines (left ++ right) = lines left ++ lines right :=
  List.filterMap_append

theorem requests_append (left right : List Event) :
    requests (left ++ right) = requests left ++ requests right :=
  List.filterMap_append

theorem closes_append (left right : List Event) :
    closes (left ++ right) = closes left + closes right :=
  List.countP_append

/-- Writing records hands nothing over and ends no session. -/
theorem requests_map_record (records : List Record) : requests (records.map record) = [] := by
  simp [requests, List.filterMap_map, Function.comp_def, request?]

theorem closes_map_record (records : List Record) : closes (records.map record) = 0 := by
  simp [closes, Function.comp_def, isClose]

/-- Something else than a post. -/
def IsSilent (event : Event) : Prop :=
  event.post? = none

end Event

namespace Traced

variable {τ σ ε δ α β γ : Type}

theorem bind_assoc (first : Traced τ ε α) (next : α → Traced τ ε β) (last : β → Traced τ ε γ) :
    first >>= next >>= last = first >>= fun a => next a >>= last := by
  obtain ⟨trace, _ | a⟩ := first
  · rfl
  · simp only [ok_bind]
    obtain ⟨more, _ | b⟩ := next a
    · simp only [error_bind]
    · simp only [ok_bind, List.append_assoc]

theorem widen_bind (event : τ → σ) (fault : ε → δ) (first : Traced τ ε α)
    (next : α → Traced τ ε β) :
    (first >>= next).widen event fault =
      first.widen event fault >>= fun a => (next a).widen event fault := by
  obtain ⟨trace, _ | a⟩ := first
  · rfl
  · exact congrArg (Traced.mk · _) List.map_append

theorem widen_widen {ρ ζ : Type} (event : τ → σ) (fault : ε → δ) (wider : σ → ρ) (further : δ → ζ)
    (inner : Traced τ ε α) :
    (inner.widen event fault).widen wider further =
      inner.widen (wider ∘ event) (further ∘ fault) := by
  obtain ⟨trace, _ | a⟩ := inner
  · exact congrArg (Traced.mk · _) List.map_map
  · exact congrArg (Traced.mk · _) List.map_map

/-- Everything that a computation does satisfies a condition. -/
def Only (allowed : τ → Prop) (doing : Traced τ ε α) : Prop :=
  ∀ event ∈ doing.trace, allowed event

variable {allowed : τ → Prop}

theorem only_ok (a : α) : Only allowed (⟨[], .ok a⟩ : Traced τ ε α) :=
  fun _ member => absurd member List.not_mem_nil

theorem only_pure (a : α) : Only allowed (pure a : Traced τ ε α) :=
  only_ok a

theorem only_fail (fault : ε) : Only allowed (fail fault : Traced τ ε α) :=
  fun _ member => absurd member List.not_mem_nil

theorem only_ofExcept (outcome : Except ε α) : Only allowed (ofExcept outcome : Traced τ ε α) :=
  fun _ member => absurd member List.not_mem_nil

theorem only_emit {event : τ} (fine : allowed event) :
    Only allowed (emit event : Traced τ ε Unit) :=
  fun _ member => List.mem_singleton.mp member ▸ fine

theorem Only.bind {first : Traced τ ε α} {next : α → Traced τ ε β} (here : Only allowed first)
    (later : ∀ a, Only allowed (next a)) : Only allowed (first >>= next) := by
  obtain ⟨trace, _ | a⟩ := first
  · exact here
  · intro event member
    rcases List.mem_append.mp member with first | rest
    · exact here event first
    · exact later a event rest

theorem Only.imp {doing : Traced τ ε α} {wider : τ → Prop} (inside : Only allowed doing)
    (fine : ∀ event, allowed event → wider event) : Only wider doing :=
  fun event member => fine event (inside event member)

theorem Only.widen {inner : Traced τ ε α} {wider : σ → Prop} {event : τ → σ} (fault : ε → δ)
    (inside : Only allowed inner) (fine : ∀ e, allowed e → wider (event e)) :
    Only wider (inner.widen event fault) := by
  intro e member
  obtain ⟨known, there, rfl⟩ := List.mem_map.mp member
  exact fine known (inside known there)

theorem outcome_bind_eq_ok_iff {first : Traced τ ε α} {next : α → Traced τ ε β} {b : β} :
    (first >>= next).outcome = .ok b ↔
      ∃ a, first.outcome = .ok a ∧ (next a).outcome = .ok b := by
  rw [outcome_bind]
  exact Outcome.bind_eq_ok_iff

/-- What posts nothing adds no posts to those before it. -/
theorem posts_bind {first : Traced Event ε α} {next : α → Traced Event ε β}
    (silent : ∀ a, Only Event.IsSilent (next a)) :
    Event.posts (first >>= next).trace = Event.posts first.trace := by
  obtain ⟨trace, _ | a⟩ := first
  · rfl
  · have none_later : Event.posts (next a).trace = [] := List.filterMap_eq_nil_iff.mpr (silent a)
    rw [ok_bind, Event.posts_append, none_later, List.append_nil]

end Traced

open Traced

/-- A record that reports no error. -/
def Record.IsCalm (record : Record) : Prop :=
  record.level ≠ .error

/-- Something that is done while a search is carried out: nothing is printed, the session goes on,
and no error is reported. -/
def Event.IsInner : Event → Prop
  | .line _ | .close => False
  | .record written => written.IsCalm
  | _ => True

/-- Something that is done without reporting an error. -/
def Event.IsQuiet : Event → Prop
  | .record written => written.IsCalm
  | _ => True

theorem Event.IsInner.isQuiet {event : Event} (inner : event.IsInner) : event.IsQuiet := by
  cases event with
  | record written => exact inner
  | _ => trivial

namespace Criteria

theorem only_limitOf (value : String) : Only Record.IsCalm (limitOf value) := by
  unfold limitOf
  split
  · exact (only_emit Level.noConfusion).bind fun _ => only_pure none
  · refine (only_ofExcept _).bind fun n => ?_
    split
    · exact (only_emit Level.noConfusion).bind fun _ => only_pure none
    · exact only_pure _

theorem only_absorb (zone : Time.Zone) (criteria : Criteria) (parameter : Parameter)
    (values : List String) : Only Record.IsCalm (criteria.absorb zone parameter values) := by
  cases parameter with
  | start => exact (only_ofExcept _).bind fun _ => only_pure _
  | finish => exact (only_ofExcept _).bind fun _ => only_pure _
  | limit =>
      cases values with
      | nil => exact only_fail _
      | cons value rest =>
          refine (only_limitOf value).bind fun limit => ?_
          cases limit with
          | none => exact only_pure _
          | some n => exact only_pure _
  | _ => exact only_pure _

theorem only_absorbAll (zone : Time.Zone) (criteria : Criteria) (normal : Parameters) :
    Only Record.IsCalm (criteria.absorbAll zone normal) := by
  induction normal generalizing criteria with
  | nil => exact only_pure criteria
  | cons entry rest ih =>
      refine Only.bind ?_ fun next => ih next
      unfold absorbKey
      split
      · exact only_absorb zone criteria _ entry.2
      · exact (only_emit Level.noConfusion).bind fun _ => only_pure criteria

theorem only_request (criteria : Criteria) (policy : Policy) (now : Time.Moment) :
    Only Record.IsCalm (criteria.request policy now) := by
  refine Only.bind ?_ fun _ => (only_emit Level.noConfusion).bind fun _ => only_pure _
  unfold temporalClause
  dsimp only
  split
  · exact only_pure _
  · split
    · exact only_pure _
    · exact (only_emit Level.noConfusion).bind fun _ => only_pure _

end Criteria

/-- Compiling reports no error, whatever the parameters are. -/
theorem Policy.only_compile (policy : Policy) (zone : Time.Zone) (now : Time.Moment)
    (parameters : Parameters) : Only Record.IsCalm (policy.compile zone now parameters) :=
  (Criteria.only_absorbAll zone {} parameters.normalize).bind fun criteria =>
    criteria.only_request policy now

namespace Client

theorem only_persist (server : Server) (jitter : Float) (post : Post) (left sent : Nat) :
    Only Event.IsInner (persist server jitter post left sent) := by
  induction left generalizing sent with
  | zero =>
      unfold persist
      refine (only_emit trivial).bind fun _ => ?_
      split
      · exact only_pure _
      · exact only_fail _
      · exact only_fail _
  | succ left ih =>
      unfold persist
      refine (only_emit trivial).bind fun _ => ?_
      split
      · exact only_pure _
      · exact only_fail _
      · refine (only_emit Level.noConfusion).bind fun _ => ?_
        exact (only_emit trivial).bind fun _ => ih (sent + 1)

theorem only_execute (client : Client) (server : Server) (jitter : Float) (sent : Nat)
    (request : Request) : Only Event.IsInner (client.execute server jitter sent request) :=
  (only_emit Level.noConfusion).bind fun _ =>
    (only_persist server jitter (client.post request) _ sent).bind fun _ => only_ofExcept _

end Client

namespace Service

variable {φ : Type} {engine : Request → Traced Event φ Value} {request : Request}

/-- Carrying out a request does nothing but what the engine does, and light records. -/
theorem only_carryOut (inner : Only Event.IsInner (engine request)) :
    Only Event.IsInner (carryOut engine request) := by
  refine (only_emit trivial).bind fun _ => ?_
  refine (inner.widen ServiceFault.engine fun _ fine => fine).bind fun response => ?_
  refine (only_ofExcept _).bind fun result => ?_
  exact (only_emit Level.noConfusion).bind fun _ => only_pure _

/-- Nothing is posted but what the engine posts. -/
theorem posts_carryOut :
    Event.posts (carryOut engine request).trace = Event.posts (engine request).trace := by
  have engine_posts : Event.posts ((engine request).widen id ServiceFault.engine).trace =
      Event.posts (engine request).trace := congrArg Event.posts (List.map_id _)
  rw [← engine_posts]
  show Event.posts ([Event.request request] ++ Traced.trace _) = _
  rw [Event.posts_append]
  refine posts_bind fun response => ?_
  refine (only_ofExcept _).bind fun result => ?_
  exact (only_emit (show Event.IsSilent (.record _) from rfl)).bind fun _ => only_pure _

/-- A result is what is taken out of a response of the engine. -/
theorem outcome_carryOut_eq_ok_iff {result : SearchResult} :
    (carryOut engine request).outcome = .ok result ↔ ∃ response,
      (engine request).outcome = .ok response ∧ SearchResult.ofResponse response = .ok result := by
  constructor
  · intro ended
    obtain ⟨_, _, ended⟩ := outcome_bind_eq_ok_iff.mp ended
    obtain ⟨response, answered, ended⟩ := outcome_bind_eq_ok_iff.mp ended
    obtain ⟨found, taken, ended⟩ := outcome_bind_eq_ok_iff.mp ended
    obtain ⟨_, _, ended⟩ := outcome_bind_eq_ok_iff.mp ended
    obtain rfl := Except.ok.inj ended
    exact ⟨response, Outcome.mapError_eq_ok_iff.mp answered, Outcome.mapError_eq_ok_iff.mp taken⟩
  · rintro ⟨response, answered, taken⟩
    refine outcome_bind_eq_ok_iff.mpr ⟨(), rfl, outcome_bind_eq_ok_iff.mpr ⟨response, ?_, ?_⟩⟩
    · exact Outcome.mapError_eq_ok_iff.mpr answered
    · exact outcome_bind_eq_ok_iff.mpr ⟨result, Outcome.mapError_eq_ok_iff.mpr taken, rfl⟩

end Service

end EntrySearch
