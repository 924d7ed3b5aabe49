import EntrySearch.Exchange.Event
import EntrySearch.Journal.Traced
import EntrySearch.Search.Hits

/-!
# The search service

Parameters are compiled, the request is handed to a search engine, and the hits are taken out of
its response. What the engine fails with is passed on unchanged.
-/

namespace EntrySearch

/-- Why a search has no result, for an engine that fails with `φ`. -/
inductive ServiceFault (φ : Type) where
  /-- The parameters are not understood. -/
  | search (fault : SearchFault)
  /-- The engine failed. -/
  | engine (fault : φ)
  /-- The response is refused. -/
  | response (fault : ResponseFault)

/-- What is said about a search without result. -/
def ServiceFault.message {φ : Type} (engineMessage : φ → String) : ServiceFault φ → String
  | .search fault => fault.message
  | .engine fault => engineMessage fault
  | .response fault => fault.message

namespace Service

variable {φ : Type}

/-- Write to the journal. -/
def note (level : Level) (message : String) : Traced Event (ServiceFault φ) Unit :=
  .emit (.record ⟨level, message⟩)

/-- Hand a request to an engine and take the hits out of its response. -/
def carryOut (engine : Request → Traced Event φ Value) (request : Request) :
    Traced Event (ServiceFault φ) SearchResult := do
  Traced.emit (.request request)
  let response ← (engine request).widen id .engine
  let result ← Traced.ofExcept ((SearchResult.ofResponse response).mapError .response)
  note .info
    s!"Search completed: index={request.index} total={result.total} returned={result.hits.length}"
  return result

/-- Search for entries. -/
def search (policy : Policy) (zone : Time.Zone) (now : Time.Moment)
    (engine : Request → Traced Event φ Value) (parameters : Parameters) :
    Traced Event (ServiceFault φ) SearchResult := do
  let request ← (policy.compile zone now parameters).widen .record .search
  carryOut engine request

/-- A use of the service. -/
inductive Step (φ : Type) where
  /-- Search; the engine will answer as given. -/
  | search (parameters : RawParameters) (answer : Except φ Value)
  /-- End the session with the engine. -/
  | close

/-- Use the service once; an engine without a session to end is left alone. -/
def use (policy : Policy) (zone : Time.Zone) (now : Time.Moment) (closable : Bool) :
    Step φ → Traced Event (ServiceFault φ) (Option SearchResult)
  | .search raw answer => do
    let request ← (policy.compileRaw zone now raw).widen .record .search
    let result ← carryOut (fun _ => .ofExcept answer) request
    return some result
  | .close => do
    if closable then Traced.emit .close
    return none

end Service

end EntrySearch
