import EntrySearch.Exchange.Client
import EntrySearch.Search.Service

/-!
# Sessions

A client is used again and again. Each use finds the answers of the server that the uses before it
have left.
-/

namespace EntrySearch.Session

/-- A use of a client. -/
inductive Step where
  /-- Let the server carry out the request for search parameters. -/
  | ask (parameters : RawParameters)
  /-- End the session. -/
  | close
  /-- Use the client for a while and end the session. -/
  | borrow

/-- What a use may fail with. -/
abbrev Fault :=
  ServiceFault ClientFault

/-- A session with a server. -/
structure Setting where
  /-- The client. -/
  client : Client
  /-- Answers of the server. -/
  server : Server
  /-- Random part of pauses. -/
  jitter : Float
  /-- Where searches look. -/
  policy : Policy
  /-- Local time zone. -/
  zone : Time.Zone
  /-- The present moment. -/
  now : Time.Moment

/-- Use a client once, after a number of posts. -/
def Setting.use (setting : Setting) (sent : Nat) : Step → Traced Event Fault Value
  | .ask raw => do
    let request ←
      (setting.policy.compileRaw setting.zone setting.now raw).widen .record .search
    (setting.client.execute setting.server setting.jitter sent request).widen id .engine
  | .close => do
    Traced.emit .close
    return .null
  | .borrow => do
    Traced.emit .close
    return .bool true

/-- Use a client again and again, after a number of posts. -/
def Setting.useAll (setting : Setting) (sent : Nat) : List Step → List (Traced Event Fault Value)
  | [] => []
  | step :: rest =>
    let done := setting.use sent step
    done :: setting.useAll (sent + (Event.posts done.trace).length) rest

end EntrySearch.Session
