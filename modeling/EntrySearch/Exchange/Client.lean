import EntrySearch.Exchange.Event
import EntrySearch.Exchange.Failure
import EntrySearch.Journal.Traced
import EntrySearch.Json.Reader

/-!
# The client of the search engine

A request is posted to the server up to four times: again after a failure that may pass and after a
reply that asks for patience. The reply that counts has to be an object.
-/

namespace EntrySearch

/-- A reply of the server. -/
structure Reply where
  /-- Status. -/
  status : Int
  /-- What the server says about the status. -/
  reason : String
  /-- Body. -/
  body : String
  deriving DecidableEq, Repr

/-- The server's answer to a post: a reply, or a failure on the way. -/
abbrev Answer :=
  Except Failure Reply

/-- The answers to all posts of a session, counted from zero. -/
abbrev Server :=
  Nat → Answer

/-- The answers of a list; the last one is given for ever. -/
def Server.ofList (answers : List Answer) : Server := fun n =>
  (answers[n]? <|> answers.getLast?).getD (.error ⟨.connection, ""⟩)

/-- Why a request has no response. -/
inductive ClientFault where
  /-- The exchange failed. -/
  | failure (failure : Failure)
  /-- The server asked for patience too often. -/
  | busy (status : Int)
  /-- The server reports a mistake of the client or of its own. -/
  | status (reply : Reply) (url : String)
  /-- The body of the reply is not read: it is no JSON, or a whole number in it is too long. -/
  | body (fault : Json.Fault) (text : String)
  /-- The body of the reply is no object. -/
  | notObject
  deriving DecidableEq, Repr

/-- A mistake of the client, otherwise of the server. -/
def Reply.sideName (reply : Reply) : String :=
  if reply.status < 500 then "Client" else "Server"

/-- What is said about a request without response. -/
def ClientFault.message : ClientFault → String
  | .failure cause => cause.message
  | .busy code => s!"HTTP {code}"
  | .status reply url =>
    s!"{reply.status} {reply.sideName} Error: {reply.reason} for url: {url}"
  | .body fault text => fault.message text.toList
  | .notObject => "Search response must be a JSON object"

/-- The connection to a search engine. -/
structure Client where
  /-- Address of the server, without slashes at its end. -/
  baseUrl : String
  /-- How long to wait for a reply. -/
  timeout : Seconds

namespace Client

/-- Drop the slashes at the end of an address. -/
def withoutSlashes (url : String) : String :=
  String.ofList (url.toList.reverse.dropWhile (· = '/')).reverse

/-- How long to wait unless told otherwise. -/
def defaultTimeout : Seconds :=
  .real 30.0

/-- Connect to the server at an address; a timeout of zero is none. -/
def connect (url : String) (timeout : Option Seconds) : Client where
  baseUrl := withoutSlashes url
  timeout :=
    match timeout with
    | some seconds => if seconds.isZero then defaultTimeout else seconds
    | none => defaultTimeout

/-- The headers of every post. -/
def headers : List (String × String) :=
  [("User-Agent", "logbook-search/0.1"),
    ("Accept", "application/json"),
    ("Content-Type", "application/json")]

/-- The post for a request. -/
def post (client : Client) (request : Request) : Post where
  url := s!"{client.baseUrl}/{request.index}/_search"
  body := request.body
  headers := headers
  timeout := client.timeout

/-- Most posts for one request. -/
def attempts : Nat :=
  4

/-- A status that asks for patience: too many requests, or the server behind is not there. -/
def isBusy (status : Int) : Bool :=
  status = 429 || status = 502 || status = 503 || status = 504

/-- Longest pause before another attempt. -/
def longestPause : Float :=
  10.0

/-- The pause after an attempt: half a second, doubled with every attempt, and a random part. -/
def pauseAfter (attempt : Int) (jitter : Float) : Float :=
  let pause := Float.scaleB 0.5 (attempt - 1) + jitter
  if longestPause < pause then longestPause else pause

/-- The pause after any attempt; there is none when doubling exceeds all numbers. -/
def pauseAfter? (attempt : Int) (jitter : Float) : Option Float :=
  if 1024 < attempt then none else some (pauseAfter attempt jitter)

/-- The reply that an answer settles the request with, or the fault that another attempt may
mend, or one that it does not mend. -/
inductive Verdict where
  /-- This is the reply. -/
  | settled (reply : Reply)
  /-- Another attempt may help. -/
  | passing (fault : ClientFault)
  /-- Nothing helps. -/
  | final (fault : ClientFault)

/-- Judge an answer. -/
def judge : Answer → Verdict
  | .ok reply => if isBusy reply.status then .passing (.busy reply.status) else .settled reply
  | .error failure =>
    if failure.kind.isPassing then .passing (.failure failure) else .final (.failure failure)

/-- Write to the journal. -/
def note (level : Level) (message : String) : Traced Event ClientFault Unit :=
  .emit (.record ⟨level, message⟩)

/-- Post and post again, with `left` attempts left after this one; `sent` posts have been sent in
the session before. -/
def persist (server : Server) (jitter : Float) (post : Post) :
    Nat → Nat → Traced Event ClientFault Reply
  | left, sent => do
    Traced.emit (.post post)
    match judge (server sent) with
    | .settled reply => return reply
    | .final fault => .fail fault
    | .passing fault =>
      match left with
      | 0 => .fail fault
      | left + 1 => do
        let attempt := attempts - (left + 1)
        note .debug
          s!"Search retrying after attempt {attempt}/{attempts} (error={fault.message})"
        Traced.emit (.pause (pauseAfter attempt jitter))
        persist server jitter post left (sent + 1)

/-- The mark that may stand before a body to tell its encoding. -/
def byteOrderMark : Char :=
  '\uFEFF'

/-- Read the body of a reply. -/
def readBody (reply : Reply) (url : String) : Except ClientFault Value :=
  if 400 ≤ reply.status ∧ reply.status < 600 then .error (.status reply url)
  else
    let text := reply.body.toList
    let text := if text.head? = some byteOrderMark then text.drop 1 else text
    match Json.readChars text with
    | .error fault => .error (.body fault (String.ofList text))
    | .ok (.object entries) => .ok (.object entries)
    | .ok _ => .error .notObject

/-- Let the server carry out a request; `sent` posts have been sent in the session before. -/
def execute (client : Client) (server : Server) (jitter : Float) (sent : Nat) (request : Request) :
    Traced Event ClientFault Value := do
  let post := client.post request
  note .debug s!"Search request: url={post.url} size={request.size}"
  let reply ← persist server jitter post (attempts - 1) sent
  Traced.ofExcept (readBody reply post.url)

end Client

end EntrySearch
