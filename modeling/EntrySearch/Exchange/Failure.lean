import EntrySearch.Text.Quoted

/-!
# Failures of an exchange

What may go wrong on the way to a server and back, so that there is no reply.
-/

namespace EntrySearch

/-- What kind of failure it is. -/
inductive FailureKind where
  /-- The exchange took too long. -/
  | timeout
  /-- No connection came about in time. -/
  | connectTimeout
  /-- No reply came in time. -/
  | readTimeout
  /-- There is no connection. -/
  | connection
  /-- The two sides found no secure way to talk. -/
  | security
  /-- The proxy failed. -/
  | proxy
  /-- The server refused. -/
  | refusal
  /-- The request failed for another reason. -/
  | request
  /-- A chunk of the reply is broken. -/
  | chunk
  /-- The server sent elsewhere again and again. -/
  | redirects
  /-- The address is none. -/
  | address
  /-- A value is not allowed. -/
  | value
  /-- Something went wrong inside. -/
  | inner
  /-- Something is of the wrong kind. -/
  | kind
  /-- A key is missing. -/
  | key
  deriving DecidableEq, Repr

/-- Failures that may be gone with the next attempt: timeouts, lost connections and refusals. -/
def FailureKind.isPassing : FailureKind → Bool
  | .timeout | .connectTimeout | .readTimeout => true
  | .connection | .security | .proxy => true
  | .refusal => true
  | _ => false

/-- A failure with its text. -/
structure Failure where
  /-- What kind of failure it is. -/
  kind : FailureKind
  /-- What it says; for a missing key, the key. -/
  text : String
  deriving DecidableEq, Repr

/-- What is said about a failure. -/
def Failure.message (failure : Failure) : String :=
  match failure.kind with
  | .key => Text.quoted failure.text
  | _ => failure.text

end EntrySearch
