import EntrySearch.Journal.Record
import EntrySearch.Search.Request

/-!
# What a search does

The events of a search: records of the journal, requests handed to the search engine, posts to the
server, pauses, lines of output and the end of the session.
-/

namespace EntrySearch

/-- A span of time in seconds. -/
inductive Seconds where
  /-- A whole number of seconds. -/
  | whole (n : Int)
  /-- A fractional number of seconds. -/
  | real (x : Float)

namespace Seconds

/-- No time at all. -/
def isZero : Seconds → Bool
  | .whole n => n == 0
  | .real x => x == 0.0

/-- A span of time as a value. -/
def toValue : Seconds → Value
  | .whole n => .int n
  | .real x => .float x

end Seconds

/-- A body posted to the server. -/
structure Post where
  /-- Address. -/
  url : String
  /-- Body, to be sent as JSON. -/
  body : Value
  /-- Names and values of the headers. -/
  headers : List (String × String)
  /-- How long to wait for the reply. -/
  timeout : Seconds

/-- Something that a search does. -/
inductive Event where
  /-- Write to the journal. -/
  | record (record : Record)
  /-- Hand a request to the search engine. -/
  | request (request : Request)
  /-- Post to the server. -/
  | post (post : Post)
  /-- Wait for a number of seconds. -/
  | pause (seconds : Float)
  /-- Print a line. -/
  | line (text : String)
  /-- End the session with the search engine. -/
  | close

namespace Event

/-- The record that was written. -/
def record? : Event → Option Record
  | .record written => some written
  | _ => none

/-- The request that was handed over. -/
def request? : Event → Option Request
  | .request handed => some handed
  | _ => none

/-- The post that was sent. -/
def post? : Event → Option Post
  | .post sent => some sent
  | _ => none

/-- The pause that was made. -/
def pause? : Event → Option Float
  | .pause seconds => some seconds
  | _ => none

/-- The line that was printed. -/
def line? : Event → Option String
  | .line text => some text
  | _ => none

/-- Whether the session was ended. -/
def isClose : Event → Bool
  | .close => true
  | _ => false

/-- Number of times the session was ended. -/
def closes (events : List Event) : Nat :=
  events.countP isClose

/-- The records that were written. -/
def records (events : List Event) : List Record :=
  events.filterMap record?

/-- The requests that were handed over. -/
def requests (events : List Event) : List Request :=
  events.filterMap request?

/-- The posts that were sent. -/
def posts (events : List Event) : List Post :=
  events.filterMap post?

/-- The pauses that were made. -/
def pauses (events : List Event) : List Float :=
  events.filterMap pause?

/-- The lines that were printed. -/
def lines (events : List Event) : List String :=
  events.filterMap line?

end Event

end EntrySearch
