/-!
# Records of the journal
-/

namespace EntrySearch

/-- How grave a record is. -/
inductive Level where
  /-- For tracing. -/
  | debug
  /-- For following what happens. -/
  | info
  /-- Something was passed over. -/
  | warning
  /-- Something failed. -/
  | error
  /-- Nothing can go on. -/
  | critical
  deriving DecidableEq, Repr

namespace Level

/-- All levels, the least grave first. -/
def all : List Level :=
  [.debug, .info, .warning, .error, .critical]

/-- The name of a level. -/
def name : Level → String
  | .debug => "DEBUG"
  | .info => "INFO"
  | .warning => "WARNING"
  | .error => "ERROR"
  | .critical => "CRITICAL"

/-- The place of a level on the scale of gravity. -/
def gravity : Level → Int
  | .debug => 10
  | .info => 20
  | .warning => 30
  | .error => 40
  | .critical => 50

end Level

/-- A line of the journal. -/
structure Record where
  /-- How grave it is. -/
  level : Level
  /-- What it says. -/
  message : String
  deriving DecidableEq, Repr

end EntrySearch
