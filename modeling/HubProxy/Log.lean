/-!
# Log records

What a run tells about its progress, as data: the outer layer decides which records are shown and
where.
-/

namespace HubProxy

inductive LogLevel where
  | debug
  | info
  | warning
  deriving DecidableEq, Repr

/-- The rank of a level; a threshold lets through the levels of its rank and above. -/
def LogLevel.rank : LogLevel → Nat
  | .debug => 10
  | .info => 20
  | .warning => 30

def LogLevel.name : LogLevel → String
  | .debug => "DEBUG"
  | .info => "INFO"
  | .warning => "WARNING"

/-- One record of the part of the program that wrote it. -/
structure LogRecord where
  level : LogLevel
  channel : String
  message : String
  deriving DecidableEq, Repr

def LogRecord.passes (r : LogRecord) (threshold : LogLevel) : Bool :=
  threshold.rank ≤ r.level.rank

def LogRecord.consoleLine (r : LogRecord) : String :=
  "[hubgen] " ++ r.level.name ++ " " ++ r.message

/-- The full name of the part that wrote a record. -/
def LogRecord.logger (r : LogRecord) : String :=
  "hubgen." ++ r.channel

/-- The line of a record in a log file, without the time of writing. -/
def LogRecord.fileLine (r : LogRecord) : String :=
  r.level.name ++ " " ++ r.logger ++ ": " ++ r.message

def LogRecord.timedLine (r : LogRecord) (time : String) : String :=
  time ++ " " ++ r.fileLine ++ "\n"

end HubProxy
