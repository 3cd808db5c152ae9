/-!
# Log — what the program reports while it works

A log entry has a level, a fixed message and named fields. Resolving and provisioning return their
entries in order, next to their results.
-/

namespace DatasetHosting

/-- How much an entry matters. -/
inductive LogLevel where
  | debug
  | info
  | warn
  deriving DecidableEq, Repr

/-- The level's name. -/
def LogLevel.name : LogLevel → String
  | debug => "DEBUG"
  | info => "INFO"
  | warn => "WARN"

/-- The value of a field. -/
inductive LogValue where
  | text (value : String)
  | number (value : Nat)
  deriving DecidableEq, Repr

/-- One entry. -/
structure LogEntry where
  /-- How much it matters. -/
  level : LogLevel
  /-- What happened. -/
  message : String
  /-- What it happened to. -/
  fields : List (String × LogValue)
  deriving DecidableEq, Repr

end DatasetHosting
