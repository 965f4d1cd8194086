/-! # The log

What a program says about its own doings. An action that may log yields its outcome together with
the records that it wrote. -/

namespace KeyHash

/-- How much a log record matters. -/
inductive LogLevel where
  /-- Of interest when looking for a mistake. -/
  | debug
  /-- A failure that was reported to the caller. -/
  | warn
  deriving DecidableEq

/-- The name of the level. -/
def LogLevel.name : LogLevel → String
  | .debug => "DEBUG"
  | .warn => "WARN"

/-- One entry of the log. -/
structure LogRecord where
  /-- How much the entry matters. -/
  level : LogLevel
  /-- The part of the program that wrote it. -/
  target : String
  /-- What happened. -/
  message : String
  deriving DecidableEq

/-- An outcome together with the log records that were written on the way. -/
structure Logged (α : Type) where
  /-- The outcome. -/
  outcome : α
  /-- The records, the earliest first. -/
  log : List LogRecord

end KeyHash
