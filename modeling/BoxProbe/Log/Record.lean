/-
Module: BoxProbe.Log.Record
Purpose: Log levels and log records.
Main exports: LogLevel, LogRecord, programLogger
-/
import BoxProbe.Text.Basic

namespace BoxProbe

/-- The levels of log records, by ascending weight. -/
inductive LogLevel where
  | debug
  | info
  | warning
  | error
  | critical
deriving DecidableEq, Repr

namespace LogLevel

/-- All levels. -/
def all : List LogLevel :=
  [.debug, .info, .warning, .error, .critical]

/-- The name of a level. -/
def name : LogLevel → String
  | .debug => "DEBUG"
  | .info => "INFO"
  | .warning => "WARNING"
  | .error => "ERROR"
  | .critical => "CRITICAL"

/-- The weight of a level; a logger drops records below its own weight. -/
def weight : LogLevel → Nat
  | .debug => 10
  | .info => 20
  | .warning => 30
  | .error => 40
  | .critical => 50

/-- The level of a name. -/
def ofName? (name : Text) : Option LogLevel :=
  all.find? fun l => Text.ofString l.name == name

end LogLevel

/-- The name of the logger of the whole program. -/
def programLogger : String := "cbsim_probe"

/-- What is logged, before it is formatted. -/
structure LogRecord where
  level : LogLevel
  /-- The part of the program that logs, below the application's own logger; empty for itself. -/
  source : String
  message : Text
deriving DecidableEq, Repr

/-- The name of the logger that a record comes from. -/
def LogRecord.logger (r : LogRecord) : String :=
  if r.source = "" then programLogger else programLogger ++ "." ++ r.source

end BoxProbe
