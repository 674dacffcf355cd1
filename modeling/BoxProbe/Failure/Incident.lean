/-
Module: BoxProbe.Failure.Incident
Purpose: Handled failures: where on the connection they happened and how loud they are.
Main exports: ErrorContext, Severity, Incident
-/
import BoxProbe.Failure.Basic
import BoxProbe.Log.Record

namespace BoxProbe

/-- Where on the connection a failure happened. -/
inductive ErrorContext where
  /-- The connection could not be established. -/
  | connection
  /-- The open session failed. -/
  | transport
  /-- A frame could not be decoded. -/
  | payload
  /-- The peer closed with an error. -/
  | close
deriving DecidableEq, Repr

namespace ErrorContext

/-- All contexts. -/
def all : List ErrorContext :=
  [.connection, .transport, .payload, .close]

/-- The name of a context. -/
def name : ErrorContext → String
  | .connection => "connection"
  | .transport => "transport"
  | .payload => "payload"
  | .close => "close"

/-- The context of a name. -/
def ofName? (name : String) : Option ErrorContext :=
  all.find? fun c => c.name == name

end ErrorContext

/-- How loudly a failure is logged. -/
inductive Severity where
  | medium
  | high
deriving DecidableEq, Repr

namespace Severity

/-- The level at which a failure of this severity is logged. -/
def level : Severity → LogLevel
  | .medium => .warning
  | .high => .error

/-- The name of a severity. -/
def name : Severity → String
  | .medium => "MEDIUM"
  | .high => "HIGH"

/-- All severities. -/
def all : List Severity :=
  [.medium, .high]

/-- The severity of a name. -/
def ofName? (name : String) : Option Severity :=
  all.find? fun s => s.name == name

end Severity

/-- One handled failure. -/
structure Incident where
  failure : Failure
  context : ErrorContext
  severity : Severity
  /-- The step that failed. -/
  operation : String
  /-- Further details, in the order given. -/
  details : Json.Fields

namespace Incident

/-- An incident whose step is named; an empty name stands for that of the context. -/
def of (failure : Failure) (context : ErrorContext) (severity : Severity := .medium)
    (operation : String := "") (details : Json.Fields := []) : Incident :=
  { failure, context, severity, details
    operation := if operation = "" then context.name else operation }

/-- The names that details cannot have: the handling of failures has its own use for them. -/
def reservedNames : List String :=
  ["self", "error", "context"]

/-- Why details are refused, if they are: the first one with a reserved name. -/
def refusal? (details : Json.Fields) : Option Failure :=
  (details.findSome? fun d => reservedNames.find? fun name => Text.ofString name == d.1).map
    fun name => .ofMessage .type
      s!"ErrorHandler.handle_error() got multiple values for argument '{name}'"

/-- The line that is logged for an incident. -/
def line (i : Incident) : Text :=
  Text.ofString s!"Error in {i.context.name} ({i.operation}): " ++ i.failure.shown

end Incident

end BoxProbe
