/-
Module: BoxProbe.Settings.Basic
Purpose: The settings of the program and what makes them unusable.
Main exports: LogSettings, Settings, Shortcoming, Settings.shortcomings, Settings.Overrides,
  Settings.override
-/
import BoxProbe.ControlBox.Server
import BoxProbe.Files.Path
import BoxProbe.Log.Record
import BoxProbe.Session.Client

/-!
The settings have three parts: the probe, the control box and logging.  `Settings.shortcomings` is
the list of what is wrong with them, empty if they can be used.
-/

namespace BoxProbe

/-- How messages are logged. -/
structure LogSettings where
  level : LogLevel := .info
  /-- The layout of a line. -/
  layout : String := "%(asctime)s - %(name)s - %(levelname)s - %(message)s"
  directory : FilePath := { names := ["logs"] }
  fileName : String := "cbsim_probe.log"
  /-- The size from which on a file is replaced. -/
  maxSize : Int := 10 * 1024 * 1024
  /-- The number of replaced files that are kept. -/
  backups : Int := 5
  toConsole : Bool := true
  toFile : Bool := false
deriving DecidableEq, Repr

/-- All settings. -/
structure Settings where
  probe : ProbeSettings := {}
  box : BoxSettings := {}
  log : LogSettings := {}
deriving DecidableEq, Repr

/-- What can be wrong with settings. -/
inductive Shortcoming where
  | lifetime
  | openTimeout
  | port
deriving DecidableEq, Repr

namespace Shortcoming

/-- A shortcoming as text. -/
def message : Shortcoming → String
  | .lifetime => "Probe lifetime must be positive"
  | .openTimeout => "Probe open timeout must be positive"
  | .port => "Mock server port must be between 0 and 65535"

/-- Several shortcomings as one text. -/
def report (shortcomings : List Shortcoming) : String :=
  "\n".intercalate <|
    "Configuration validation failed:" :: shortcomings.map fun s => "  - " ++ s.message

end Shortcoming

namespace Settings

/-- What is wrong with settings.  Port 0 leaves the choice of a port to the system. -/
def shortcomings (s : Settings) : List Shortcoming :=
  (if s.probe.lifetime.isNonpositive then [.lifetime] else []) ++
  (if s.probe.openTimeout.isNonpositive then [.openTimeout] else []) ++
  (if s.box.port < 0 ∨ 65535 < s.box.port then [.port] else [])

/-- Values that take precedence over settings. -/
structure Overrides where
  url : Option String := none
  lifetime : Option Double := none
  logLevel : Option LogLevel := none
  host : Option String := none
  port : Option Int := none
  qrText : Option String := none
deriving DecidableEq, Repr

/-- Settings with the given values in place of their own. -/
def override (s : Settings) (o : Overrides) : Settings :=
  { probe := { s.probe with
      url := o.url.getD s.probe.url
      lifetime := o.lifetime.getD s.probe.lifetime }
    box := {
      host := o.host.getD s.box.host
      port := o.port.getD s.box.port
      qrText := o.qrText.getD s.box.qrText }
    log := { s.log with level := o.logLevel.getD s.log.level } }

end Settings

end BoxProbe
