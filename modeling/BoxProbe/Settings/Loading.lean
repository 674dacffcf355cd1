/-
Module: BoxProbe.Settings.Loading
Purpose: Settings from environment variables.
Main exports: ProbeSettings.ofEnvironment, BoxSettings.ofEnvironment, LogSettings.ofEnvironment,
  Settings.ofEnvironment
-/
import BoxProbe.Settings.Basic
import BoxProbe.Settings.Environment
import BoxProbe.Settings.Value

/-!
Each setting has a variable.  A variable that is missing, or whose text does not read as the setting
asks for, leaves the default.
-/

namespace BoxProbe

/-- The settings of a probe in an environment. -/
def ProbeSettings.ofEnvironment (e : Environment) : ProbeSettings :=
  let default : ProbeSettings := {}
  { url := (e.get? "CBSIM_PROBE_URL").getD default.url
    lifetime :=
      Setting.orDefault Setting.double? default.lifetime (e.get? "CBSIM_PROBE_LIFETIME")
    openTimeout :=
      Setting.orDefault Setting.double? default.openTimeout (e.get? "CBSIM_PROBE_OPEN_TIMEOUT")
    closeTimeout :=
      Setting.orDefault Setting.double? default.closeTimeout (e.get? "CBSIM_PROBE_CLOSE_TIMEOUT") }

/-- The settings of a control box in an environment. -/
def BoxSettings.ofEnvironment (e : Environment) : BoxSettings :=
  let default : BoxSettings := {}
  { host := (e.get? "CBSIM_MOCK_HOST").getD default.host
    port := Setting.orDefault Setting.int? default.port (e.get? "CBSIM_MOCK_PORT")
    qrText := (e.get? "CBSIM_MOCK_QR_TEXT").getD default.qrText }

/-- The level of a name in any case. -/
def Setting.level? (text : String) : Option LogLevel :=
  LogLevel.ofName? (Text.upper (Text.ofString text))

/-- The settings of logging in an environment. -/
def LogSettings.ofEnvironment (e : Environment) : LogSettings :=
  let default : LogSettings := {}
  { level := Setting.orDefault Setting.level? default.level (e.get? "LOG_LEVEL")
    layout := (e.get? "LOG_FORMAT").getD default.layout
    directory := ((e.get? "LOG_DIR").map FilePath.ofString).getD default.directory
    fileName := (e.get? "LOG_FILENAME").getD default.fileName
    maxSize := Setting.orDefault Setting.int? default.maxSize (e.get? "LOG_MAX_SIZE")
    backups := Setting.orDefault Setting.int? default.backups (e.get? "LOG_BACKUP_COUNT")
    toConsole := ((e.get? "LOG_CONSOLE_OUTPUT").map Setting.flag).getD default.toConsole
    toFile := ((e.get? "LOG_FILE_OUTPUT").map Setting.flag).getD default.toFile }

/-- All settings of an environment, usable or not. -/
def Settings.ofEnvironment (e : Environment) : Settings :=
  { probe := .ofEnvironment e, box := .ofEnvironment e, log := .ofEnvironment e }

end BoxProbe
