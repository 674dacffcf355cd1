/-
Module: BoxProbe.Settings.Store
Purpose: The settings that a program shares.
Main exports: SettingsStore, SettingsFault, SettingsStore.loadFrom, SettingsStore.all,
  SettingsStore.get, SettingsStore.replace, SettingsStore.override
-/
import BoxProbe.Failure.Basic
import BoxProbe.Files.Directory
import BoxProbe.Settings.Expansion
import BoxProbe.Settings.Loading

/-!
Settings are read from the environment when they are first asked for, and kept.  They can be read
only after a file of variables was asked for, even if there was none, and only if they can be used.
Where no file of variables is named, the one that is found by default is loaded.
Overrides change the kept settings, and stay in them even if these cannot be used any more.
-/

namespace BoxProbe

/-- The failure that a variable which cannot be set leaves with. -/
def EnvironmentFault.toFailure : EnvironmentFault → Failure
  | .nul => .raised .value [Json.ofString "embedded null byte"]
  | .equalsSign => .raised .value [Json.ofString "illegal environment variable name"]
  | .noName => .raised .system [.int 22, Json.ofString "Invalid argument"]

/-- Why settings are refused. -/
inductive SettingsFault where
  /-- No file of variables was asked for before. -/
  | notLoaded
  | unusable (shortcomings : List Shortcoming)
deriving DecidableEq, Repr

namespace SettingsFault

/-- The failure that a refusal leaves with. -/
def toFailure : SettingsFault → Failure
  | .notLoaded =>
    .raised .runtime [Json.ofString
      ("Environment variables not loaded. Call load_env_file() before accessing configuration.")]
  | .unusable shortcomings => .raised .value [Json.ofString (Shortcoming.report shortcomings)]

end SettingsFault

/-- The settings of a program: the environment, whether a file of variables was asked for, the kept
settings, and how often settings were put here. -/
structure SettingsStore where
  environment : Environment := []
  isLoaded : Bool := false
  kept : Option Settings := none
  revision : Nat := 0
deriving DecidableEq, Repr

namespace SettingsStore

/-- Asks for a file of variables, given its text if there is one.  If a variable cannot be set, the
file does not count as asked for. -/
def loadFile (s : SettingsStore) (text? : Option String) :
    SettingsStore × Option EnvironmentFault :=
  match text?.map s.environment.load with
  | some (environment, some fault) => ({ s with environment }, some fault)
  | some (environment, none) => ({ s with environment, isLoaded := true }, none)
  | none => ({ s with isLoaded := true }, none)

/-- The text of the file of variables at a path, if there is one.  Without a path, and for the empty
one, it is that of the file that is found by default. -/
def fileText? (d : Directory) (path? : Option String) : Option String :=
  match path?.filter (· ≠ "") with
  | some path => d.readAt? path
  | none => d.defaultFile

/-- Asks for the file of variables at a path, or for the one that is found by default. -/
def loadFrom (s : SettingsStore) (d : Directory) (path? : Option String) :
    SettingsStore × Option EnvironmentFault :=
  if s.environment.isLoading && path?.any (·.toList.contains '\x00') then (s, some .nul)
  else s.loadFile (fileText? d path?)

/-- Something that is read from the environment. -/
def read {α : Type} (s : SettingsStore) (f : Environment → α) : Except SettingsFault α :=
  if s.isLoaded then .ok (f s.environment) else .error .notLoaded

/-- Usable settings, or what is wrong with them. -/
def check (settings : Settings) : Except SettingsFault Settings :=
  match settings.shortcomings with
  | [] => .ok settings
  | shortcomings => .error (.unusable shortcomings)

/-- All settings of the environment. -/
def all (s : SettingsStore) : Except SettingsFault Settings :=
  (s.read Settings.ofEnvironment).bind check

/-- Puts settings in place of the kept ones, or forgets these. -/
def replace (s : SettingsStore) (settings : Option Settings) : SettingsStore :=
  { s with kept := settings, revision := s.revision + 1 }

/-- The kept settings; those of the environment are read and kept if there are none. -/
def get (s : SettingsStore) : SettingsStore × Except SettingsFault Settings :=
  match s.kept with
  | some settings => (s, .ok settings)
  | none =>
    match s.all with
    | .ok settings => (s.replace (some settings), .ok settings)
    | .error fault => (s, .error fault)

/-- The kept settings with overrides. -/
def override (s : SettingsStore) (o : Settings.Overrides) :
    SettingsStore × Except SettingsFault Settings :=
  match s.get with
  | (s, .error fault) => (s, .error fault)
  | (s, .ok settings) =>
    let settings := settings.override o
    ({ s with kept := some settings }, check settings)

end SettingsStore

end BoxProbe
