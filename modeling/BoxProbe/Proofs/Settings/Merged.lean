/-
Module: BoxProbe.Proofs.Settings.Merged
Purpose: The settings that come of the environment, a file of variables and the command line.
Trusted boundary: none
Main exports: Settings.merged, SettingsStore.entries, SettingsStore.Loadable,
  SettingsStore.loadFrom_cases, SettingsStore.refusals, SettingsStore.override_loaded,
  SettingsStore.prepare, SettingsStore.prepare_eq_ok_iff, SettingsStore.prepared_merged
-/
import BoxProbe.CommandLine.Arguments
import BoxProbe.Proofs.Settings.Lookup
import BoxProbe.Proofs.Settings.Override

namespace BoxProbe

/-!
A setting is the value of the command line if there is one, else what its variable reads as, else
its default.  A variable of the environment hides the one of a file of variables, be it the file
that is named or the one that is found by default.  The settings that a program starts with are
these, but only if nothing is wrong with them and nothing was wrong before the command line had its
say: the environment is checked by itself when its settings are first asked for.
-/

/-! ### The merged settings -/

/-- A setting: the value that is given, or else the one that a text reads as, or else the
default. -/
def Setting.settle {α : Type} (given : Option α) (read? : String → Option α) (text? : Option String)
    (default : α) : α :=
  given.getD ((text?.bind read?).getD default)

/-- The settings of overrides, of the texts of variables, and of defaults, in this order. -/
def Settings.merged (text? : String → Option String) (o : Settings.Overrides) : Settings :=
  let default : Settings := {}
  { probe := {
      url := Setting.settle o.url some (text? "CBSIM_PROBE_URL") default.probe.url
      lifetime := Setting.settle o.lifetime Setting.double? (text? "CBSIM_PROBE_LIFETIME")
        default.probe.lifetime
      openTimeout := Setting.settle none Setting.double? (text? "CBSIM_PROBE_OPEN_TIMEOUT")
        default.probe.openTimeout
      closeTimeout := Setting.settle none Setting.double? (text? "CBSIM_PROBE_CLOSE_TIMEOUT")
        default.probe.closeTimeout }
    box := {
      host := Setting.settle o.host some (text? "CBSIM_MOCK_HOST") default.box.host
      port := Setting.settle o.port Setting.int? (text? "CBSIM_MOCK_PORT") default.box.port
      qrText := Setting.settle o.qrText some (text? "CBSIM_MOCK_QR_TEXT") default.box.qrText }
    log := {
      level := Setting.settle o.logLevel Setting.level? (text? "LOG_LEVEL") default.log.level
      layout := Setting.settle none some (text? "LOG_FORMAT") default.log.layout
      directory := Setting.settle none (some ∘ FilePath.ofString) (text? "LOG_DIR")
        default.log.directory
      fileName := Setting.settle none some (text? "LOG_FILENAME") default.log.fileName
      maxSize := Setting.settle none Setting.int? (text? "LOG_MAX_SIZE") default.log.maxSize
      backups := Setting.settle none Setting.int? (text? "LOG_BACKUP_COUNT") default.log.backups
      toConsole := Setting.settle none (some ∘ Setting.flag) (text? "LOG_CONSOLE_OUTPUT")
        default.log.toConsole
      toFile := Setting.settle none (some ∘ Setting.flag) (text? "LOG_FILE_OUTPUT")
        default.log.toFile } }

namespace Settings

/-- The settings of an environment with overrides are the merged ones. -/
theorem override_ofEnvironment (e : Environment) (o : Overrides) :
    (ofEnvironment e).override o = merged e.get? o := by
  have text (x : Option String) : x.bind some = x := by cases x <;> rfl
  have mapped {α : Type} (x : Option String) (f : String → α) : x.bind (some ∘ f) = x.map f := by
    cases x <;> rfl
  simp only [override, ofEnvironment, ProbeSettings.ofEnvironment, BoxSettings.ofEnvironment,
    LogSettings.ofEnvironment, merged, Setting.settle, Setting.orDefault, Option.getD_none, text,
    mapped]

theorem override_merged (text? : String → Option String) (o : Overrides) :
    (merged text? {}).override o = merged text? o := rfl

end Settings

/-! ### Loading the file of variables -/

namespace SettingsStore

/-- The entries of the file of variables at a path, or of the one that is found by default, if files
are loaded at all. -/
def entries (s : SettingsStore) (d : Directory) (path? : Option String) : Expansion.Values :=
  if s.environment.isLoading then
    match fileText? d path? with
    | some text => Expansion.values s.environment (EnvFile.bindings text)
    | none => []
  else []

/-- What a variable stands for beside the file of variables at a path. -/
def sought (s : SettingsStore) (d : Directory) (path? : Option String) (name : String) :
    Option String :=
  s.environment.sought (s.entries d path?) name

example :
    let d : Directory := { defaultFile := some "LOG_LEVEL=DEBUG\nCBSIM_MOCK_HOST=box" }
    let s : SettingsStore := { environment := [("LOG_LEVEL", "ERROR")] }
    s.sought d none "LOG_LEVEL" = some "ERROR" ∧ s.sought d none "CBSIM_MOCK_HOST" = some "box" ∧
      s.sought d (some "missing.env") "CBSIM_MOCK_HOST" = none := by
  decide +kernel

/-- The file of variables at a path can be loaded: there is no NUL in its path, and every entry that
counts can be set. -/
structure Loadable (s : SettingsStore) (d : Directory) (path? : Option String) : Prop where
  path : s.environment.isLoading = true → path?.any (·.toList.contains '\x00') = false
  entries : s.environment.Takes (s.entries d path?)

variable {s : SettingsStore} {d : Directory} {path? : Option String}

/-- Loading the text of a file of variables comes to setting its entries. -/
theorem loadFile_entries (s : SettingsStore) (d : Directory) (path? : Option String) :
    s.loadFile (fileText? d path?) =
      match s.environment.setMissing (s.entries d path?) with
      | (e, some fault) => ({ s with environment := e }, some fault)
      | (e, none) => ({ s with environment := e, isLoaded := true }, none) := by
  unfold loadFile entries Environment.load
  cases fileText? d path? with
  | none => cases s.environment.isLoading <;> rfl
  | some text =>
    cases s.environment.isLoading with
    | false => rfl
    | true =>
      simp only [Option.map_some, if_true]
      rcases s.environment.setMissing _ with ⟨e, _ | fault⟩ <;> rfl

/-- No entry has the empty name. -/
theorem entry_name_ne_empty {v : String × Option String} (h : v ∈ s.entries d path?) :
    v.1 ≠ "" := by
  unfold entries at h
  split at h
  next =>
    split at h
    next text _ =>
      have named := Expansion.names_values _ _ (List.mem_map_of_mem h)
      obtain ⟨b, bound, same⟩ := List.mem_map.mp named
      rw [← same]
      exact EnvFile.name_ne_empty bound
    next => cases h
  next => cases h

theorem nodup_entries (s : SettingsStore) (d : Directory) (path? : Option String) :
    ((s.entries d path?).map (·.1)).Nodup := by
  unfold entries
  split
  next =>
    split
    next => exact Expansion.nodup_values _ _
    next => exact List.nodup_nil
  next => exact List.nodup_nil

/-- Where no file is named and none is found by default, none keeps from loading it. -/
theorem loadable_none (s : SettingsStore) (nothing : d.defaultFile = none) : s.Loadable d none := by
  have unfound : fileText? d none = none := nothing
  have empty : s.entries d none = [] := by
    simp only [entries, unfound, ite_self]
  refine ⟨fun _ => rfl, ?_⟩
  rw [empty]
  exact fun _ inside => nomatch inside

/-- A variable of a name cannot be set for the sake of its value, or of the name. -/
theorem kindName_of_fault? {name value : String} {fault : EnvironmentFault} (named : name ≠ "")
    (h : Environment.fault? name value = some fault) : fault.toFailure.kindName = "ValueError" := by
  rw [Environment.fault?, if_neg named] at h
  split at h
  next => cases h; rfl
  next =>
    split at h
    next => cases h; rfl
    next => cases h

/-- A file of variables is loaded, and then each variable stands for what it should; or it cannot be
loaded, and the failure says that a value is no good. -/
theorem loadFrom_cases (s : SettingsStore) (d : Directory) (path? : Option String) :
    (s.Loadable d path? ∧ ∃ e : Environment,
        s.loadFrom d path? = ({ s with environment := e, isLoaded := true }, none) ∧
        ∀ name, e.get? name = s.sought d path? name) ∨
      ¬ s.Loadable d path? ∧ ∃ e fault,
        s.loadFrom d path? = ({ s with environment := e }, some fault) ∧
        fault.toFailure.kindName = "ValueError" := by
  unfold loadFrom
  cases nul : s.environment.isLoading && path?.any (·.toList.contains '\x00') with
  | true =>
    rw [Bool.and_eq_true] at nul
    refine .inr ⟨fun loadable => ?_, s.environment, .nul, rfl, rfl⟩
    rw [loadable.path nul.1] at nul
    cases nul.2
  | false =>
    have path : s.environment.isLoading = true → path?.any (·.toList.contains '\x00') = false := by
      intro loading
      rwa [loading, Bool.true_and] at nul
    rw [if_neg Bool.false_ne_true, loadFile_entries]
    rcases Environment.setMissing_cases (e := s.environment) (s.nodup_entries d path?) with
      ⟨takes, e, ends, same⟩ | ⟨untaken, e, v, inside, value, fault, ends, refused⟩
    · rw [ends]
      exact .inl ⟨⟨path, takes⟩, e, rfl, same⟩
    · rw [ends]
      exact .inr ⟨fun loadable => untaken loadable.entries, e, fault, rfl,
        kindName_of_fault? (entry_name_ne_empty inside) refused⟩

/-! ### Settling the settings -/

/-- What settings are refused for.  If none are kept, those of the environment are refused for what
is wrong with them, before anything takes precedence over them. -/
def refusals (s : SettingsStore) (d : Directory) (path? : Option String) (o : Settings.Overrides) :
    List Shortcoming :=
  match s.kept with
  | some kept => (kept.override o).shortcomings
  | none =>
    match (Settings.merged (s.sought d path?) {}).shortcomings with
    | [] => (Settings.merged (s.sought d path?) o).shortcomings
    | own => own

/-- The settings that overrides come to: the kept ones, or else those of the environment, with the
values given. -/
def settled (s : SettingsStore) (d : Directory) (path? : Option String) (o : Settings.Overrides) :
    Settings :=
  match s.kept with
  | some kept => kept.override o
  | none => Settings.merged (s.sought d path?) o

/-- Once the file of variables is loaded, the settings are settled, or refused. -/
theorem override_loaded {e : Environment} (same : ∀ name, e.get? name = s.sought d path? name)
    (o : Settings.Overrides) :
    ({ s with environment := e, isLoaded := true }.override o).2 =
      if s.refusals d path? o = [] then .ok (s.settled d path? o)
      else .error (.unusable (s.refusals d path? o)) := by
  have own : Settings.ofEnvironment e = Settings.merged (s.sought d path?) {} := by
    rw [← Settings.override_nothing (.ofEnvironment e), Settings.override_ofEnvironment]
    exact congrArg (Settings.merged · {}) (funext same)
  cases kept : s.kept with
  | some c =>
    rw [override_of_kept rfl]
    simp only [check_eq, refusals, settled, kept]
  | none =>
    rw [override_of_fresh rfl rfl own]
    cases shortcomings : (Settings.merged (s.sought d path?) {}).shortcomings with
    | nil => simp [check_eq, refusals, settled, kept, shortcomings, Settings.override_merged]
    | cons first more => simp [refusals, kept, shortcomings]

/-- What the program does with its arguments before anything else: it loads the file of variables
that they name, or that is found by default, and lets their values take precedence over the
settings. -/
def prepare (s : SettingsStore) (d : Directory) (a : Arguments) : Except Failure Settings :=
  match s.loadFrom d a.envFile with
  | (_, some fault) => .error fault.toFailure
  | (loaded, none) => (loaded.override a.overrides).2.mapError SettingsFault.toFailure

/-- The settings are settled if the file of variables can be loaded and they are refused for
nothing, and otherwise a value is no good. -/
theorem prepare_cases (s : SettingsStore) (d : Directory) (a : Arguments) :
    ((s.Loadable d a.envFile ∧ s.refusals d a.envFile a.overrides = []) ∧
        s.prepare d a = .ok (s.settled d a.envFile a.overrides)) ∨
      ¬ (s.Loadable d a.envFile ∧ s.refusals d a.envFile a.overrides = []) ∧
        ∃ f, s.prepare d a = .error f ∧ f.kindName = "ValueError" := by
  unfold prepare
  rcases s.loadFrom_cases d a.envFile with ⟨loadable, e, loads, same⟩ | ⟨not, e, fault, loads, kind⟩
  · rw [loads]
    simp only [override_loaded same]
    by_cases usable : s.refusals d a.envFile a.overrides = []
    · rw [if_pos usable]
      exact .inl ⟨⟨loadable, usable⟩, rfl⟩
    · rw [if_neg usable]
      exact .inr ⟨fun both => usable both.2, _, rfl, rfl⟩
  · rw [loads]
    exact .inr ⟨fun both => not both.1, _, rfl, kind⟩

theorem prepare_eq_ok_iff (s : SettingsStore) (d : Directory) (a : Arguments) (c : Settings) :
    s.prepare d a = .ok c ↔ c = s.settled d a.envFile a.overrides ∧
      s.Loadable d a.envFile ∧ s.refusals d a.envFile a.overrides = [] := by
  rcases s.prepare_cases d a with ⟨both, prepared⟩ | ⟨neither, f, prepared, -⟩
  · rw [prepared, Except.ok.injEq, eq_comm]
    exact (and_iff_left both).symm
  · rw [prepared]
    exact iff_of_false (fun h => nomatch h) fun h => neither h.2

theorem kindName_of_prepare_eq_error {d : Directory} {a : Arguments} {f : Failure}
    (h : s.prepare d a = .error f) : f.kindName = "ValueError" := by
  rcases s.prepare_cases d a with ⟨-, prepared⟩ | ⟨-, g, prepared, kind⟩
  · rw [prepared] at h
    cases h
  · rw [prepared] at h
    cases h
    exact kind

/-- A program without kept settings starts with the merged settings of its command line, its
environment, its file of variables and the defaults, exactly if that file can be loaded and nothing
is wrong with the merged settings, nor with those that the environment and the file come to without
the command line.  Otherwise it fails, and the failure says that a value is no good. -/
theorem prepared_merged (e : Environment) (d : Directory) (a : Arguments) :
    let s : SettingsStore := { environment := e }
    let merged := Settings.merged (s.sought d a.envFile)
    (∀ c, s.prepare d a = .ok c ↔ c = merged a.overrides ∧ s.Loadable d a.envFile ∧
      (merged {}).shortcomings = [] ∧ (merged a.overrides).shortcomings = []) ∧
    ∀ f, s.prepare d a = .error f → f.kindName = "ValueError" := by
  intro s merged
  have refused : s.refusals d a.envFile a.overrides = [] ↔
      (merged {}).shortcomings = [] ∧ (merged a.overrides).shortcomings = [] := by
    unfold refusals
    cases (merged {}).shortcomings with
    | nil => simp [s, merged]
    | cons first more => simp [s, merged]
  refine ⟨fun c => ?_, fun f => kindName_of_prepare_eq_error⟩
  rw [prepare_eq_ok_iff, refused]
  exact Iff.rfl

/-- A lifetime of the command line does not help where the variable that it takes precedence over
has one that cannot be used; and settings without a fault do not help where the file of variables
has a value that no variable can have. -/
theorem refused_despite_merged :
    (let s : SettingsStore := { environment := [("CBSIM_PROBE_LIFETIME", "-1")] }
      let a : Arguments := { lifetime := some (Double.ofInt 2) }
      Arguments.parse ["--lifetime", "2"] = .arguments a ∧
        (Settings.merged (s.sought {} a.envFile) a.overrides).shortcomings = [] ∧
        ∃ f, s.prepare {} a = .error f) ∧
      let d : Directory := { nodes := [(["a.env"], .file "A=\x00")] }
      let a : Arguments := { envFile := some "a.env" }
      Arguments.parse ["--env-file", "a.env"] = .arguments a ∧
        (Settings.merged (SettingsStore.sought {} d a.envFile) a.overrides).shortcomings = [] ∧
        ∃ f, SettingsStore.prepare {} d a = .error f := by
  constructor
  · intro s a
    refine ⟨by decide +kernel, by decide +kernel, ?_⟩
    have refused : s.refusals {} a.envFile a.overrides ≠ [] := by decide +kernel
    rcases s.prepare_cases {} a with ⟨⟨-, usable⟩, -⟩ | ⟨-, f, prepared, -⟩
    · exact absurd usable refused
    · exact ⟨f, prepared⟩
  · intro d a
    refine ⟨by decide +kernel, by decide +kernel, ?_⟩
    have listed : ("A", some "\x00") ∈ SettingsStore.entries {} d a.envFile := by decide +kernel
    rcases SettingsStore.prepare_cases {} d a with ⟨⟨loadable, -⟩, -⟩ | ⟨-, f, prepared, -⟩
    · have settable := loadable.entries _ listed _ rfl rfl
      exact absurd settable (by decide +kernel)
    · exact ⟨f, prepared⟩

end SettingsStore

end BoxProbe
