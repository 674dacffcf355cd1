/-
Module: BoxProbe.Proofs.CommandLine.Program
Purpose: How the program ends when it is asked to probe.
Trusted boundary: none
Main exports: SettingsStore.sought_noNul, SettingsStore.merged_hasPath, Program.refusals,
  Program.settled, Program.Ends, Program.run_ends
-/
import BoxProbe.CommandLine.Program
import BoxProbe.Proofs.Log.Configuration
import BoxProbe.Proofs.Session.Endless
import BoxProbe.Proofs.Settings.Admission

namespace BoxProbe

/-!
Each setting is followed to the place that first objects to it.  A file of variables objects to
values that no variable can have, the check of the settings to lengths of time and ports, and the
configuration of logging to a layout without a field and to a NUL in the path of the log file.  Only
the check turns its objections into a status; the others let a failure escape.
-/

/-! ### Log paths without a NUL -/

namespace SettingsStore

variable {s : SettingsStore} {d : Directory} {path? : Option String}

/-- What a variable stands for has no NUL, since no value of a variable has one. -/
theorem sought_noNul (clean : ∀ v ∈ s.environment, '\x00' ∉ v.2.toList)
    (loadable : s.Loadable d path?) {name text : String}
    (found : s.sought d path? name = some text) : Logging.hasNul text = false := by
  suffices none : '\x00' ∉ text.toList by
    simpa [Logging.hasNul] using none
  unfold sought Environment.sought at found
  cases own : s.environment.get? name with
  | some value =>
    rw [own, Option.some_or] at found
    cases found
    obtain ⟨v, inside, rfl⟩ := Option.map_eq_some_iff.mp own
    exact clean v (List.mem_of_find?_eq_some inside)
  | none =>
    rw [own, Option.none_or, Option.join_eq_some_iff] at found
    obtain ⟨v, listed, valued⟩ := Option.map_eq_some_iff.mp found
    have named : v.1 = name := by simpa using List.find?_some listed
    have settable := loadable.entries v (List.mem_of_find?_eq_some listed) text valued
      (named ▸ own)
    intro nul
    rw [Environment.fault?, if_pos (.inr nul)] at settable
    cases settable

/-- The log file of merged settings has no NUL in its path. -/
theorem merged_hasPath (clean : ∀ v ∈ s.environment, '\x00' ∉ v.2.toList)
    (loadable : s.Loadable d path?) (o : Settings.Overrides) :
    (Settings.merged (s.sought d path?) o).log.HasPath := by
  constructor
  · cases found : s.sought d path? "LOG_DIR" with
    | none =>
      simp only [Settings.merged, Setting.settle, found]
      decide +kernel
    | some text =>
      simp only [Settings.merged, Setting.settle, found]
      exact FilePath.hasNul_ofString (sought_noNul clean loadable found)
  · cases found : s.sought d path? "LOG_FILENAME" with
    | none =>
      simp only [Settings.merged, Setting.settle, found]
      decide +kernel
    | some text =>
      simp only [Settings.merged, Setting.settle, found]
      exact sought_noNul clean loadable found

end SettingsStore

/-- No settings are kept, and no variable has a NUL in its value. -/
structure Surroundings.Unsettled (s : Surroundings) : Prop where
  kept : s.store.kept = none
  environment : ∀ v ∈ s.store.environment, '\x00' ∉ v.2.toList

/-- Nothing was connected to and nothing served. -/
structure Outcome.Idle (o : Outcome) : Prop where
  trace : o.trace = []
  elapsed : o.elapsed = 0
  listeners : o.listeners = []

namespace Program

/-! ### Ends -/

variable (s : Surroundings) (a : Arguments)

/-- Logging as it is once the lines that cannot be understood were named. -/
def warned : Logging :=
  warnAboutLines s.logging s.store.environment
    (SettingsStore.fileText? s.logging.files a.envFile)

/-- The file of variables that the arguments name can be loaded. -/
def Loads : Prop :=
  s.store.Loadable s.logging.files a.envFile

/-- What the settings are refused for. -/
def refusals : List Shortcoming :=
  s.store.refusals s.logging.files a.envFile a.overrides

/-- What the settings come to. -/
def settled : Settings :=
  s.store.settled s.logging.files a.envFile a.overrides

/-- There is a NUL on the way to the log file. -/
def meetsNul : Bool :=
  (settled s a).log.meetsNul s.logging.files

/-- Everything that a probe is started with can be used. -/
structure Starts : Prop where
  loads : Loads s a
  usable : refusals s a = []
  layout : Layout.isValid (settled s a).log.layout = true
  path : meetsNul s a = false

/-- How a program that is asked to probe ends.  Only settings that are refused for what is wrong
with them end it with status 2.  A file of variables that cannot be loaded, a layout without a field
and a NUL in the path of the log file end it with a failure that nothing handles. -/
inductive Ends (o : Outcome) : Prop where
  | unloadable (f : Failure) (file : ¬ Loads s a) (exit : o.exit = .failure f)
      (kind : f.kindName = "ValueError") (logging : o.logging = warned s a) (idle : o.Idle)
  | refused (file : Loads s a) (wrong : refusals s a ≠ []) (exit : o.exit = .status 2)
      (logging : o.logging = (warned s a).print .errors
        ("ERROR: " ++ Shortcoming.report (refusals s a) ++ "\n")) (idle : o.Idle)
  | misconfigured (file : Loads s a) (usable : refusals s a = [])
      (invalid : Layout.isValid (settled s a).log.layout = false)
      (exit : o.exit = .failure (LogFault.layout (settled s a).log.layout).toFailure)
      (console : o.logging.console = (warned s a).console) (idle : o.Idle)
  | unlogged (file : Loads s a) (usable : refusals s a = [])
      (layout : Layout.isValid (settled s a).log.layout = true) (nul : meetsNul s a = true)
      (exit : o.exit = .failure LogFault.nul.toFailure) (idle : o.Idle)
  | endless (starts : Starts s a) (boundless : (settled s a).probe.Boundless)
      (exit : o.exit = .never)
  | probed (p : Probe) (starts : Starts s a) (bounded : ¬ (settled s a).probe.Boundless)
      (course : (Probe.fresh { settings := (settled s a).probe }).course
        (s.connection (settled s a).probe.url) = .ok (0, p))
      (exit : o.exit = .status 0) (trace : o.trace = p.trace) (elapsed : o.elapsed = p.now)

variable {s a}

/-- Where no settings are kept, there is no NUL on the way to the log file. -/
theorem meetsNul_eq_false (unsettled : s.Unsettled) (file : Loads s a) : meetsNul s a = false := by
  unfold meetsNul settled SettingsStore.settled
  rw [unsettled.kept]
  exact (SettingsStore.merged_hasPath unsettled.environment file a.overrides).meetsNul_eq_false _

/-- To say which lines cannot be understood changes no file. -/
theorem files_warned : (warned s a).files = s.logging.files := by
  unfold warned warnAboutLines
  split
  next text _ =>
    split
    next =>
      generalize EnvFile.malformedLines text = lines
      generalize s.logging = l
      induction lines generalizing l with
      | nil => rfl
      | cons line rest ih => exact ih (l.print _ _)
    next => rfl
  next => rfl

/-- Settings that are used have a lifetime that is not zero or less. -/
theorem settled_lifetime (usable : refusals s a = []) :
    (settled s a).probe.lifetime.isNonpositive = false := by
  have admissible := ((s.store.refusals_eq_nil_iff _ _ _).mp usable).2
  exact (Double.isNonpositive_eq_false_iff _).mpr admissible.lifetime

/-- A probe that is started returns, or waits for ever. -/
theorem probe_ends (starts : Starts s a) (store : SettingsStore) (l : Logging) :
    Ends s a (probe s store l (settled s a).probe) := by
  have endless : Probe.Endless { settings := (settled s a).probe } 0 ↔
      (settled s a).probe.Boundless :=
    Probe.endless_iff 0 (settled_lifetime starts.usable)
  let script := s.connection (settled s a).probe.url
  unfold probe
  by_cases boundless : (settled s a).probe.Boundless
  · obtain ⟨p, course⟩ := Probe.course_endless script (endless.mpr boundless)
    rw [course]
    exact .endless starts boundless rfl
  · obtain ⟨p, course⟩ := Probe.course_returns script (mt endless.mp boundless)
    rw [course]
    exact .probed p starts boundless course rfl rfl rfl

/-- A program whose settings can be used probes if logging can be configured, and fails
otherwise. -/
theorem configured_ends (file : Loads s a) (usable : refusals s a = []) (store : SettingsStore) :
    Ends s a (match (warned s a).configure (settled s a).log none s.encoding with
      | (l, some fault) => { exit := .failure fault.toFailure, store, logging := l }
      | (l, none) => probe s store l (settled s a).probe) := by
  cases layout : Layout.isValid (settled s a).log.layout with
  | false =>
    rw [Logging.configure_invalid _ _ layout]
    exact .misconfigured file usable layout rfl (Logging.console_retire _) ⟨rfl, rfl, rfl⟩
  | true =>
    have configured := Logging.configure_valid (warned s a) s.encoding layout
    rw [files_warned] at configured
    rcases both : (warned s a).configure (settled s a).log none s.encoding with ⟨l, fault?⟩
    rw [both] at configured
    cases path : meetsNul s a with
    | false =>
      obtain rfl : fault? = none := configured.trans (if_neg (Bool.eq_false_iff.mp path))
      exact probe_ends ⟨file, usable, layout, path⟩ store l
    | true =>
      obtain rfl : fault? = some .nul := configured.trans (if_pos path)
      exact .unlogged file usable layout path rfl ⟨rfl, rfl, rfl⟩

theorem runWith_ends (probing : a.serveMock = false) : Ends s a (runWith s a) := by
  unfold runWith
  rcases s.store.loadFrom_cases s.logging.files a.envFile with
    ⟨file, e, loads, same⟩ | ⟨file, e, fault, loads, kind⟩
  · have overridden : (SettingsStore.override _ a.overrides).2 =
        if refusals s a = [] then .ok (settled s a) else .error (.unusable (refusals s a)) :=
      SettingsStore.override_loaded same a.overrides
    simp only [loads]
    rcases both : SettingsStore.override _ a.overrides with ⟨store, result⟩
    rw [both] at overridden
    by_cases usable : refusals s a = []
    · rw [if_pos usable] at overridden
      cases overridden
      simp only [probing, Bool.false_eq_true, if_false]
      exact configured_ends file usable store
    · rw [if_neg usable] at overridden
      cases overridden
      exact .refused file usable rfl rfl ⟨rfl, rfl, rfl⟩
  · simp only [loads]
    exact .unloadable _ file rfl kind rfl ⟨rfl, rfl, rfl⟩

end Program

end BoxProbe
