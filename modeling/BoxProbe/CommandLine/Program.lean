/-
Module: BoxProbe.CommandLine.Program
Purpose: The program: from its arguments to its exit.
Main exports: Surroundings, Exit, Outcome, Program.run
-/
import BoxProbe.CommandLine.Arguments
import BoxProbe.ControlBox.Server
import BoxProbe.Log.Logging
import BoxProbe.Session.Probe
import BoxProbe.Settings.Store

/-!
The program reads its arguments, loads the file of variables they name, settles its settings,
configures logging, and then probes or serves a control box until it is interrupted.  Settings that
cannot be used end it with status 2 before anything is probed; arguments that cannot be understood
end it at once.
-/

namespace BoxProbe

/-- What the program finds when it starts. -/
structure Surroundings where
  store : SettingsStore := {}
  logging : Logging := {}
  encoding : ConsoleEncoding := .adjustable
  /-- How a connection to an address behaves. -/
  connection : String → Script := fun _ => {}
  /-- The port that a listener gets, if it is not the one asked for. -/
  boundPort : Option Int := none

/-- How the program ends. -/
inductive Exit where
  /-- With a status. -/
  | status (n : Nat)
  /-- With a status, right after the arguments were read. -/
  | early (n : Nat)
  /-- By a failure that nothing handles. -/
  | failure (f : Failure)
  /-- Not at all. -/
  | never

/-- What came of a run of the program. -/
structure Outcome where
  exit : Exit
  store : SettingsStore
  logging : Logging
  elapsed : Time := 0
  trace : Trace := []
  /-- The hosts and ports of the listeners. -/
  listeners : List (String × Int) := []

namespace Program

/-- The log records of a box's notices. -/
def logAll (l : Logging) (records : List LogRecord) : Logging :=
  records.foldl Logging.emit l

/-- Serves a control box until the interrupt. -/
def serve (s : Surroundings) (store : SettingsStore) (l : Logging) (settings : BoxSettings) :
    Outcome :=
  let served := (ControlBox.ofSettings settings).visit (some (s.boundPort.getD settings.port))
  let l := logAll l (served.notices.map BoxNotice.toRecord)
  { exit := .status 0
    store
    logging := l.emit (Logging.ownRecord .info "Mock control box interrupted")
    listeners := [(settings.host, settings.port)] }

/-- Probes until the deadline. -/
def probe (s : Surroundings) (store : SettingsStore) (l : Logging) (settings : ProbeSettings) :
    Outcome :=
  match (Probe.fresh { settings }).course (s.connection settings.url) with
  | .ok (status, p) =>
    { exit := .status status
      store
      logging := logAll l (p.trace.log.map (·.2))
      elapsed := p.now
      trace := p.trace }
  | .error _ => { exit := .never, store, logging := l }

/-- Says which lines of a file of variables cannot be understood. -/
def warnAboutLines (l : Logging) (e : Environment) (text? : Option String) : Logging :=
  match text? with
  | some text =>
    if e.isLoading then
      (EnvFile.malformedLines text).foldl (fun l line =>
        l.print .errors
          s!"python-dotenv could not parse statement starting at line {line}\n") l
    else l
  | none => l

/-- Runs the program with arguments that could be understood. -/
def runWith (s : Surroundings) (a : Arguments) : Outcome :=
  let files := s.logging.files
  let l := warnAboutLines s.logging s.store.environment (SettingsStore.fileText? files a.envFile)
  match s.store.loadFrom files a.envFile with
  | (store, some fault) => { exit := .failure fault.toFailure, store, logging := l }
  | (store, none) =>
    match store.override a.overrides with
    | (store, .error (.unusable shortcomings)) =>
      { exit := .status 2
        store
        logging := l.print .errors ("ERROR: " ++ Shortcoming.report shortcomings ++ "\n") }
    | (store, .error fault) => { exit := .failure fault.toFailure, store, logging := l }
    | (store, .ok settings) =>
      match l.configure settings.log none s.encoding with
      | (l, some fault) => { exit := .failure fault.toFailure, store, logging := l }
      | (l, none) =>
        if a.serveMock then serve s store l settings.box else probe s store l settings.probe

/-- Runs the program. -/
def run (s : Surroundings) (arguments : List String) : Outcome :=
  match Arguments.parse arguments with
  | .help =>
    { exit := .early 0, store := s.store, logging := s.logging.print .output helpText }
  | .fault f =>
    let words := (f.message.toString?).getD ""
    { exit := .early 2
      store := s.store
      logging := s.logging.print .errors (usageText ++ "cbsim-probe: error: " ++ words ++ "\n") }
  | .arguments a => runWith s a

end Program

end BoxProbe
