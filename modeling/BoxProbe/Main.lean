/-
Module: BoxProbe.Main
Purpose: The command line program.
Main exports: main
-/
import BoxProbe.CommandLine.Program
import BoxProbe.Session.Address

/-!
The outer layer of the program: it gathers what `Program.run` needs and does what came of it.  The
connection is replayed: the lines of the standard input are the frames that the server delivers, and
an address that no connection can be opened to is refused.
-/

namespace BoxProbe

namespace Replay

/-- The content of a file, if it can be read. -/
def readIfThere (path : String) : IO (Option String) :=
  try
    return some (← IO.FS.readFile path)
  catch _ =>
    return none

/-- The content of the file of variables that is found where none is named: the first one that can
be read in the program's directory and those above it. -/
def nearestVariables : IO (Option String) := do
  let home := FilePath.ofString (← IO.appDir).toString
  let places := (List.range (home.names.length + 1)).reverse.map home.names.take
  places.findSomeM? fun place =>
    readIfThere ({ home with names := place ++ [".env"] } : FilePath).toString

/-- The lines of a stream without their ends. -/
partial def readLines (stream : IO.FS.Stream) (seen : Array String) : IO (Array String) := do
  let line ← stream.getLine
  if line.isEmpty then return seen
  readLines stream (seen.push (if line.endsWith "\n" then (line.dropEnd 1).toString else line))

/-- The variables that settings are read from. -/
def settingNames : List String :=
  ["CBSIM_PROBE_URL", "CBSIM_PROBE_LIFETIME", "CBSIM_PROBE_OPEN_TIMEOUT",
    "CBSIM_PROBE_CLOSE_TIMEOUT", "CBSIM_MOCK_HOST", "CBSIM_MOCK_PORT", "CBSIM_MOCK_QR_TEXT",
    "LOG_LEVEL", "LOG_FORMAT", "LOG_DIR", "LOG_FILENAME", "LOG_MAX_SIZE", "LOG_BACKUP_COUNT",
    "LOG_CONSOLE_OUTPUT", "LOG_FILE_OUTPUT", Environment.disablingName]

/-- The variables that a file of variables names or refers to. -/
def namesIn (text : String) : List String :=
  (EnvFile.bindings text).flatMap fun (name, value?) =>
    name :: (Expansion.atoms (value?.getD "")).filterMap fun
      | .reference name _ => some name
      | .literal _ => none

/-- The values of variables. -/
def environmentOf (names : List String) : IO Environment :=
  names.foldlM (fun e name => do
    match ← IO.getEnv name with
    | some value => return e.put name value
    | none => return e) []

/-- A connection that delivers frames at once, unless its address is refused. -/
def connection (frames : List String) (url : String) : Script :=
  { connectFailure := Address.refusal? url
    server := frames.map fun f => { act := .frame (.text f) } }

/-- The working directory, with nothing known to be in it. -/
def workingDirectory : IO Directory := do
  let path := (← IO.currentDir).toString
  return { path, above := (FilePath.ofString path).names.dropLast }

/-- The working directory as far as it is known, with one more file that may be in it. -/
def withKnown (d : Directory) (file : String) : IO Directory := do
  match ← readIfThere file with
  | none => return d
  | some text =>
    let path := FilePath.ofString file
    match Directory.lexicalPlace? path with
    | some place => return d.withFile place text
    | none => return { d with elsewhere := d.elsewhere ++ [(path, text)] }

/-- The files that logging may write to: the log file and its backups. -/
def logFiles (s : LogSettings) : List String :=
  let file := (s.directory.join (FilePath.ofString s.fileName)).toString
  if s.toFile then
    file :: (List.range (min s.backups.toNat 1000)).map fun i => s!"{file}.{i + 1}"
  else []

/-- Writes what a run printed, and the files that it changed. -/
def finish (before : Directory) (o : Outcome) : IO UInt32 := do
  (← IO.getStdout).putStr (o.logging.written .output)
  (← IO.getStderr).putStr (o.logging.written .errors)
  for (place, node) in o.logging.files.nodes do
    if before.node? place ≠ some node then
      match node with
      | .directory => IO.FS.createDirAll ("/".intercalate place)
      | .file content => IO.FS.writeFile ("/".intercalate place) content
  match o.exit with
  | .status n | .early n => return n.toUInt32
  | .failure f =>
    let words := (f.message.toString?).getD ""
    IO.eprintln s!"{f.kindName}: {words}"
    return 1
  | .never => return 1

/-- Runs the program on the lines of the standard input. -/
def run (arguments : List String) : IO UInt32 := do
  let asked :=
    match Arguments.parse arguments with
    | .arguments a => a
    | _ => { serveMock := true }
  let here := { ← workingDirectory with defaultFile := ← nearestVariables }
  let files ← asked.envFile.toList.foldlM withKnown here
  let text? := SettingsStore.fileText? files asked.envFile
  let store : SettingsStore :=
    { environment := ← environmentOf (settingNames ++ namesIn (text?.getD "")) }
  let files ←
    match ((store.loadFrom files asked.envFile).1.override asked.overrides).2 with
    | .ok settings => (logFiles settings.log).foldlM withKnown files
    | .error _ => pure files
  let frames ← if asked.serveMock then pure #[] else readLines (← IO.getStdin) #[]
  finish files <| Program.run {
    store
    logging := { files, time := toString (← IO.monoMsNow) }
    connection := connection frames.toList } arguments

end Replay

end BoxProbe

/-- Runs the program. -/
def main (arguments : List String) : IO UInt32 :=
  BoxProbe.Replay.run arguments
