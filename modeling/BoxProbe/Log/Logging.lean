/-
Module: BoxProbe.Log.Logging
Purpose: The program's logger, its handlers, and what they write.
Main exports: LogHandler, HandlerEvent, Logging, Logging.emit, Logging.configure, LogFault
-/
import BoxProbe.Files.Directory
import BoxProbe.Log.Layout
import BoxProbe.Settings.Basic

/-!
All records go to one logger.  It drops those below its level and hands each other one to its
handlers in order: the console, and a file that is replaced before it grows too large.  A logger
without handlers writes the bare message of a warning or worse to the error stream.  To configure
the logger is to retire its handlers, one after another, and to attach new ones.  What happens to
its handlers is noted.
-/

namespace BoxProbe

/-- The standard streams that the program writes to. -/
inductive ConsoleStream where
  | output
  | errors
deriving DecidableEq, Repr

/-- Whether the output stream can be set to write UTF-8. -/
inductive ConsoleEncoding where
  | adjustable
  /-- There is no way to set it. -/
  | fixed
  /-- Setting it fails, for this reason. -/
  | refusing (reason : String)
deriving DecidableEq, Repr

/-- Where a handler writes. -/
inductive LogSink where
  | console
  /-- A file below the working directory or elsewhere, its size limit and the number of backups. -/
  | file (place : Option Place) (maxSize backups : Int)
deriving DecidableEq, Repr

/-- A handler; its serial number tells it from all others. -/
structure LogHandler where
  serial : Nat
  layout : String
  sink : LogSink
deriving DecidableEq, Repr

/-- What happens to a handler. -/
inductive HandlerEvent where
  | attached
  /-- It is handed a record, and writes it if it can show it. -/
  | handed (r : LogRecord)
  | detached
  | closed
deriving DecidableEq, Repr

/-- Why logging cannot be configured. -/
inductive LogFault where
  /-- The level is given by the name of something else: a text, or another value as it is shown. -/
  | levelIsText (text : String)
  | levelIsValue (shown : String)
  /-- The layout has no field. -/
  | layout (layout : String)
  /-- The path of the file has a NUL in it. -/
  | nul
deriving DecidableEq, Repr

namespace LogFault

/-- The failure that a fault leaves with. -/
def toFailure : LogFault → Failure
  | .levelIsText text =>
    .raised .value [.str (("Unknown level: " : Text) ++ (Text.ofString text).quoted)]
  | .levelIsValue shown =>
    .raised .type [Json.ofString ("Level not an integer or a valid string: " ++ shown)]
  | .layout text =>
    .raised .value [Json.ofString ("Invalid format '" ++ text ++ "' for '%' style")]
  | .nul => .raised .value [Json.ofString "embedded null byte"]

end LogFault

/-- The weight below which a logger without a level of its own drops records. -/
def defaultWeight : Nat := LogLevel.warning.weight

/-- The weight that a level's name in upper case asks for, among them names that no setting has; an
unknown name asks for that of `info`. -/
def weightOfName (name : Text) : Except LogFault Nat :=
  let is (s : String) : Bool := name == Text.ofString s
  match LogLevel.ofName? name with
  | some level => .ok level.weight
  | none =>
    if is "FATAL" then .ok LogLevel.critical.weight
    else if is "WARN" then .ok LogLevel.warning.weight
    else if is "NOTSET" then .ok 0
    else if is "BASIC_FORMAT" then .error (.levelIsText "%(levelname)s:%(name)s:%(message)s")
    else if is "_STYLES" then
      .error <| .levelIsValue <|
        "\x7b'%': (<class 'logging.PercentStyle'>, '%(levelname)s:%(name)s:%(message)s'), " ++
        "'\x7b': (<class 'logging.StrFormatStyle'>, " ++
        "'\x7blevelname\x7d:\x7bname\x7d:\x7bmessage\x7d'), " ++
        "'$': (<class 'logging.StringTemplateStyle'>, " ++
        "'$\x7blevelname\x7d:$\x7bname\x7d:$\x7bmessage\x7d')\x7d"
    else .ok LogLevel.info.weight

/-- A logger: the weight of its level (zero for none), its handlers, those of earlier
configurations, the files they write to, and what went to the standard streams. -/
structure Logging where
  weight : Nat := 0
  /-- Whether records are also offered to the handlers of other programs' loggers. -/
  propagates : Bool := true
  handlers : List LogHandler := []
  retired : List LogHandler := []
  /-- What has happened to handlers, in its order. -/
  history : List (LogHandler × HandlerEvent) := []
  files : Directory := {}
  console : List (ConsoleStream × String) := []
  /-- The time as lines show it. -/
  time : String := ""

namespace Logging

/-- The weight below which records are dropped. -/
def effectiveWeight (l : Logging) : Nat :=
  if l.weight = 0 then defaultWeight else l.weight

/-- Whether a record is handed to the handlers. -/
def passes (l : Logging) (r : LogRecord) : Bool :=
  l.effectiveWeight ≤ r.level.weight

/-- The text that went to a stream. -/
def written (l : Logging) (stream : ConsoleStream) : String :=
  String.join ((l.console.filter fun w => w.1 = stream).map (·.2))

/-- Writes to a stream. -/
def print (l : Logging) (stream : ConsoleStream) (text : String) : Logging :=
  { l with console := l.console ++ [(stream, text)] }

/-- The place of a backup of a file. -/
def backupPlace (place : Place) (n : Nat) : Place :=
  place.dropLast ++ [place.getLastD "" ++ s!".{n}"]

/-- Moves a file, if it is there, in place of another one; a directory is not replaced. -/
def moveOver (d : Directory) (source target : Place) : Option Directory :=
  match d.node? source, d.node? target with
  | none, _ => some d
  | some _, some .directory => none
  | some _, _ => some ((d.remove target).rename source target)

/-- Moves a file to its first backup and each backup to the next one; the last one is dropped. -/
def rotate (d : Directory) (place : Place) (backups : Nat) : Option Directory :=
  if backups = 0 then some d
  else
    let shifted := (List.range (backups - 1)).reverse.foldl
      (fun d? i => d?.bind fun d =>
        moveOver d (backupPlace place (i + 1)) (backupPlace place (i + 2)))
      (some d)
    (shifted.bind fun d => moveOver d place (backupPlace place 1)).map fun d =>
      if (d.node? place).isNone then d.put place (.file "") else d

/-- Whether a file is replaced before a line is written to it. -/
def isFull (d : Directory) (place : Place) (maxSize : Int) (line : String) : Bool :=
  0 < maxSize && maxSize ≤ (((d.content place).utf8ByteSize + line.length : Nat) : Int)

/-- Writes a line to a file; a file that cannot be replaced is left alone. -/
def writeFile (d : Directory) (place : Place) (maxSize backups : Int) (line : String) : Directory :=
  if isFull d place maxSize line then
    match rotate d place backups.toNat with
    | some d => d.append place line
    | none => d
  else d.append place line

/-- Notes what happens to a handler. -/
def note (l : Logging) (h : LogHandler) (e : HandlerEvent) : Logging :=
  { l with history := l.history ++ [(h, e)] }

/-- Hands a record to a handler, which writes it if it can show it. -/
def deliver (r : LogRecord) (l : Logging) (h : LogHandler) : Logging :=
  let l := l.note h (.handed r)
  match (Layout.render h.layout l.time r).bind Text.toString? with
  | none => l
  | some shown =>
    let line := shown ++ "\n"
    match h.sink with
    | .console => l.print .output line
    | .file none _ _ => l
    | .file (some place) maxSize backups =>
      { l with files := writeFile l.files place maxSize backups line }

/-- Logs a record. -/
def emit (l : Logging) (r : LogRecord) : Logging :=
  if l.passes r then
    if l.handlers = [] then
      match r.message.toString? with
      | some message =>
        if defaultWeight ≤ r.level.weight then l.print .errors (message ++ "\n") else l
      | none => l
    else l.handlers.foldl (deliver r) l
  else l

/-- A record of the program itself. -/
def ownRecord (level : LogLevel) (message : Text) : LogRecord :=
  { level, source := "", message }

/-- Attaches a handler with a fresh serial number. -/
def attach (l : Logging) (layout : String) (sink : LogSink) : Logging :=
  let h : LogHandler := ⟨l.retired.length + l.handlers.length, layout, sink⟩
  { l with handlers := l.handlers ++ [h] }.note h .attached

/-- Detaches a handler. -/
def detach (l : Logging) (h : LogHandler) : Logging :=
  { l with handlers := l.handlers.erase h }.note h .detached

/-- Closes a handler. -/
def close (l : Logging) (h : LogHandler) : Logging :=
  { l with retired := l.retired ++ [h] }.note h .closed

/-- Retires the handlers there are: each is detached and then closed. -/
def retire (l : Logging) : Logging :=
  l.handlers.foldl (fun l h => (l.detach h).close h) l

/-- Attaches the console, if it is wanted. -/
def attachConsole (l : Logging) (s : LogSettings) (encoding : ConsoleEncoding) : Logging :=
  if s.toConsole then
    let l :=
      match encoding with
      | .refusing reason =>
        l.emit (ownRecord .warning
          (Text.ofString ("Could not reconfigure console stream encoding: " ++ reason)))
      | _ => l
    l.attach s.layout .console
  else l

/-- Says that there is no file, and goes on without. -/
def withoutFile (l : Logging) (fault : FileFault) : Logging :=
  l.emit (ownRecord .warning (("Could not set up file logging: " : Text) ++ fault.message))

/-- A text with a NUL in it. -/
def hasNul (s : String) : Bool :=
  s.toList.contains '\x00'

/-- Attaches the file, if it is wanted and can be opened. -/
def attachFile (l : Logging) (s : LogSettings) : Logging × Option LogFault :=
  if s.toFile then
    if s.directory.names.any hasNul then (l, some .nul)
    else
      match l.files.makeAll s.directory with
      | (files, some fault) => (({ l with files }).withoutFile fault, none)
      | (files, none) =>
        let l := { l with files }
        if hasNul s.fileName then (l, some .nul)
        else
          match l.files.openLog (s.directory.join (FilePath.ofString s.fileName)) with
          | .error fault => (l.withoutFile fault, none)
          | .ok (files, place) =>
            (({ l with files }).attach s.layout (.file place s.maxSize s.backups), none)
  else (l, none)

/-- The name of the level that is asked for: a level of its own, unless it is empty, takes
precedence over that of the settings. -/
def levelName (s : LogSettings) (level? : Option String) : Text :=
  match level? with
  | none => s.level.name
  | some level => if level = "" then s.level.name else Text.upper (Text.ofString level)

/-- Configures the logger.  What was done before a fault stays done. -/
def configure (l : Logging) (s : LogSettings) (level? : Option String)
    (encoding : ConsoleEncoding) : Logging × Option LogFault :=
  match weightOfName (levelName s level?) with
  | .error fault => (l, some fault)
  | .ok weight =>
    let l := ({ l with weight }).retire
    if Layout.isValid s.layout then
      match (l.attachConsole s encoding).attachFile s with
      | (l, some fault) => (l, some fault)
      | (l, none) =>
        (({ l with propagates := false }).emit (ownRecord .debug "Logging configured"), none)
    else (l, some (.layout s.layout))

end Logging

end BoxProbe
