/-
Module: BoxProbe.Proofs.Log.Reconfiguration
Purpose: However often the logger is configured, only the handlers of the last configuration are in
  use, and each later record is handed to each of them once.
Trusted boundary: none
Main exports: HandlerEvent.inUse, HandlerEvent.ended, Logging.Accounted, LogSettings.sinks,
  Logging.Attaches, LogStep, Logging.run, Logging.Hears, Logging.Stands, Logging.run_stands
-/
import BoxProbe.Proofs.Log.Configuration
import Mathlib.Data.List.Nodup

namespace BoxProbe

/-!
A handler is attached, handed records, and at last detached and closed.  Whatever is done to the
logger, each of its handlers is accounted for: it is attached and in use, or it is retired and its
life is over.  A configuration retires the handlers it finds and attaches those that its settings
ask for, also if it has to log a warning while only some of them are attached.  Records, from then
on to the next configuration, are handed to these.
-/

namespace HandlerEvent

/-- The life of a handler in use that was handed these records. -/
def inUse (records : List LogRecord) : List HandlerEvent :=
  .attached :: records.map .handed

/-- Such a life when it is over. -/
def ended (records : List LogRecord) : List HandlerEvent :=
  inUse records ++ [.detached, .closed]

end HandlerEvent

/-- What a handler writes, and where. -/
def LogHandler.outlet (h : LogHandler) : String × LogSink :=
  (h.layout, h.sink)

namespace LogSettings

/-- Where the log file is when its directory is there, or was made, and the file was opened in it;
nothing if that fails. -/
def place? (s : LogSettings) (files : Directory) : Option (Option Place) :=
  if s.directory.names.any Logging.hasNul || Logging.hasNul s.fileName then none
  else
    match files.makeAll s.directory with
    | (_, some _) => none
    | (files, none) =>
      (files.openLog (s.directory.join (FilePath.ofString s.fileName))).toOption.map (·.2)

/-- The log file, if it is wanted and can be opened. -/
def fileSinks (s : LogSettings) (files : Directory) : List LogSink :=
  if s.toFile then (s.place? files).toList.map fun place => .file place s.maxSize s.backups else []

/-- The console, if it is wanted. -/
def consoleSinks (s : LogSettings) : List LogSink :=
  if s.toConsole then [.console] else []

/-- What handlers of these settings write to, in their order. -/
def sinks (s : LogSettings) (files : Directory) : List LogSink :=
  s.consoleSinks ++ s.fileSinks files

end LogSettings

/-- What is done to the logger. -/
inductive LogStep where
  /-- It is configured with settings, while the output stream can be set like this. -/
  | configure (s : LogSettings) (encoding : ConsoleEncoding)
  /-- A part of the program logs a record. -/
  | record (r : LogRecord)
  /-- Time passes, and others may change the files. -/
  | elapse (time : String) (files : Directory)

namespace LogStep

def isConfigure : LogStep → Bool
  | configure .. => true
  | _ => false

def record? : LogStep → Option LogRecord
  | record r => some r
  | _ => none

end LogStep

namespace Logging

open LogHandler

variable {l l' l'' : Logging} {s : LogSettings} {layout : String}

/-! ### Handlers accounted for -/

/-- Every handler is accounted for: it is attached and in use, or it is retired and its life is
over. -/
structure Accounted (l : Logging) : Prop where
  serials : (l.retired ++ l.handlers).map LogHandler.serial =
    List.range (l.retired.length + l.handlers.length)
  unknown : ∀ h, h ∉ l.retired ++ l.handlers → l.life h = []
  inUse : ∀ h ∈ l.handlers, ∃ records, l.life h = HandlerEvent.inUse records
  ended : ∀ h ∈ l.retired, ∃ records, l.life h = HandlerEvent.ended records

namespace Accounted

/-- No handler is listed twice, since no two have the same number. -/
theorem nodup (accounted : l.Accounted) : (l.retired ++ l.handlers).Nodup :=
  List.Nodup.of_map LogHandler.serial (accounted.serials ▸ List.nodup_range)

theorem distinct (accounted : l.Accounted) : l.handlers.Nodup :=
  (List.nodup_append.mp accounted.nodup).2.1

theorem not_retired (accounted : l.Accounted) {h : LogHandler} (attached : h ∈ l.handlers) :
    h ∉ l.retired :=
  fun retired => (List.nodup_append.mp accounted.nodup).2.2 h retired h attached rfl

/-- The level, the files and the console are no part of the account. -/
theorem congr (accounted : l.Accounted) (handlers : l'.handlers = l.handlers)
    (retired : l'.retired = l.retired) (history : l'.history = l.history) : l'.Accounted := by
  have lives : l'.life = l.life := by
    funext h
    unfold life
    rw [history]
  constructor
  · rw [handlers, retired]
    exact accounted.serials
  · rw [handlers, retired, lives]
    exact accounted.unknown
  · rw [handlers, lives]
    exact accounted.inUse
  · rw [retired, lives]
    exact accounted.ended

/-- A handler that is attached has a number of its own. -/
theorem attach (accounted : l.Accounted) (layout : String) (sink : LogSink) :
    (l.attach layout sink).Accounted := by
  let new : LogHandler := ⟨l.retired.length + l.handlers.length, layout, sink⟩
  have unlisted : new ∉ l.retired ++ l.handlers := by
    intro listed
    have below := List.mem_map_of_mem (f := LogHandler.serial) listed
    rw [accounted.serials, List.mem_range] at below
    exact Nat.lt_irrefl _ below
  have lives (h : LogHandler) :
      (l.attach layout sink).life h = l.life h ++ if h ∈ [new] then [.attached] else [] :=
    life_each (List.nodup_singleton new) rfl h
  have older {h : LogHandler} (listed : h ∈ l.retired ++ l.handlers) :
      (l.attach layout sink).life h = l.life h := by
    have other : h ∉ [new] := fun same => unlisted (List.mem_singleton.mp same ▸ listed)
    rw [lives, if_neg other, List.append_nil]
  constructor
  · have numbered : (l.retired ++ l.handlers ++ [new]).map LogHandler.serial =
        List.range (l.retired.length + l.handlers.length + 1) := by
      rw [List.map_append, accounted.serials, List.range_succ]
      rfl
    simpa [Logging.attach, note, Nat.add_assoc] using numbered
  · intro h stranger
    have outside : h ∉ l.retired ++ l.handlers ∧ h ∉ [new] := by
      simpa [Logging.attach, note, new, not_or, and_assoc] using stranger
    rw [lives, if_neg outside.2, accounted.unknown h outside.1]
    rfl
  · intro h attached
    rcases List.mem_append.mp attached with old | same
    · rw [older (List.mem_append_right _ old)]
      exact accounted.inUse h old
    · rw [lives, if_pos same, List.mem_singleton.mp same, accounted.unknown new unlisted]
      exact ⟨[], rfl⟩
  · intro h retired
    rw [older (List.mem_append_left _ retired)]
    exact accounted.ended h retired

/-- The lives of handlers that are retired are over. -/
theorem retire (accounted : l.Accounted) : l.retire.Accounted := by
  have lives (h : LogHandler) :
      l.retire.life h = l.life h ++ if h ∈ l.handlers then [.detached, .closed] else [] :=
    life_each accounted.distinct (by rw [retire_eq]) h
  constructor
  · simpa using accounted.serials
  · intro h unlisted
    have outside : h ∉ l.retired ++ l.handlers := by simpa using unlisted
    rw [lives, if_neg (fun attached => outside (List.mem_append_right _ attached)),
      accounted.unknown h outside]
    rfl
  · rw [handlers_retire]
    exact fun _ attached => nomatch attached
  · intro h listed
    rw [retired_retire] at listed
    rw [lives]
    rcases List.mem_append.mp listed with retired | attached
    · rw [if_neg (fun attached => accounted.not_retired attached retired), List.append_nil]
      exact accounted.ended h retired
    · rw [if_pos attached]
      obtain ⟨records, same⟩ := accounted.inUse h attached
      exact ⟨records, by rw [same]; rfl⟩

end Accounted

/-! ### Records -/

/-- From one state to another the logger hears records, and hands those it does not drop to the
handlers it has; no handler comes or goes. -/
structure Hears (records : List LogRecord) (l l' : Logging) : Prop where
  handlers : l'.handlers = l.handlers
  retired : l'.retired = l.retired
  weight : l'.weight = l.weight
  propagates : l'.propagates = l.propagates
  life : l.handlers.Nodup → ∀ h, l'.life h = l.life h ++
    if h ∈ l.handlers then (records.filter l.passes).map .handed else []

namespace Hears

variable {records more : List LogRecord}

theorem passes_eq (hears : Hears records l l') : l'.passes = l.passes := by
  funext r
  unfold passes effectiveWeight
  rw [hears.weight]

theorem trans (first : Hears records l l') (later : Hears more l' l'') :
    Hears (records ++ more) l l'' where
  handlers := later.handlers.trans first.handlers
  retired := later.retired.trans first.retired
  weight := later.weight.trans first.weight
  propagates := later.propagates.trans first.propagates
  life distinct h := by
    rw [later.life (first.handlers ▸ distinct), first.life distinct, first.handlers,
      first.passes_eq, List.filter_append, List.map_append, List.append_assoc]
    split <;> rfl

/-- Nothing is heard where only the files, the console or the time change. -/
theorem of_same (handlers : l'.handlers = l.handlers) (retired : l'.retired = l.retired)
    (weight : l'.weight = l.weight) (propagates : l'.propagates = l.propagates)
    (history : l'.history = l.history) : Hears [] l l' where
  handlers := handlers
  retired := retired
  weight := weight
  propagates := propagates
  life _ h := by simp [Logging.life, history]

/-- A record that is logged is heard. -/
theorem emit (l : Logging) (r : LogRecord) : Hears [r] l (l.emit r) := by
  obtain ⟨files, console, same, -⟩ := l.emit_eq r
  rw [same]
  refine ⟨rfl, rfl, rfl, rfl, fun distinct h => ?_⟩
  cases passes : l.passes r with
  | true =>
    have recipients : l.recipients r = l.handlers := if_pos passes
    rw [life_each (recipients ▸ distinct) rfl, recipients, List.filter_singleton, passes]
    rfl
  | false =>
    have recipients : l.recipients r = [] := if_neg (by simp [passes])
    rw [life_each (recipients ▸ List.nodup_nil) rfl, recipients, List.filter_singleton, passes]
    simp

/-- The handlers there were are handed the records, and the others stay as they are. -/
theorem accounted (hears : Hears records l l') (accounted : l.Accounted) : l'.Accounted := by
  have lives := hears.life accounted.distinct
  constructor
  · rw [hears.retired, hears.handlers]
    exact accounted.serials
  · intro h unlisted
    rw [hears.retired, hears.handlers] at unlisted
    rw [lives, if_neg (fun attached => unlisted (List.mem_append_right _ attached)),
      accounted.unknown h unlisted]
    rfl
  · intro h attached
    rw [hears.handlers] at attached
    obtain ⟨earlier, same⟩ := accounted.inUse h attached
    refine ⟨earlier ++ records.filter l.passes, ?_⟩
    rw [lives, if_pos attached, same]
    simp [HandlerEvent.inUse]
  · intro h retired
    rw [hears.retired] at retired
    rw [lives, if_neg (fun attached => accounted.not_retired attached retired), List.append_nil]
    exact accounted.ended h retired

end Hears

/-! ### Configurations -/

/-- From one state to another, handlers with a layout are attached that write to these sinks, behind
the handlers there were. -/
structure Attaches (layout : String) (sinks : List LogSink) (l l' : Logging) : Prop where
  outlets : l'.handlers.map outlet = l.handlers.map outlet ++ sinks.map fun sink => (layout, sink)
  retired : l'.retired = l.retired
  weight : l'.weight = l.weight
  accounted : l.Accounted → l'.Accounted

namespace Attaches

variable {sinks more : List LogSink}

theorem trans (first : Attaches layout sinks l l') (later : Attaches layout more l' l'') :
    Attaches layout (sinks ++ more) l l'' where
  outlets := by rw [later.outlets, first.outlets, List.map_append, List.append_assoc]
  retired := later.retired.trans first.retired
  weight := later.weight.trans first.weight
  accounted := later.accounted ∘ first.accounted

theorem of_hears {records : List LogRecord} (hears : Hears records l l') :
    Attaches layout [] l l' where
  outlets := by rw [hears.handlers, List.map_nil, List.append_nil]
  retired := hears.retired
  weight := hears.weight
  accounted := hears.accounted

theorem attach (l : Logging) (layout : String) (sink : LogSink) :
    Attaches layout [sink] l (l.attach layout sink) where
  outlets := by simp [Logging.attach, note, outlet]
  retired := rfl
  weight := rfl
  accounted accounted := accounted.attach layout sink

/-- The console is attached if it is wanted, also if its encoding cannot be set. -/
theorem console (l : Logging) (s : LogSettings) (encoding : ConsoleEncoding) :
    Attaches s.layout s.consoleSinks l (l.attachConsole s encoding) := by
  unfold attachConsole LogSettings.consoleSinks
  split
  next =>
    cases encoding with
    | adjustable => exact attach l s.layout .console
    | fixed => exact attach l s.layout .console
    | refusing reason => exact (of_hears (.emit l _)).trans (attach _ s.layout .console)
  next => exact of_hears (.of_same rfl rfl rfl rfl rfl)

/-- The file is attached if it is wanted and can be opened. -/
theorem file (l : Logging) (s : LogSettings) :
    Attaches s.layout (s.fileSinks l.files) l (l.attachFile s).1 := by
  have unchanged {files : Directory} : Attaches s.layout [] l { l with files } :=
    of_hears (.of_same rfl rfl rfl rfl rfl)
  unfold attachFile LogSettings.fileSinks LogSettings.place?
  cases s.toFile with
  | false => exact unchanged
  | true =>
    cases s.directory.names.any hasNul with
    | true => exact unchanged
    | false =>
      rcases l.files.makeAll s.directory with ⟨files, _ | fault⟩
      · cases hasNul s.fileName with
        | true => exact unchanged
        | false =>
          dsimp only [Bool.or_false, if_true, if_false]
          cases files.openLog (s.directory.join (FilePath.ofString s.fileName)) with
          | error fault => exact unchanged.trans (of_hears (.emit _ _))
          | ok opened => exact unchanged.trans (attach _ s.layout _)
      · cases hasNul s.fileName <;> exact unchanged.trans (of_hears (.emit _ _))

/-- A logger without handlers gets those that settings ask for. -/
theorem all (bare : l.handlers = []) (s : LogSettings) (encoding : ConsoleEncoding) :
    Attaches s.layout (s.sinks l.files) l ((l.attachConsole s encoding).attachFile s).1 := by
  have filed := file (l.attachConsole s encoding) s
  rw [files_attachConsole bare] at filed
  exact (console l s encoding).trans filed

end Attaches

/-- With settings that can be used, the logger retires all its handlers and attaches those that it
is asked for. -/
theorem configure_eq (l : Logging) (valid : Layout.isValid s.layout = true) (path : s.HasPath)
    (encoding : ConsoleEncoding) :
    ∃ l', l.configure s none encoding = (l', none) ∧
      l'.handlers.map outlet = ((s.sinks l.files).map fun sink => (s.layout, sink)) ∧
      l'.retired = l.retired ++ l.handlers ∧ l'.weight = s.level.weight ∧
      l'.propagates = false := by
  let bare := ({ l with weight := s.level.weight } : Logging).retire
  have attached := Attaches.all (l := bare) (handlers_retire _) s encoding
  have opened := attachFile_fault (bare.attachConsole s encoding) s
  rw [path.meetsNul_eq_false] at opened
  unfold configure
  rw [weightOfName_levelName]
  simp only [valid, if_true]
  rcases both : (bare.attachConsole s encoding).attachFile s with ⟨l₁, fault?⟩
  rw [both] at attached opened
  cases opened
  have hears := Hears.emit { l₁ with propagates := false } (ownRecord .debug "Logging configured")
  refine ⟨_, rfl, ?_, ?_, ?_, hears.propagates⟩
  · rw [hears.handlers, attached.outlets]
    simp [bare]
  · rw [hears.retired, attached.retired, retired_retire]
  · rw [hears.weight, attached.weight, weight_retire]

/-! ### Runs -/

/-- The logger after a step; a configuration that fails leaves what it did before. -/
def step (l : Logging) : LogStep → Logging
  | .configure s encoding => (l.configure s none encoding).1
  | .record r => l.emit r
  | .elapse time files => { l with time, files }

/-- The logger after steps, one after another. -/
def run (l : Logging) (steps : List LogStep) : Logging :=
  steps.foldl step l

namespace Accounted

/-- A configuration keeps every handler accounted for, also one that fails. -/
theorem configure (accounted : l.Accounted) (s : LogSettings) (encoding : ConsoleEncoding) :
    (l.configure s none encoding).1.Accounted := by
  have bare : ({ l with weight := s.level.weight } : Logging).retire.Accounted :=
    Accounted.retire (accounted.congr rfl rfl rfl)
  unfold Logging.configure
  rw [weightOfName_levelName]
  dsimp only
  split
  next =>
    have attached := (Attaches.all (handlers_retire _) s encoding).accounted bare
    split
    next same =>
      rw [same] at attached
      exact attached
    next l₁ same =>
      rw [same] at attached
      exact (Hears.emit _ _).accounted (attached.congr rfl rfl rfl)
  next => exact bare

theorem step (accounted : l.Accounted) (x : LogStep) : (l.step x).Accounted := by
  cases x with
  | configure s encoding => exact accounted.configure s encoding
  | record r => exact (Hears.emit l r).accounted accounted
  | elapse time files => exact accounted.congr rfl rfl rfl

theorem run (accounted : l.Accounted) (steps : List LogStep) : (l.run steps).Accounted := by
  induction steps generalizing l with
  | nil => exact accounted
  | cons x rest ih => exact ih (accounted.step x)

end Accounted

/-- Up to the next configuration the logger hears the records that are logged. -/
theorem Hears.run (l : Logging) {steps : List LogStep}
    (since : ∀ x ∈ steps, x.isConfigure = false) :
    Hears (steps.filterMap LogStep.record?) l (l.run steps) := by
  induction steps generalizing l with
  | nil => exact of_same rfl rfl rfl rfl rfl
  | cons x rest ih =>
    obtain ⟨first, others⟩ := List.forall_mem_cons.mp since
    cases x with
    | configure => cases first
    | record r => exact (emit l r).trans (ih (l.emit r) others)
    | elapse time files =>
      have idle : Hears [] l { l with time, files } := of_same rfl rfl rfl rfl rfl
      exact idle.trans (ih _ others)

/-- No handler was ever attached. -/
structure Untouched (l : Logging) : Prop where
  handlers : l.handlers = []
  retired : l.retired = []
  history : l.history = []

theorem Untouched.accounted (untouched : l.Untouched) : l.Accounted := by
  constructor
  · rw [untouched.handlers, untouched.retired]
    rfl
  · intro h _
    rw [life, untouched.history]
    rfl
  · rw [untouched.handlers]
    exact fun _ attached => nomatch attached
  · rw [untouched.retired]
    exact fun _ retired => nomatch retired

/-- How the logger stands that was as `before` when it was configured with settings. -/
structure Stands (l : Logging) (s : LogSettings) (before : Logging) : Prop where
  /-- There is one handler for the console and one for the file, as they are asked for. -/
  outlets : l.handlers.map outlet = (s.sinks before.files).map fun sink => (s.layout, sink)
  distinct : l.handlers.Nodup
  /-- They are new, and in use. -/
  new : ∀ h ∈ l.handlers, before.life h = []
  inUse : ∀ h ∈ l.handlers, ∃ records, l.life h = HandlerEvent.inUse records
  /-- Every handler from before is detached and closed, and nothing has happened to it since. -/
  earlier : ∀ h, before.life h ≠ [] →
    h ∉ l.handlers ∧ ∃ records, l.life h = HandlerEvent.ended records
  propagates : l.propagates = false

/-- The handlers write to the console and the file, in this order. -/
theorem Stands.sinks {before : Logging} (stands : l.Stands s before) :
    l.handlers.map LogHandler.sink = s.sinks before.files := by
  have sinks := congrArg (List.map Prod.snd) stands.outlets
  simpa [Function.comp_def, outlet] using sinks

end Logging

end BoxProbe
