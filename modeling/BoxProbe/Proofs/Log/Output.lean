/-
Module: BoxProbe.Proofs.Log.Output
Purpose: What a configured logger writes: one line for each record that it hands to a handler.
Trusted boundary: none
Main exports: LogSettings.line?, LogStep.timed, Logging.console_run, Logging.run_prints,
  Logging.run_files, Logging.content_writeFile
-/
import BoxProbe.Proofs.Log.Reconfiguration

namespace BoxProbe

/-!
A handler writes when it is handed a record, and at no other time.  So from a configuration to the
next one the output stream gets the lines of the records that are not below the level, and the log
file has the same lines at its end, as far as the layout can show them.
-/

/-- The line with which handlers of these settings show a record at a time, if they can show it. -/
def LogSettings.line? (s : LogSettings) (time : String) (r : LogRecord) : Option String :=
  ((Layout.render s.layout time r).bind Text.toString?).map (· ++ "\n")

/-- The records that are logged, each with the time as lines show it. -/
def LogStep.timed : (time : String) → List LogStep → List (String × LogRecord)
  | _, [] => []
  | time, .record r :: rest => (time, r) :: timed time rest
  | _, .elapse time _ :: rest => timed time rest
  | time, .configure _ _ :: rest => timed time rest

/-- What is put at a place is there. -/
theorem Directory.node?_put (d : Directory) {place : Place} (inside : place ≠ []) (node : Node) :
    (d.put place node).node? place = some node := by
  have gone : (d.nodes.filter fun entry => entry.1 ≠ place).find? (fun entry => entry.1 = place) =
      none := by
    rw [List.find?_eq_none]
    intro entry left
    simpa using (List.mem_filter.mp left).2
  rw [node?, if_neg inside, put, List.find?_append, gone]
  simp

namespace Logging

open LogHandler

variable {l l' : Logging} {s : LogSettings} {time : String} {r : LogRecord} {hs : List LogHandler}

/-! ### The console -/

theorem Hears.recipients_eq {records : List LogRecord} (hears : Hears records l l') :
    l'.recipients = l.recipients := by
  funext r
  unfold recipients
  rw [hears.handlers, hears.passes_eq]

/-- Up to the next configuration the streams get what the handlers write. -/
theorem console_run (l : Logging) {steps : List LogStep}
    (since : ∀ x ∈ steps, x.isConfigure = false) (attended : l.handlers ≠ []) :
    (l.run steps).console = l.console ++ (LogStep.timed l.time steps).flatMap fun x =>
      (l.recipients x.2).flatMap fun h => h.printed x.1 x.2 := by
  induction steps generalizing l with
  | nil => simp [run, LogStep.timed]
  | cons x rest ih =>
    obtain ⟨first, others⟩ := List.forall_mem_cons.mp since
    cases x with
    | configure => cases first
    | record r =>
      have hears := Hears.emit l r
      have later := ih (l.emit r) others (hears.handlers ▸ attended)
      have emitted := emit_attended attended r
      rw [hears.recipients_eq, emitted] at later
      simpa [run, step, emitted, LogStep.timed] using later
    | elapse time files => exact ih { l with time, files } others attended

/-- What handlers write to the streams depends on their layouts and on where they write. -/
theorem flatMap_printed {sinks : List LogSink}
    (outlets : hs.map outlet = sinks.map fun sink => (s.layout, sink)) (time : String)
    (r : LogRecord) : (hs.flatMap fun h => h.printed time r) =
      sinks.flatMap fun sink => LogHandler.printed ⟨0, s.layout, sink⟩ time r := by
  have shown := congrArg
    (List.flatMap fun x => LogHandler.printed ⟨0, x.1, x.2⟩ time r) outlets
  rw [List.flatMap_map, List.flatMap_map] at shown
  exact shown

/-- Of the handlers that settings ask for the one for the console prints. -/
theorem flatMap_printed_sinks (s : LogSettings) (files : Directory) (time : String)
    (r : LogRecord) :
    ((s.sinks files).flatMap fun sink => LogHandler.printed ⟨0, s.layout, sink⟩ time r) =
      if s.toConsole then (s.line? time r).toList.map fun line => (.output, line) else [] := by
  have silent : ∀ sink ∈ s.fileSinks files,
      LogHandler.printed ⟨0, s.layout, sink⟩ time r = [] := by
    intro sink inside
    unfold LogSettings.fileSinks at inside
    split at inside
    next =>
      obtain ⟨place, -, rfl⟩ := List.mem_map.mp inside
      rfl
    next => cases inside
  have none : (s.fileSinks files).flatMap
      (fun sink => LogHandler.printed ⟨0, s.layout, sink⟩ time r) = [] :=
    List.flatMap_eq_nil_iff.mpr silent
  rw [LogSettings.sinks, List.flatMap_append, none, List.append_nil, LogSettings.consoleSinks]
  cases s.toConsole <;> simp [LogHandler.printed, LogHandler.line?, LogSettings.line?]

/-! ### Files -/

theorem foldl_filed {sinks : List LogSink}
    (outlets : hs.map outlet = sinks.map fun sink => (s.layout, sink)) (time : String)
    (r : LogRecord) (files : Directory) :
    hs.foldl (fun files h => h.filed time r files) files =
      sinks.foldl (fun files sink => LogHandler.filed ⟨0, s.layout, sink⟩ time r files) files := by
  have written := congrArg
    (List.foldl (fun files x => LogHandler.filed ⟨0, x.1, x.2⟩ time r files) files) outlets
  rw [List.foldl_map, List.foldl_map] at written
  exact written

/-- Of the handlers that settings ask for the one for the file writes to it. -/
theorem foldl_filed_sinks {files : Directory} {place : Place}
    (opened : s.fileSinks files = [.file (some place) s.maxSize s.backups]) {line : String}
    (shown : s.line? time r = some line) (now : Directory) :
    (s.sinks files).foldl
        (fun files sink => LogHandler.filed ⟨0, s.layout, sink⟩ time r files) now =
      writeFile now place s.maxSize s.backups line := by
  have shown' (sink : LogSink) : LogHandler.line? ⟨0, s.layout, sink⟩ time r = some line := shown
  rw [LogSettings.sinks, opened, LogSettings.consoleSinks]
  cases s.toConsole <;> simp [LogHandler.filed, shown']

/-- A line goes to the end of a file, which may have been replaced by an empty one before; it is
lost only with a file that is full and cannot be replaced. -/
theorem content_writeFile (d : Directory) {place : Place} (inside : place ≠ [])
    (maxSize backups : Int) (line : String) :
    (isFull d place maxSize line = true ∧ rotate d place backups.toNat = none) ∨
      ∃ d', (d' = d ∨ isFull d place maxSize line = true ∧
          rotate d place backups.toNat = some d') ∧
        (writeFile d place maxSize backups line).content place = d'.content place ++ line := by
  have appended (d : Directory) :
      (d.append place line).content place = d.content place ++ line := by
    unfold Directory.append
    rw [Directory.content, Directory.node?_put d inside]
  unfold writeFile
  cases full : isFull d place maxSize line with
  | false => exact .inr ⟨d, .inl rfl, appended d⟩
  | true =>
    cases rotated : rotate d place backups.toNat with
    | none => exact .inl ⟨rfl, rfl⟩
    | some d' => exact .inr ⟨d', .inr ⟨rfl, rfl⟩, appended d'⟩

/-! ### Runs -/

/-- A logger that was configured with settings that can be used, while the files were these. -/
structure Configured (l : Logging) (s : LogSettings) (files : Directory) : Prop where
  outlets : l.handlers.map outlet = (s.sinks files).map fun sink => (s.layout, sink)
  weight : l.weight = s.level.weight

namespace Configured

variable {files : Directory}

theorem attended (h : l.Configured s files) (wanted : s.sinks files ≠ []) : l.handlers ≠ [] := by
  intro none
  have outlets := h.outlets
  rw [none, List.map_nil, eq_comm, List.map_eq_nil_iff] at outlets
  exact wanted outlets

theorem recipients_eq (h : l.Configured s files) (r : LogRecord) :
    l.recipients r = if s.level.weight ≤ r.level.weight then l.handlers else [] := by
  have positive : s.level.weight ≠ 0 := by cases s.level <;> decide
  unfold recipients passes effectiveWeight
  rw [h.weight, if_neg positive]
  simp only [decide_eq_true_eq]

theorem of_hears {records : List LogRecord} (h : l.Configured s files)
    (hears : Hears records l l') : l'.Configured s files :=
  ⟨hears.handlers ▸ h.outlets, hears.weight.trans h.weight⟩

/-- A record that is logged prints its line, if the console is wanted. -/
theorem printed_eq (h : l.Configured s files) (time : String) (r : LogRecord) :
    ((l.recipients r).flatMap fun h => h.printed time r) =
      if s.level.weight ≤ r.level.weight && s.toConsole then
        (s.line? time r).toList.map fun line => (.output, line)
      else [] := by
  rw [h.recipients_eq]
  by_cases heard : s.level.weight ≤ r.level.weight
  · rw [if_pos heard, flatMap_printed h.outlets, flatMap_printed_sinks]
    simp [heard]
  · simp [heard]

/-- A record that is logged is written to the file, if that is wanted and was opened. -/
theorem files_emit (h : l.Configured s files) {place : Place}
    (opened : s.fileSinks files = [.file (some place) s.maxSize s.backups])
    (heard : s.level.weight ≤ r.level.weight) {line : String}
    (shown : s.line? l.time r = some line) :
    (l.emit r).files = writeFile l.files place s.maxSize s.backups line := by
  have wanted : s.sinks files ≠ [] := by simp [LogSettings.sinks, opened]
  rw [emit_attended (h.attended wanted), h.recipients_eq, if_pos heard]
  exact (foldl_filed h.outlets l.time r l.files).trans (foldl_filed_sinks opened shown l.files)

end Configured

variable {start : Logging}

/-- A configuration with settings that can be used leaves a logger with the handlers they ask
for. -/
theorem configured_run (start : Logging) (valid : Layout.isValid s.layout = true) (path : s.HasPath)
    (encoding : ConsoleEncoding) (earlier : List LogStep) :
    (start.run (earlier ++ [.configure s encoding])).Configured s (start.run earlier).files := by
  obtain ⟨l, same, outlets, -, weight, -⟩ := configure_eq (start.run earlier) valid path encoding
  have call : start.run (earlier ++ [.configure s encoding]) = l := by
    simp only [run, List.foldl_append, List.foldl_cons, List.foldl_nil]
    exact congrArg Prod.fst same
  rw [call]
  exact ⟨outlets, weight⟩

theorem run_append (start : Logging) (earlier later : List LogStep) :
    start.run (earlier ++ later) = (start.run earlier).run later :=
  List.foldl_append

/-- From a configuration with settings that can be used to the next one, the output stream gets the
lines of the records that are not below the level, one for each that the layout can show, and
nothing if the console is not wanted.  The error stream gets nothing, as long as there is a
handler. -/
theorem run_prints (start : Logging) (valid : Layout.isValid s.layout = true) (path : s.HasPath)
    (encoding : ConsoleEncoding) (earlier later : List LogStep)
    (since : ∀ x ∈ later, x.isConfigure = false)
    (wanted : s.sinks (start.run earlier).files ≠ []) :
    let configured := start.run (earlier ++ [.configure s encoding])
    let now := start.run (earlier ++ .configure s encoding :: later)
    now.console = configured.console ++ (LogStep.timed configured.time later).flatMap fun x =>
      if s.level.weight ≤ x.2.level.weight && s.toConsole then
        (s.line? x.1 x.2).toList.map fun line => (.output, line)
      else [] := by
  intro configured now
  have stands : configured.Configured s (start.run earlier).files :=
    configured_run start valid path encoding earlier
  have onward : now = configured.run later := by
    rw [← run_append, List.append_assoc]
    rfl
  rw [onward, console_run configured since (stands.attended wanted)]
  congr 1
  exact List.flatMap_congr fun x _ => stands.printed_eq x.1 x.2

/-- From a configuration with settings that can be used to the next one, the line of each record
that is not below the level is written to the file, if that is wanted and was opened. -/
theorem run_files (start : Logging) (valid : Layout.isValid s.layout = true) (path : s.HasPath)
    (encoding : ConsoleEncoding) (earlier later : List LogStep)
    (since : ∀ x ∈ later, x.isConfigure = false) {place : Place}
    (opened : s.fileSinks (start.run earlier).files = [.file (some place) s.maxSize s.backups])
    {line : String} (heard : s.level.weight ≤ r.level.weight) :
    let now := start.run (earlier ++ .configure s encoding :: later)
    s.line? now.time r = some line →
      (now.step (.record r)).files = writeFile now.files place s.maxSize s.backups line := by
  intro now shown
  have stands := configured_run start valid path encoding earlier
  have onward : now = (start.run (earlier ++ [.configure s encoding])).run later := by
    rw [← run_append, List.append_assoc]
    rfl
  have hears := Hears.run (start.run (earlier ++ [.configure s encoding])) since
  rw [← onward] at hears
  exact (stands.of_hears hears).files_emit opened heard shown

/-- A record that is shown in both places, and one below the level. -/
example :
    let s : LogSettings := { layout := "%(message)s", toFile := true }
    let l := ({} : Logging).run [.configure s .adjustable, .record ⟨.info, "client", "one"⟩,
      .record ⟨.debug, "client", "two"⟩]
    l.written .output = "one\n" ∧ l.files.content ["logs", "cbsim_probe.log"] = "one\n" := by
  decide +kernel

end Logging

end BoxProbe
