/-
Module: BoxProbe.Proofs.Log.Handlers
Purpose: What the operations of the logger do to its handlers.
Trusted boundary: none
Main exports: LogHandler.each, Logging.life, Logging.life_each, LogHandler.line?,
  Logging.recipients, Logging.emit_attended, Logging.emit_eq, Logging.retire_eq
-/
import BoxProbe.Log.Logging
import Mathlib.Data.List.Basic

namespace BoxProbe

/-!
What happens to a handler is its life.  Every operation of the logger lets the same events happen to
each of some handlers, and so adds these events to the lives of those handlers and to no other.  A
handler that is handed a record writes one line, if it can show the record.
-/

/-! ### Lives -/

/-- The same events, for each of some handlers. -/
def LogHandler.each (hs : List LogHandler) (es : List HandlerEvent) :
    List (LogHandler × HandlerEvent) :=
  hs.flatMap fun h => es.map fun e => (h, e)

namespace Logging

open LogHandler

/-- What has happened to a handler. -/
def life (l : Logging) (h : LogHandler) : List HandlerEvent :=
  l.history.filterMap fun x => if x.1 = h then some x.2 else none

variable {l l' : Logging} {hs : List LogHandler} {es : List HandlerEvent}

/-- Events of each of some handlers are added to the lives of these. -/
theorem life_each (distinct : hs.Nodup) (history : l'.history = l.history ++ each hs es)
    (h : LogHandler) : l'.life h = l.life h ++ if h ∈ hs then es else [] := by
  unfold life
  rw [history, List.filterMap_append]
  congr 1
  clear history
  induction hs with
  | nil => rfl
  | cons x rest ih =>
    obtain ⟨new, distinct⟩ := List.nodup_cons.mp distinct
    have later := ih distinct
    unfold each at later ⊢
    rw [List.flatMap_cons, List.filterMap_append, later, List.filterMap_map]
    by_cases same : x = h
    · subst same
      simp [new]
    · simp [same, Ne.symm same]

end Logging

/-! ### What is written -/

namespace LogHandler

/-- The line with which a handler shows a record at a time, if it can show it. -/
def line? (h : LogHandler) (time : String) (r : LogRecord) : Option String :=
  ((Layout.render h.layout time r).bind Text.toString?).map (· ++ "\n")

/-- What a handler that is handed a record writes to the standard streams. -/
def printed (h : LogHandler) (time : String) (r : LogRecord) : List (ConsoleStream × String) :=
  if h.sink = .console then (h.line? time r).toList.map fun line => (.output, line) else []

/-- The files after a handler was handed a record. -/
def filed (h : LogHandler) (time : String) (r : LogRecord) (files : Directory) : Directory :=
  match h.sink, h.line? time r with
  | .file (some place) maxSize backups, some line =>
    Logging.writeFile files place maxSize backups line
  | _, _ => files

end LogHandler

namespace Logging

open LogHandler

variable {l l' : Logging} {hs : List LogHandler} {es : List HandlerEvent}

/-! ### What the operations do -/

/-- What a handler that is handed a record does: it writes its line to the console or to its
file. -/
theorem deliver_eq (r : LogRecord) (l : Logging) (h : LogHandler) :
    deliver r l h =
      { l.note h (.handed r) with
        files := h.filed l.time r l.files
        console := l.console ++ h.printed l.time r } := by
  unfold deliver filed printed line?
  dsimp only [note]
  cases (Layout.render h.layout l.time r).bind Text.toString? with
  | none => cases h.sink <;> simp
  | some shown =>
    cases h.sink with
    | console => rfl
    | file place => cases place <;> simp

theorem foldl_deliver (r : LogRecord) (hs : List LogHandler) (l : Logging) :
    hs.foldl (deliver r) l =
      { l with
        files := hs.foldl (fun files h => h.filed l.time r files) l.files
        console := l.console ++ hs.flatMap fun h => h.printed l.time r
        history := l.history ++ each hs [.handed r] } := by
  induction hs generalizing l with
  | nil => simp [each]
  | cons h rest ih =>
    rw [List.foldl_cons, ih, deliver_eq]
    simp [note, each]

/-- The handlers that a record is handed to. -/
def recipients (l : Logging) (r : LogRecord) : List LogHandler :=
  if l.passes r then l.handlers else []

/-- To log a record, where there are handlers, is to hand it to each of its recipients. -/
theorem emit_attended {l : Logging} (attended : l.handlers ≠ []) (r : LogRecord) :
    l.emit r =
      { l with
        files := (l.recipients r).foldl (fun files h => h.filed l.time r files) l.files
        console := l.console ++ (l.recipients r).flatMap fun h => h.printed l.time r
        history := l.history ++ each (l.recipients r) [.handed r] } := by
  unfold emit recipients
  rw [if_neg attended]
  split
  next => exact foldl_deliver r l.handlers l
  next => simp [each]

/-- To log a record is to hand it to each of its recipients, and only they write to files. -/
theorem emit_eq (l : Logging) (r : LogRecord) :
    ∃ files console, l.emit r =
        { l with files, console, history := l.history ++ each (l.recipients r) [.handed r] } ∧
      (l.handlers = [] → files = l.files) := by
  by_cases bare : l.handlers = []
  · have unheard : l.history ++ each (l.recipients r) [.handed r] = l.history := by
      simp [recipients, bare, each]
    rw [unheard]
    unfold emit
    rw [if_pos bare]
    split
    next =>
      split
      next =>
        split
        next => exact ⟨l.files, _, rfl, fun _ => rfl⟩
        next => exact ⟨l.files, l.console, rfl, fun _ => rfl⟩
      next => exact ⟨l.files, l.console, rfl, fun _ => rfl⟩
    next => exact ⟨l.files, l.console, rfl, fun _ => rfl⟩
  · exact ⟨_, _, emit_attended bare r, fun none => absurd none bare⟩

/-- To retire handlers one after another leaves none of them, and each is detached and closed. -/
theorem retire_eq (l : Logging) :
    l.retire =
      { l with
        handlers := []
        retired := l.retired ++ l.handlers
        history := l.history ++ each l.handlers [.detached, .closed] } := by
  unfold retire
  -- The loop runs over the handlers that there were, while each turn takes away the first one left.
  generalize same : l.handlers = hs
  induction hs generalizing l with
  | nil =>
    have bare : l = { l with handlers := [] } := by rw [← same]
    simpa [each] using bare
  | cons h rest ih =>
    rw [List.foldl_cons, ih]
    · simp [detach, close, note, each]
    · simp [detach, close, note, same]

@[simp]
theorem handlers_retire (l : Logging) : l.retire.handlers = [] := by
  rw [retire_eq]

@[simp]
theorem retired_retire (l : Logging) : l.retire.retired = l.retired ++ l.handlers := by
  rw [retire_eq]

@[simp]
theorem weight_retire (l : Logging) : l.retire.weight = l.weight := by
  rw [retire_eq]

@[simp]
theorem files_retire (l : Logging) : l.retire.files = l.files := by
  rw [retire_eq]

@[simp]
theorem console_retire (l : Logging) : l.retire.console = l.console := by
  rw [retire_eq]

end Logging

end BoxProbe
