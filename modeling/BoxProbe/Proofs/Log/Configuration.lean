/-
Module: BoxProbe.Proofs.Log.Configuration
Purpose: What keeps logging from being configured.
Trusted boundary: none
Main exports: FilePath.hasNul_ofString, LogSettings.HasPath, LogSettings.meetsNul,
  Logging.configure_invalid, Logging.configure_valid
-/
import BoxProbe.Proofs.Log.Handlers
import Mathlib.Data.List.Basic

namespace BoxProbe

/-!
Settings name levels that there are, and a file that cannot be opened is passed over.  So only two
settings keep logging from being configured: a layout without a field, and the path of a file with a
NUL in it, if the file is wanted and the NUL is come upon.
-/

/-! ### Paths without a NUL -/

/-- The pieces of a text have its characters. -/
theorem subset_of_mem_pieces {isSeparator : Char → Bool} {cs piece : List Char}
    (h : piece ∈ pieces isSeparator cs) : piece ⊆ cs := by
  induction cs generalizing piece with
  | nil =>
    rw [List.mem_singleton.mp h]
    exact List.nil_subset _
  | cons c rest ih =>
    unfold pieces at h
    split at h
    next =>
      rcases List.mem_cons.mp h with rfl | later
      · exact List.nil_subset _
      · exact List.subset_cons_of_subset c (ih later)
    next =>
      split at h
      next =>
        rw [List.mem_singleton.mp h]
        exact List.cons_subset_cons c (List.nil_subset _)
      next first more cut =>
        rw [cut] at ih
        rcases List.mem_cons.mp h with rfl | later
        · exact List.cons_subset_cons c (ih List.mem_cons_self)
        · exact List.subset_cons_of_subset c (ih (List.mem_cons_of_mem _ later))

/-- A path that is written without a NUL has none in its names. -/
theorem FilePath.hasNul_ofString {text : String} (clean : Logging.hasNul text = false) :
    (FilePath.ofString text).names.any Logging.hasNul = false := by
  simp only [Logging.hasNul, List.contains_eq_mem, decide_eq_false_iff_not] at clean
  rw [List.any_eq_false]
  intro name inside
  have part := (List.mem_filter.mp inside).1
  obtain ⟨piece, cut, rfl⟩ := List.mem_map.mp part
  simp only [Logging.hasNul, String.toList_ofList, List.contains_eq_mem, decide_eq_true_eq]
  exact fun nul => clean (subset_of_mem_pieces cut nul)

/-! ### Faults -/

theorem LogLevel.ofName?_name (level : LogLevel) :
    LogLevel.ofName? (Text.ofString level.name) = some level := by
  cases level <;> decide +kernel

namespace LogSettings

/-- The path of the log file has no NUL in it. -/
structure HasPath (s : LogSettings) : Prop where
  directory : s.directory.names.any Logging.hasNul = false
  fileName : Logging.hasNul s.fileName = false

/-- The log file is wanted, and there is a NUL on the way to it: in the names of its directory, or
in its own name where that directory is there or can be made. -/
def meetsNul (s : LogSettings) (files : Directory) : Bool :=
  s.toFile && (s.directory.names.any Logging.hasNul ||
    (files.makeAll s.directory).2.isNone && Logging.hasNul s.fileName)

theorem HasPath.meetsNul_eq_false {s : LogSettings} (path : s.HasPath) (files : Directory) :
    s.meetsNul files = false := by
  simp [meetsNul, path.directory, path.fileName]

end LogSettings

namespace Logging

variable {s : LogSettings}

/-- A file is attached or passed over, unless there is a NUL on the way to it. -/
theorem attachFile_fault (l : Logging) (s : LogSettings) :
    (l.attachFile s).2 = if s.meetsNul l.files then some .nul else none := by
  unfold attachFile LogSettings.meetsNul
  cases s.toFile with
  | false => rfl
  | true =>
    cases s.directory.names.any hasNul with
    | true => rfl
    | false =>
      rcases l.files.makeAll s.directory with ⟨files, _ | fault⟩
      · cases hasNul s.fileName with
        | true => rfl
        | false =>
          dsimp only [if_true]
          cases files.openLog (s.directory.join (FilePath.ofString s.fileName)) <;> rfl
      · rfl

/-- Without handlers nothing is written to files while the console is attached. -/
theorem files_attachConsole {l : Logging} (bare : l.handlers = []) (s : LogSettings)
    (encoding : ConsoleEncoding) : (l.attachConsole s encoding).files = l.files := by
  unfold attachConsole
  split
  next =>
    cases encoding with
    | adjustable => rfl
    | fixed => rfl
    | refusing reason =>
      obtain ⟨files, console, same, kept⟩ := l.emit_eq (ownRecord .warning
        (Text.ofString ("Could not reconfigure console stream encoding: " ++ reason)))
      dsimp only
      rw [same]
      exact kept bare
  next => rfl

/-- The level of settings is one that there is. -/
theorem weightOfName_levelName (s : LogSettings) :
    weightOfName (levelName s none) = .ok s.level.weight := by
  unfold weightOfName levelName
  rw [LogLevel.ofName?_name]

/-- A layout without a field keeps logging from being configured, before anything is logged. -/
theorem configure_invalid (l : Logging) (encoding : ConsoleEncoding)
    (invalid : Layout.isValid s.layout = false) :
    l.configure s none encoding =
      (({ l with weight := s.level.weight }).retire, some (.layout s.layout)) := by
  unfold configure
  rw [weightOfName_levelName]
  simp only [invalid, Bool.false_eq_true, if_false]

/-- With a layout that has a field, logging is configured unless there is a NUL on the way to the
log file. -/
theorem configure_valid (l : Logging) (encoding : ConsoleEncoding)
    (valid : Layout.isValid s.layout = true) :
    (l.configure s none encoding).2 = if s.meetsNul l.files then some .nul else none := by
  let bare := ({ l with weight := s.level.weight } : Logging).retire
  have files : (bare.attachConsole s encoding).files = l.files :=
    (files_attachConsole (handlers_retire _) s encoding).trans (files_retire _)
  rw [← files, ← attachFile_fault (bare.attachConsole s encoding) s]
  unfold configure
  rw [weightOfName_levelName]
  simp only [valid, if_true]
  split
  next same => exact (congrArg Prod.snd same).symm
  next same => exact (congrArg Prod.snd same).symm

end Logging

end BoxProbe
