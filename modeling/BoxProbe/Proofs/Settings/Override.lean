/-
Module: BoxProbe.Proofs.Settings.Override
Purpose: What overrides leave in the kept settings, whether they are refused or not.
Trusted boundary: none
Main exports: Settings.Overridden, Settings.lastGiven, Settings.foldl_override,
  SettingsStore.overrideAll, SettingsStore.override_in_place
-/
import BoxProbe.Settings.Store
import Mathlib.Data.List.Induction

namespace BoxProbe

/-!
Overrides are written into the kept settings before these are checked, so a refusal takes nothing
back: after any calls, refused or not, each setting holds the value that was given last for it, and
a call is refused exactly if what it leaves cannot be used.
-/

namespace Settings

/-! ### One call -/

/-- A value that is given replaces the one before, which stays if none is given. -/
def Replaced {α : Type} (given : Option α) (before after : α) : Prop :=
  match given with
  | some value => after = value
  | none => after = before

theorem replaced_getD {α : Type} (given : Option α) (before : α) :
    Replaced given before (given.getD before) := by
  cases given <;> rfl

/-- The settings before and after overrides: exactly those with a value given are changed. -/
structure Overridden (o : Overrides) (before after : Settings) : Prop where
  url : Replaced o.url before.probe.url after.probe.url
  lifetime : Replaced o.lifetime before.probe.lifetime after.probe.lifetime
  openTimeout : after.probe.openTimeout = before.probe.openTimeout
  closeTimeout : after.probe.closeTimeout = before.probe.closeTimeout
  host : Replaced o.host before.box.host after.box.host
  port : Replaced o.port before.box.port after.box.port
  qrText : Replaced o.qrText before.box.qrText after.box.qrText
  level : Replaced o.logLevel before.log.level after.log.level
  layout : after.log.layout = before.log.layout
  directory : after.log.directory = before.log.directory
  fileName : after.log.fileName = before.log.fileName
  maxSize : after.log.maxSize = before.log.maxSize
  backups : after.log.backups = before.log.backups
  toConsole : after.log.toConsole = before.log.toConsole
  toFile : after.log.toFile = before.log.toFile

theorem overridden_override (s : Settings) (o : Overrides) : Overridden o s (s.override o) where
  url := replaced_getD _ _
  lifetime := replaced_getD _ _
  openTimeout := rfl
  closeTimeout := rfl
  host := replaced_getD _ _
  port := replaced_getD _ _
  qrText := replaced_getD _ _
  level := replaced_getD _ _
  layout := rfl
  directory := rfl
  fileName := rfl
  maxSize := rfl
  backups := rfl
  toConsole := rfl
  toFile := rfl

theorem override_nothing (s : Settings) : s.override {} = s := rfl

/-! ### Several calls -/

/-- What several calls gave last for a setting. -/
def lastOf {α : Type} (calls : List Overrides) (given : Overrides → Option α) : Option α :=
  calls.reverse.findSome? given

theorem lastOf_concat {α : Type} (calls : List Overrides) (o : Overrides)
    (given : Overrides → Option α) :
    lastOf (calls ++ [o]) given = (given o).or (lastOf calls given) := by
  unfold lastOf
  rw [List.reverse_concat, List.findSome?_cons]
  cases given o <;> rfl

/-- The last value that several calls gave for each setting. -/
def lastGiven (calls : List Overrides) : Overrides where
  url := lastOf calls Overrides.url
  lifetime := lastOf calls Overrides.lifetime
  logLevel := lastOf calls Overrides.logLevel
  host := lastOf calls Overrides.host
  port := lastOf calls Overrides.port
  qrText := lastOf calls Overrides.qrText

theorem override_lastGiven_concat (s : Settings) (calls : List Overrides) (o : Overrides) :
    s.override (lastGiven (calls ++ [o])) = (s.override (lastGiven calls)).override o := by
  simp only [override, lastGiven, lastOf_concat, Option.getD_or]

/-- Calls one after another leave what one call with the last values would leave. -/
theorem foldl_override (s : Settings) (calls : List Overrides) :
    calls.foldl override s = s.override (lastGiven calls) := by
  induction calls using List.reverseRecOn with
  | nil => rfl
  | append_singleton calls o ih =>
    rw [List.foldl_append, List.foldl_cons, List.foldl_nil, ih, override_lastGiven_concat]

end Settings

/-! ### The kept settings -/

namespace SettingsStore

variable {s : SettingsStore} {c : Settings}

theorem check_eq (c : Settings) :
    check c = if c.shortcomings = [] then .ok c else .error (.unusable c.shortcomings) := by
  unfold check
  split
  next usable => rw [if_pos usable]
  next unusable => rw [if_neg unusable]

theorem override_of_kept (kept : s.kept = some c) (o : Settings.Overrides) :
    s.override o = ({ s with kept := some (c.override o) }, check (c.override o)) := by
  simp [override, get, kept]

/-- Where no settings are kept, those of the environment are, unless they are refused before they
can be overridden. -/
theorem override_of_fresh (fresh : s.kept = none) (loaded : s.isLoaded = true)
    (own : Settings.ofEnvironment s.environment = c) (o : Settings.Overrides) :
    s.override o =
      if c.shortcomings = [] then
        ({ s.replace (some c) with kept := some (c.override o) }, check (c.override o))
      else (s, .error (.unusable c.shortcomings)) := by
  have all : s.all = check c := by
    rw [← own]
    simp [all, read, loaded, Except.bind]
  by_cases usable : c.shortcomings = []
  · simp [override, get, fresh, all, check_eq c, usable]
  · simp [override, get, fresh, all, check_eq c, usable]

/-- What is refused once is refused again, also by a call that gives nothing. -/
theorem refused_lasts (kept : s.kept = some c) {o : Settings.Overrides}
    (unusable : (c.override o).shortcomings ≠ []) :
    (s.override o).2 = .error (.unusable (c.override o).shortcomings) ∧
      (s.override o).1.kept = some (c.override o) ∧
      ((s.override o).1.override {}).2 = .error (.unusable (c.override o).shortcomings) := by
  have refused : check (c.override o) = .error (.unusable (c.override o).shortcomings) := by
    rw [check_eq, if_neg unusable]
  rw [override_of_kept kept]
  refine ⟨refused, rfl, ?_⟩
  rw [override_of_kept rfl, Settings.override_nothing]
  exact refused

/-- The store after calls one after another, whatever comes of each. -/
def overrideAll (s : SettingsStore) (calls : List Settings.Overrides) : SettingsStore :=
  calls.foldl (fun s o => (s.override o).1) s

theorem overrideAll_of_kept (kept : s.kept = some c) (calls : List Settings.Overrides) :
    s.overrideAll calls = { s with kept := some (calls.foldl Settings.override c) } := by
  induction calls generalizing s c with
  | nil => simp [overrideAll, ← kept]
  | cons o rest ih =>
    have first : s.overrideAll (o :: rest) = (s.override o).1.overrideAll rest := rfl
    rw [first, override_of_kept kept, ih rfl]
    rfl

/-- After calls one after another, refused or not, the kept settings are the first ones with the
last values that were given.  One more call changes exactly the settings that it gives values for,
whether it is refused or not, and it is refused exactly if what it leaves cannot be used. -/
theorem override_in_place (s : SettingsStore) (c : Settings) (kept : s.kept = some c)
    (calls : List Settings.Overrides) (o : Settings.Overrides) :
    ∃ before after, Settings.Overridden (Settings.lastGiven calls) c before ∧
      Settings.Overridden o before after ∧
      s.overrideAll calls = { s with kept := some before } ∧
      ((s.overrideAll calls).override o).1 = { s with kept := some after } ∧
      (((s.overrideAll calls).override o).2 = .ok after ∧ after.shortcomings = [] ∨
        ∃ fault, ((s.overrideAll calls).override o).2 = .error fault ∧
          fault.toFailure.kindName = "ValueError" ∧ after.shortcomings ≠ []) := by
  let before := c.override (Settings.lastGiven calls)
  have held : s.overrideAll calls = { s with kept := some before } := by
    rw [overrideAll_of_kept kept, Settings.foldl_override]
  refine ⟨before, before.override o, Settings.overridden_override _ _,
    Settings.overridden_override _ _, held, ?_, ?_⟩
  · rw [held, override_of_kept rfl]
  · rw [held, override_of_kept rfl, check_eq]
    by_cases usable : (before.override o).shortcomings = []
    · exact .inl ⟨if_pos usable, usable⟩
    · exact .inr ⟨_, if_neg usable, rfl, usable⟩

/-- A port that cannot be used, after a lifetime that was refused. -/
theorem override_in_place_twice :
    let s : SettingsStore := { kept := some {} }
    let o : Settings.Overrides := { port := some 70000 }
    s.kept = some {} ∧ ∃ before after,
      Settings.Overridden (Settings.lastGiven [{ lifetime := some (Double.ofInt 0) }]) {} before ∧
      Settings.Overridden o before after ∧
      s.overrideAll [{ lifetime := some (Double.ofInt 0) }] = { s with kept := some before } ∧
      ((s.overrideAll [{ lifetime := some (Double.ofInt 0) }]).override o).1 =
        { s with kept := some after } ∧
      (((s.overrideAll [{ lifetime := some (Double.ofInt 0) }]).override o).2 = .ok after ∧
          after.shortcomings = [] ∨
        ∃ fault, ((s.overrideAll [{ lifetime := some (Double.ofInt 0) }]).override o).2 =
            .error fault ∧
          fault.toFailure.kindName = "ValueError" ∧ after.shortcomings ≠ []) :=
  ⟨rfl, override_in_place { kept := some {} } {} rfl [{ lifetime := some (Double.ofInt 0) }]
    { port := some 70000 }⟩

/-- A lifetime of zero is refused, and kept: the next call is refused although it gives nothing. -/
theorem refused_lifetime_stays :
    let s : SettingsStore := { kept := some {} }
    let refused := s.override { lifetime := some (Double.ofInt 0) }
    refused.2 = .error (.unusable [.lifetime]) ∧ refused.1.kept ≠ s.kept ∧
      (refused.1.override {}).2 = .error (.unusable [.lifetime]) := by
  have lasting := refused_lasts (s := { kept := some {} }) (c := {}) rfl
    (o := { lifetime := some (Double.ofInt 0) })
  have unusable : (Settings.override {} { lifetime := some (Double.ofInt 0) }).shortcomings =
      [.lifetime] := by decide +kernel
  have changed : Settings.override {} { lifetime := some (Double.ofInt 0) } ≠ {} := by
    decide +kernel
  rw [unusable] at lasting
  obtain ⟨refused, kept, again⟩ := lasting (by simp)
  exact ⟨refused, fun same => changed (Option.some.inj (kept.symm.trans same)), again⟩

end SettingsStore

end BoxProbe
