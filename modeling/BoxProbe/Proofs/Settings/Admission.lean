/-
Module: BoxProbe.Proofs.Settings.Admission
Purpose: Which lifetimes, open timeouts and ports a program starts with.
Trusted boundary: none
Main exports: Double.IsPositive, Double.isNonpositive_eq_false_iff, Settings.Admissible,
  Settings.shortcomings_eq_nil_iff, SettingsStore.prepared_admissible
-/
import BoxProbe.Proofs.Number.Double
import BoxProbe.Proofs.Number.Spelling
import BoxProbe.Proofs.Settings.Merged

namespace BoxProbe

/-!
Settings are refused for a lifetime or an open timeout that is zero or less.  What is no number is
neither that nor positive, and is not refused: it comes from one word only, whose spellings
`Numeral.SpellsNan` lists.
-/

namespace Double

/-- Strictly greater than zero, perhaps infinite. -/
def IsPositive (d : Double) : Prop :=
  d = .infinite false ∨ ∃ x, d.toRat? = some x ∧ 0 < x

theorem not_isPositive_nan : ¬ IsPositive .nan := by
  rintro (same | ⟨x, value, -⟩)
  · cases same
  · cases value

/-- What is not zero or less is positive, or no number. -/
theorem isNonpositive_eq_false_iff (d : Double) :
    d.isNonpositive = false ↔ d = .nan ∨ d.IsPositive := by
  cases d with
  | nan => simp [isNonpositive]
  | infinite negative => simp [isNonpositive, IsPositive, toRat?]
  | finite negative rank =>
    constructor
    · intro positive
      exact .inr (.inr ⟨_, rfl, pos_of_not_nonpositive rfl positive⟩)
    · rintro (same | same | ⟨x, value, pos⟩)
      · cases same
      · cases same
      · obtain rfl := sign_of_pos value pos
        simp only [isNonpositive, Bool.false_or, beq_eq_false_iff_ne]
        intro zero
        have nothing : units rank.val = 0 := by
          rw [zero]
          decide +kernel
        simp only [toRat?, nothing, Bool.false_eq_true, if_false, Nat.cast_zero, Rat.zero_mkRat,
          Option.some.injEq] at value
        exact absurd pos (value ▸ lt_irrefl _)

end Double

namespace Settings

/-- The values that nothing is found wrong with: each length of time is positive or no number, and
the port is one that there is. -/
structure Admissible (c : Settings) : Prop where
  lifetime : c.probe.lifetime = .nan ∨ c.probe.lifetime.IsPositive
  openTimeout : c.probe.openTimeout = .nan ∨ c.probe.openTimeout.IsPositive
  port : 0 ≤ c.box.port ∧ c.box.port ≤ 65535

theorem shortcomings_eq_nil_iff (c : Settings) : c.shortcomings = [] ↔ c.Admissible := by
  have timed (d : Double) (s : Shortcoming) :
      (if d.isNonpositive = true then [s] else []) = [] ↔ d = .nan ∨ d.IsPositive := by
    rw [← Double.isNonpositive_eq_false_iff]
    cases d.isNonpositive <;> simp
  have placed : (if c.box.port < 0 ∨ 65535 < c.box.port then [Shortcoming.port] else []) = [] ↔
      0 ≤ c.box.port ∧ c.box.port ≤ 65535 := by
    split
    next out => simp only [List.cons_ne_self, false_iff]; omega
    next inside => simp only [true_iff]; omega
  unfold shortcomings
  rw [List.append_eq_nil_iff, List.append_eq_nil_iff, timed, timed, placed]
  exact ⟨fun h => ⟨h.1.1, h.1.2, h.2⟩, fun h => ⟨⟨h.lifetime, h.openTimeout⟩, h.port⟩⟩

end Settings

namespace SettingsStore

/-- Settings are refused for nothing if they are admissible, and if those of the environment are
where none are kept. -/
theorem refusals_eq_nil_iff (s : SettingsStore) (d : Directory) (path? : Option String)
    (o : Settings.Overrides) :
    s.refusals d path? o = [] ↔
      (s.kept = none → (Settings.merged (s.sought d path?) {}).Admissible) ∧
        (s.settled d path? o).Admissible := by
  unfold refusals settled
  cases s.kept with
  | some kept => simp [Settings.shortcomings_eq_nil_iff]
  | none =>
    rw [← Settings.shortcomings_eq_nil_iff, ← Settings.shortcomings_eq_nil_iff]
    cases (Settings.merged (s.sought d path?) {}).shortcomings with
    | nil => simp
    | cons first more => simp

/-- A program starts with its settings exactly if the file of variables can be loaded and they are
admissible, and so are those of the environment where none are kept; otherwise it fails, and the
failure says that a value is no good.  The lengths of time among them are positive or no number, and
what is no number was spelled so. -/
theorem prepared_admissible (s : SettingsStore) (d : Directory) (a : Arguments) :
    (∀ c, s.prepare d a = .ok c ↔ c = s.settled d a.envFile a.overrides ∧ c.Admissible ∧
      s.Loadable d a.envFile ∧
      (s.kept = none → (Settings.merged (s.sought d a.envFile) {}).Admissible)) ∧
    (∀ f, s.prepare d a = .error f → f.kindName = "ValueError") ∧
    ∀ text, Setting.double? text = some .nan ↔
      Numeral.SpellsNan (Numeral.trim ((Text.ofString text).map CodePoint.plain)) := by
  refine ⟨fun c => ?_, fun f => kindName_of_prepare_eq_error,
    fun text => Numeral.double?_eq_nan_iff _⟩
  rw [prepare_eq_ok_iff, refusals_eq_nil_iff]
  constructor
  · rintro ⟨rfl, loadable, own, admissible⟩
    exact ⟨rfl, admissible, loadable, own⟩
  · rintro ⟨rfl, admissible, loadable, own⟩
    exact ⟨rfl, loadable, own, admissible⟩

/-- A lifetime that is no number is not refused. -/
theorem nan_lifetime_admitted :
    let a : Arguments := { lifetime := some .nan }
    Arguments.parse ["--lifetime", "nan"] = .arguments a ∧
      ∃ c, SettingsStore.prepare {} {} a = .ok c ∧ ¬ c.probe.lifetime.IsPositive := by
  intro a
  refine ⟨by decide +kernel, ?_⟩
  have admitted : SettingsStore.refusals {} {} a.envFile a.overrides = [] := by decide +kernel
  have prepared := (prepare_eq_ok_iff {} {} a _).mpr ⟨rfl, loadable_none {} rfl, admitted⟩
  exact ⟨_, prepared, Double.not_isPositive_nan⟩

end SettingsStore

end BoxProbe
