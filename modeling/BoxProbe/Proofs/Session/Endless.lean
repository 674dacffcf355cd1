/-
Module: BoxProbe.Proofs.Session.Endless
Purpose: Which runs never return.
Trusted boundary: none
Main exports: Span.untilMargin_endless_iff, ProbeSettings.Boundless, Probe.endless_iff,
  Probe.course_returns, Probe.course_endless
-/
import BoxProbe.Proofs.Session.Deadline

namespace BoxProbe

/-!
A wait is endless if it is for an infinite deadline, or for a margin that lies infinitely far behind
its deadline.  What is no number makes no wait endless, so a run returns unless its lifetime or the
opposite of its close timeout is infinite.
-/

namespace Double

theorem atMost_negInfinite (b : Double) : atMost (.infinite true) b = .infinite true := by
  unfold atMost
  split
  next less => cases b <;> simp [Double.less] at less
  next => rfl

theorem atMost_eq_negInfinite {a b : Double} (h : atMost a b = .infinite true) :
    a = .infinite true ∨ b = .infinite true := by
  unfold atMost at h
  split at h
  next => exact .inr h
  next => exact .inl h

/-- Half of what is neither zero nor less is not infinitely small. -/
theorem half_ne_negInfinite {d : Double} (positive : d.isNonpositive = false) :
    d.half ≠ .infinite true := by
  cases d with
  | nan => simp [half]
  | infinite negative =>
    intro same
    cases same
    cases positive
  | finite negative rank =>
    have value : toRat? (.finite negative rank) = some _ := rfl
    rcases half_of_pos value (pos_of_not_nonpositive value positive) with infinite | ⟨_, finite⟩
    · simp [infinite]
    · simp [finite]

end Double

namespace Span

theorem ofDouble_eq_infinite_iff {d : Double} {negative : Bool} :
    ofDouble d = .infinite negative ↔ d = .infinite negative := by
  cases d <;> simp [ofDouble]

/-- Only an infinite deadline is waited for without end. -/
theorem timeLeft_endless_iff (deadline : Span) (now : Time) :
    (deadline.timeLeft now).ends now = none ↔ deadline = .infinite false := by
  cases deadline with
  | notANumber => simp [timeLeft, add, toWait, Wait.zero, Wait.ends]
  | infinite negative => cases negative <;> simp [timeLeft, add, toWait, Wait.zero, Wait.ends]
  | exact deadline => simp [ends_timeLeft]

/-- Before a deadline that is not infinite, only an infinitely small margin is waited for without
end. -/
theorem untilMargin_endless_iff {deadline : Span} (finite : deadline ≠ .infinite false)
    (margin : Span) (now : Time) :
    (deadline.untilMargin margin now).ends now = none ↔ margin = .infinite true := by
  have exact_left (x : Time) :
      ((Span.exact x).add margin.negate).toWait.ends now = none ↔ margin = .infinite true := by
    cases margin with
    | notANumber => simp [negate, add, toWait, Wait.zero, Wait.ends]
    | infinite negative => cases negative <;> simp [negate, add, toWait, Wait.zero, Wait.ends]
    | exact y => simp [negate, add, toWait, Wait.ends_ofLength]
  unfold untilMargin
  cases left : deadline.timeLeft now with
  | none => exact exact_left 0
  | seconds length nonneg => exact exact_left length
  | forever =>
    have endless := timeLeft_endless_iff deadline now
    rw [left] at endless
    exact absurd (endless.mp rfl) finite

end Span

/-- The lifetime is infinite, or the opposite of the close timeout is. -/
def ProbeSettings.Boundless (s : ProbeSettings) : Prop :=
  s.lifetime = .infinite false ∨ s.closeTimeout = .infinite true

instance (s : ProbeSettings) : Decidable s.Boundless :=
  inferInstanceAs (Decidable (_ ∨ _))

namespace Probe

variable {c : Client} {now : Time}

theorem deadlineOf_eq_infinite_iff :
    deadlineOf c now = .infinite false ↔ c.settings.lifetime = .infinite false := by
  rw [← Span.ofDouble_eq_infinite_iff]
  unfold deadlineOf
  cases Span.ofDouble c.settings.lifetime <;> simp [Span.add]

/-- The margin of a run is infinitely small exactly if its close timeout is. -/
theorem grace_eq_negInfinite_iff (now : Time)
    (positive : c.settings.lifetime.isNonpositive = false) :
    (fresh c now).grace = .infinite true ↔ c.settings.closeTimeout = .infinite true := by
  have grace : (fresh c now).grace = c.settings.closeTimeout.atMost c.settings.lifetime.half := rfl
  rw [grace]
  constructor
  · intro same
    exact (Double.atMost_eq_negInfinite same).resolve_right (Double.half_ne_negInfinite positive)
  · intro same
    rw [same]
    exact Double.atMost_negInfinite _

/-- Some wait of a run is endless exactly if its settings are boundless. -/
theorem endless_iff (now : Time) (positive : c.settings.lifetime.isNonpositive = false) :
    Endless c now ↔ c.settings.Boundless := by
  have left : (∃ t, ((deadlineOf c now).timeLeft t).ends t = none) ↔
      c.settings.lifetime = .infinite false := by
    simp only [Span.timeLeft_endless_iff, exists_const, deadlineOf_eq_infinite_iff]
  unfold Endless ProbeSettings.Boundless
  rw [left]
  by_cases infinite : c.settings.lifetime = .infinite false
  · simp [infinite]
  · have finite : deadlineOf c now ≠ .infinite false := mt deadlineOf_eq_infinite_iff.mp infinite
    rw [Span.untilMargin_endless_iff finite, Span.ofDouble_eq_infinite_iff,
      grace_eq_negInfinite_iff now positive, or_comm]

/-- A run without an endless wait returns. -/
theorem course_returns (script : Script) (ending : ¬ Endless c now) :
    ∃ q, (fresh c now).course script = .ok (exitSuccess, q) := by
  obtain ⟨r, timer, -, -, -, ⟨-, endless⟩ | ⟨woken, due, returned, -, ended⟩⟩ :=
    course_cases c now script
  · exact absurd endless ending
  · exact ⟨_, ended⟩

/-- A run with an endless wait comes to it, whatever its connection does. -/
theorem course_endless (script : Script) (endless : Endless c now) :
    ∃ p, (fresh c now).course script = .error p := by
  obtain ⟨r, timer, -, -, -, ⟨stuck | stuck, -⟩ | ⟨woken, due, returned, moments, -⟩⟩ :=
    course_cases c now script
  · exact ⟨_, stuck⟩
  · exact ⟨_, stuck⟩
  · have woken_ends := moments.woken_ends
    have returned_ends := moments.returned_ends
    rcases endless with never | ⟨t, never⟩
    · rw [never] at woken_ends
      cases woken_ends
    · rw [Span.timeLeft_endless_iff] at never
      rw [(Span.timeLeft_endless_iff _ _).mpr never] at returned_ends
      cases returned_ends

end Probe

end BoxProbe
