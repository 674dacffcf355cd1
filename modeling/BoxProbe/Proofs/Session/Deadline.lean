/-
Module: BoxProbe.Proofs.Session.Deadline
Purpose: When a run with finite settings returns.
Trusted boundary: none
Main exports: Probe.grace_exact, Probe.Moments.returned_eq, Probe.course_exact,
  Probe.returns_by_deadline_iff
-/
import BoxProbe.Proofs.Number.Double
import BoxProbe.Proofs.Session.Course
import BoxProbe.Settings.Basic

namespace BoxProbe

/-!
A run waits at most three times after its start: for the margin before its deadline, for the
deadline if its connection is not open then, and for the deadline once its shutdown has concluded.
Each wait ends at an instant that is computed from where it starts, and together they end at the
deadline, unless the close timeout is negative: then the margin lies behind the deadline, and the
run ends there.
-/

/-! ### Waits of exact lengths -/

theorem Span.ofDouble_exact {d : Double} {x : Rat} (h : d.toRat? = some x) :
    Span.ofDouble d = .exact x := by
  cases d with
  | nan => simp [Double.toRat?] at h
  | infinite negative => simp [Double.toRat?] at h
  | finite negative rank =>
    have named : Span.ofDouble (.finite negative rank) =
        .exact ((Double.finite negative rank).toRat?.getD 0) := rfl
    rw [named, h]
    rfl

theorem Wait.ends_ofLength (length now : Time) :
    (Wait.ofLength length).ends now = some (now + max 0 length) := by
  unfold Wait.ofLength
  split
  next nonneg => rw [max_eq_right nonneg]; rfl
  next negative => rw [max_eq_left (le_of_lt (not_le.mp negative))]; rfl

/-- The wait for an exact deadline ends at the deadline, and is no wait after it. -/
theorem Span.ends_timeLeft (deadline now : Time) :
    ((Span.exact deadline).timeLeft now).ends now = some (max now deadline) := by
  have ends : ((Span.exact deadline).timeLeft now).ends now =
      some (now + max 0 (deadline + -now)) :=
    Wait.ends_ofLength _ _
  rw [ends]
  congr 1
  rcases le_total now deadline with early | late
  · rw [max_eq_right (by linarith), max_eq_right early]
    linarith
  · rw [max_eq_left (by linarith), max_eq_left late]
    linarith

/-- The wait for an exact margin before an exact deadline. -/
theorem Span.ends_untilMargin (deadline margin now : Time) :
    ((Span.exact deadline).untilMargin (.exact margin) now).ends now =
      some (now + max 0 (max 0 (deadline - now) - margin)) := by
  have left : (Span.exact deadline).timeLeft now = .ofLength (deadline - now) := by
    rw [sub_eq_add_neg]
    rfl
  unfold Span.untilMargin
  rw [left]
  by_cases nonneg : 0 ≤ deadline - now
  · simp only [Wait.ofLength, nonneg, dite_true, max_eq_right nonneg]
    rw [sub_eq_add_neg _ margin]
    exact Wait.ends_ofLength _ _
  · have gone : max 0 (deadline - now) = 0 := max_eq_left (le_of_lt (not_le.mp nonneg))
    simp only [Wait.ofLength, nonneg, dite_false, gone]
    rw [sub_eq_add_neg _ margin]
    exact Wait.ends_ofLength _ _

/-! ### The margin -/

namespace Probe

variable {c : Client} {now L C : Time}

/-- The margin of a run with finite settings is the close timeout, or else neither is negative. -/
theorem grace_exact (now : Time) (lifetime : c.settings.lifetime.toRat? = some L) (pos : 0 < L)
    (closeTimeout : c.settings.closeTimeout.toRat? = some C) :
    ∃ g, (fresh c now).grace.toRat? = some g ∧ (g = C ∨ 0 ≤ g ∧ 0 ≤ C) := by
  have grace : (fresh c now).grace = c.settings.closeTimeout.atMost c.settings.lifetime.half := rfl
  rw [grace]
  unfold Double.atMost
  split
  next half =>
    obtain ⟨⟨g, value, nonneg⟩, nonneg'⟩ := Double.sign_of_half_less lifetime pos closeTimeout half
    exact ⟨g, value, .inr ⟨nonneg, nonneg'⟩⟩
  next => exact ⟨C, closeTimeout, .inl rfl⟩

theorem deadlineOf_exact (lifetime : c.settings.lifetime.toRat? = some L) :
    deadlineOf c now = .exact (now + L) := by
  unfold deadlineOf
  rw [Span.ofDouble_exact lifetime]
  rfl

/-- A run with finite settings returns at its deadline, and later by the amount by which its close
timeout is negative. -/
theorem Moments.returned_eq {woken due concluded returned : Time}
    (h : Moments c now woken due concluded returned)
    (lifetime : c.settings.lifetime.toRat? = some L) (pos : 0 < L)
    (closeTimeout : c.settings.closeTimeout.toRat? = some C) :
    returned = now + max L (L - C) ∧ concluded ≤ returned := by
  obtain ⟨g, grace, margin⟩ := grace_exact now lifetime pos closeTimeout
  have woken_eq := h.woken_ends
  have due_eq := h.due_eq
  have concluded_le := h.concluded_le
  have returned_eq := h.returned_ends
  rw [deadlineOf_exact lifetime] at woken_eq due_eq concluded_le returned_eq
  rw [Span.ofDouble_exact grace, Span.ends_untilMargin, Option.some.injEq] at woken_eq
  rw [Span.ends_timeLeft, Option.some.injEq] at due_eq returned_eq
  have concluded_le := concluded_le _ (Span.ends_timeLeft _ _)
  rw [show now + L - now = L by linarith, max_eq_right (le_of_lt pos)] at woken_eq
  refine ⟨?_, returned_eq ▸ le_max_left _ _⟩
  rcases le_or_gt 0 C with nonneg | negative
  · -- The timer wakes before the deadline, so no later wait goes on past it.
    have early : woken ≤ now + L := by
      rw [← woken_eq]
      have : 0 ≤ g := margin.elim (fun same => same ▸ nonneg) (·.1)
      have : max 0 (L - g) ≤ L := max_le (le_of_lt pos) (by linarith)
      linarith
    have due_le : due ≤ now + L := by
      rcases due_eq with rfl | rfl
      · exact early
      · exact max_le early (le_refl _)
    rw [max_eq_right due_le] at concluded_le
    rw [max_eq_right concluded_le] at returned_eq
    rw [← returned_eq, max_eq_left (by linarith)]
  · -- The timer wakes after the deadline, and nothing is waited for then.
    have same : g = C := margin.resolve_right fun both => absurd both.2 (not_le.mpr negative)
    have late : woken = now + (L - C) := by
      rw [← woken_eq, same, max_eq_right (by linarith)]
    have past : now + L ≤ woken := by linarith
    have due_eq : due = woken := by
      rcases due_eq with rfl | rfl
      · rfl
      · exact max_eq_left past
    rw [due_eq, max_eq_left past] at concluded_le
    have concluded_eq : concluded = woken := le_antisymm concluded_le (due_eq ▸ h.due_le)
    rw [concluded_eq, max_eq_left past] at returned_eq
    rw [← returned_eq, late, max_eq_right (by linarith)]

theorem not_endless (lifetime : c.settings.lifetime.toRat? = some L) (pos : 0 < L)
    (closeTimeout : c.settings.closeTimeout.toRat? = some C) : ¬ Endless c now := by
  obtain ⟨g, grace, -⟩ := grace_exact now lifetime pos closeTimeout
  unfold Endless
  rw [deadlineOf_exact lifetime, Span.ofDouble_exact grace, Span.ends_untilMargin]
  rintro (none | ⟨t, none⟩)
  · simp at none
  · simp [Span.ends_timeLeft] at none

/-- A run with finite settings returns: it goes on until its shutdown concludes, and then only waits
for its last instant. -/
theorem course_exact (now : Time) (script : Script)
    (lifetime : c.settings.lifetime.toRat? = some L) (pos : 0 < L)
    (closeTimeout : c.settings.closeTimeout.toRat? = some C) :
    ∃ (r : Probe) (timer : Trace), r.Going c script timer ∧ (∀ x ∈ timer, Closes x.2) ∧
      timer.closeCalls.length ≤ 1 ∧ r.now ≤ now + max L (L - C) ∧
      (fresh c now).course script =
        .ok (exitSuccess, { r.conclude with now := now + max L (L - C) }) := by
  obtain ⟨r, timer, going, closes, few, stuck | returns⟩ := course_cases c now script
  · exact absurd stuck.2 (not_endless lifetime pos closeTimeout)
  · obtain ⟨woken, due, returned, moments, ended⟩ := returns
    obtain ⟨rfl, before⟩ := moments.returned_eq lifetime pos closeTimeout
    exact ⟨r, timer, going, closes, few, before, ended⟩

/-- A run with settings that nothing is found wrong with, and that are finite, returns at an instant
that its lifetime and its close timeout fix, whatever its connection, its handlers and its callbacks
do.  That is by its deadline if and only if the close timeout is not negative. -/
theorem returns_by_deadline_iff (s : Settings) (usable : s.shortcomings = [])
    (lifetime : s.probe.lifetime.toRat? = some L)
    (closeTimeout : s.probe.closeTimeout.toRat? = some C)
    (handlers : Handlers) (registry : Registry) (now : Time) (script : Script) :
    ∃ q, (fresh { settings := s.probe, handlers, registry } now).course script = .ok (0, q) ∧
      q.now = now + max L (L - C) ∧ (q.now ≤ now + L ↔ 0 ≤ C) := by
  have positive : s.probe.lifetime.isNonpositive = false := by
    by_contra nonpositive
    simp [Settings.shortcomings, nonpositive] at usable
  have pos : 0 < L := Double.pos_of_not_nonpositive lifetime positive
  let c : Client := { settings := s.probe, handlers, registry }
  obtain ⟨r, -, -, -, -, -, ended⟩ := course_exact (c := c) now script lifetime pos closeTimeout
  refine ⟨_, ended, rfl, ?_⟩
  constructor
  · intro inTime
    have := le_max_right L (L - C)
    linarith [show now + max L (L - C) ≤ now + L from inTime]
  · intro nonneg
    have same : max L (L - C) = L := max_eq_left (by linarith)
    exact le_of_eq (by rw [same])

/-- The default settings on a connection that never opens. -/
theorem returns_by_deadline_pending :
    ∃ q, (fresh { settings := ({} : Settings).probe, handlers := [], registry := [] } 0).course
        { connectWait := .forever } = .ok (0, q) ∧
      q.now = 0 + max 5 (5 - 1) ∧ (q.now ≤ 0 + 5 ↔ (0 : Time) ≤ 1) :=
  returns_by_deadline_iff {} (by decide +kernel) (by decide +kernel) (by decide +kernel) [] [] 0 _

/-- Nothing is found wrong with a negative close timeout, and a run with it returns after its
deadline. -/
theorem late_of_negative_closeTimeout :
    ({ probe := { closeTimeout := Double.ofInt (-1) } } : Settings).shortcomings = [] ∧
      ∃ q, (fresh { settings := { closeTimeout := Double.ofInt (-1) } } 0).course {} = .ok (0, q) ∧
        ¬ q.now ≤ 0 + 5 := by
  let c : Client := { settings := { closeTimeout := Double.ofInt (-1) } }
  have lifetime : c.settings.lifetime.toRat? = some 5 := by decide +kernel
  have closeTimeout : c.settings.closeTimeout.toRat? = some (-1) := by decide +kernel
  obtain ⟨r, -, -, -, -, -, ended⟩ := course_exact 0 {} lifetime (by norm_num) closeTimeout
  refine ⟨by decide +kernel, _, ended, ?_⟩
  norm_num

end Probe

end BoxProbe
