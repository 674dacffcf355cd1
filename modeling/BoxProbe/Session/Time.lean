/-
Module: BoxProbe.Session.Time
Purpose: Exact time: instants, waits, and settings in seconds that may be no number.
Main exports: Time, Wait, Wait.zero, Wait.ofLength, Span, Span.timeLeft, Span.untilMargin
-/
import BoxProbe.Number.Double

/-!
Time is exact.  A wait ends after a number of seconds, which is never negative, or never; a wait of
no length is no wait at all.  Settings are doubles, so a deadline or a margin can be infinite or no
number; comparisons with what is no number fail, and the rules below say what then counts.
-/

namespace BoxProbe

/-- An instant or a length of time, in seconds. -/
abbrev Time := Rat

/-- How long something waits. -/
inductive Wait where
  /-- It does not wait. -/
  | none
  | seconds (length : Time) (nonneg : 0 ≤ length)
  | forever
deriving DecidableEq, Repr

namespace Wait

/-- A wait of zero seconds. -/
def zero : Wait :=
  .seconds 0 Rat.le_refl

/-- The wait for a length of time, of which a negative one counts as zero. -/
def ofLength (length : Time) : Wait :=
  if h : 0 ≤ length then .seconds length h else zero

/-- When a wait ends that starts at `now`. -/
def ends (now : Time) : Wait → Option Time
  | .none => some now
  | .seconds length _ => some (now + length)
  | .forever => Option.none

end Wait

/-- A length of time that a setting names. -/
inductive Span where
  | notANumber
  | infinite (negative : Bool)
  | exact (length : Time)
deriving DecidableEq, Repr

namespace Span

/-- The span that a double names. -/
def ofDouble : Double → Span
  | .nan => .notANumber
  | .infinite negative => .infinite negative
  | .finite negative rank => .exact ((Double.finite negative rank).toRat?.getD 0)

/-- The sum. -/
def add : Span → Span → Span
  | .notANumber, _ | _, .notANumber => .notANumber
  | .infinite a, .infinite b => if a = b then .infinite a else .notANumber
  | .infinite a, .exact _ => .infinite a
  | .exact _, .infinite b => .infinite b
  | .exact a, .exact b => .exact (a + b)

/-- The opposite. -/
def negate : Span → Span
  | .notANumber => .notANumber
  | .infinite a => .infinite (!a)
  | .exact a => .exact (-a)

/-- A span as a wait: what is not positive is a wait of zero seconds. -/
def toWait : Span → Wait
  | .notANumber => .zero
  | .infinite negative => if negative then .zero else .forever
  | .exact length => .ofLength length

/-- The time from `now` to a deadline, and zero after it. -/
def timeLeft (deadline : Span) (now : Time) : Wait :=
  (deadline.add (.exact (-now))).toWait

/-- The wait from `now` until the margin before the deadline is reached. -/
def untilMargin (deadline margin : Span) (now : Time) : Wait :=
  let left : Span :=
    match deadline.timeLeft now with
    | .none => .exact 0
    | .seconds length _ => .exact length
    | .forever => .infinite false
  (left.add margin.negate).toWait

end Span

end BoxProbe
