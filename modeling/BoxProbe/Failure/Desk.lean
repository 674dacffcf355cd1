/-
Module: BoxProbe.Failure.Desk
Purpose: Reports of failures that go on side by side, and callbacks that are registered meanwhile.
Main exports: Activity.burst, Responder, Errand, Report, Desk, Desk.step?, Desk.follow,
  Desk.callsOf, Desk.recordsOf, Desk.returned?
-/
import BoxProbe.Failure.Reporter

/-!
Whoever handles failures takes callbacks and failures at any time.  A report does what it does up
to the next callback that is at work without a break.  While that callback is at work, other
failures may be reported, other reports may go on, and callbacks may be registered, be it by other
tasks or by the callback itself.

A report that is cancelled is one that never goes on.
-/

namespace BoxProbe

/-- What a task does up to its next wait, and what is left of it there. -/
def Activity.burst : Activity → List Act × Activity
  | .act a next => (a :: (burst next).1, (burst next).2)
  | a => ([], a)

/-- The call that an act is. -/
def Act.call? : Act → Option Call
  | .called call => some call
  | _ => none

/-- The log record that an act writes. -/
def Act.record? : Act → Option LogRecord
  | .notice n => some n.toRecord
  | _ => none

/-- A function that someone registered for failures.  How long it takes, and whether it fails, may
be different for each report that calls it. -/
structure Responder where
  label : String
  conduct : (number : Nat) → Incident → Wait × Option Failure

/-- What a report, by its number, has of a responder. -/
def Responder.callback (r : Responder) (number : Nat) (i : Incident) : Callback :=
  { label := r.label, pause := (r.conduct number i).1, failure := (r.conduct number i).2 }

/-- What can come to a desk. -/
inductive Errand where
  /-- A callback is registered for a context, or for all of them. -/
  | register (context : Option ErrorContext) (r : Responder)
  /-- A failure is reported. -/
  | report (i : Incident)
  /-- The callback that a report waits for comes to its end, and the report goes on. -/
  | goOn (number : Nat)

/-- A report that has begun, and what is left of it. -/
structure Report where
  incident : Incident
  left : Activity

namespace Report

/-- What a report returns, once it is at its end. -/
def returned? (r : Report) : Option Incident :=
  match r.left with
  | .done => some r.incident
  | _ => none

/-- What a report does next, unless it waits for a callback that never comes to its end. -/
def next? (r : Report) : Option Activity :=
  match r.left with
  | .pause .forever _ => none
  | .pause _ next => some next
  | _ => none

end Report

/-- One handler of failures: who is registered, how many failures were counted, the reports in the
order of their beginnings, and what each of them did, in the order in which it was done. -/
structure Desk where
  responders : List (Option ErrorContext × Responder) := []
  counts : ErrorContext → Nat := fun _ => 0
  reports : List Report := []
  history : List (Nat × Act) := []

namespace Desk

/-- The callbacks that the next report finds registered. -/
def registry (d : Desk) (i : Incident) : Registry :=
  d.responders.map fun (context, r) => (context, r.callback d.reports.length i)

/-- The counts after an act. -/
def countsAfter (counts : ErrorContext → Nat) : Act → ErrorContext → Nat
  | .counted context => fun c => if c = context then counts c + 1 else counts c
  | _ => counts

/-- Lets a report do what is left of it up to the next wait. -/
def proceed (d : Desk) (number : Nat) (r : Report) : Desk :=
  let (acts, left) := r.left.burst
  { d with
    counts := acts.foldl countsAfter d.counts
    reports := d.reports.set number { r with left }
    history := d.history ++ acts.map fun a => (number, a) }

/-- What comes of an errand, if it is possible. -/
def step? (d : Desk) : Errand → Option Desk
  | .register context r => some { d with responders := d.responders ++ [(context, r)] }
  | .report i =>
    let begun : Report := { incident := i, left := (d.registry i).report i .done }
    some ({ d with reports := d.reports ++ [begun] }.proceed d.reports.length begun)
  | .goOn number => do
    let r ← d.reports[number]?
    let next ← r.next?
    some (d.proceed number { r with left := next })

/-- What comes of errands one after another. -/
def follow (d : Desk) (errands : List Errand) : Option Desk :=
  errands.foldlM step? d

/-- What a report did, in order. -/
def actsOf (d : Desk) (number : Nat) : List Act :=
  d.history.filterMap fun (n, a) => if n = number then some a else none

/-- The calls that a report made. -/
def callsOf (d : Desk) (number : Nat) : List Call :=
  (d.actsOf number).filterMap Act.call?

/-- The log records of a report. -/
def recordsOf (d : Desk) (number : Nat) : List LogRecord :=
  (d.actsOf number).filterMap Act.record?

/-- What a report returned, if it is at its end. -/
def returned? (d : Desk) (number : Nat) : Option Incident :=
  d.reports[number]?.bind Report.returned?

end Desk

end BoxProbe
