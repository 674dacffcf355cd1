/-
Module: BoxProbe.Session.Callback
Purpose: Functions that are registered for events and for failures.
Main exports: Conduct, Callback, Callback.onCall, Handlers, Handlers.callbacks, Registry,
  Registry.callbacks, Registry.onReport
-/
import BoxProbe.Session.Trace

/-!
A function that is registered is called, takes its time, and may fail.  It need not do the same in
every call: it may go by what it is given and by what was called before.
-/

namespace BoxProbe

/-- How long a call takes, and whether it fails. -/
structure Conduct where
  pause : Wait := .none
  failure : Option Failure := none

/-- A function that someone registered. -/
structure Callback where
  label : String
  pause : Wait := .none
  failure : Option Failure := none
  /-- The calls that go another way, by what was called before them and by their arguments. -/
  apart : List (Time × Call) → List Argument → Option Conduct := fun _ _ => none

/-- A callback as a call finds it. -/
def Callback.onCall (c : Callback) (earlier : List (Time × Call)) (arguments : List Argument) :
    Callback :=
  let conduct := (c.apart earlier arguments).getD ⟨c.pause, c.failure⟩
  { c with pause := conduct.pause, failure := conduct.failure }

/-- A function that takes a second in its first call and fails in each later one. -/
example :
    let c : Callback :=
      { label := "once"
        pause := .ofLength 1
        apart := fun earlier _ =>
          if earlier = [] then none else some { failure := some (.ofMessage .runtime "again") } }
    (c.onCall [] []).pause = .ofLength 1 ∧ (c.onCall [] []).failure = none ∧
      (c.onCall [(0, ⟨"once", []⟩)] []).failure = some (.ofMessage .runtime "again") :=
  ⟨rfl, rfl, rfl⟩

@[simp]
theorem Callback.label_onCall (c : Callback) (earlier : List (Time × Call))
    (arguments : List Argument) : (c.onCall earlier arguments).label = c.label := rfl

/-- The event handlers, in the order of registration. -/
abbrev Handlers := List (EventKind × Callback)

namespace Handlers

/-- The handlers of a kind of events. -/
def callbacks (h : Handlers) (kind : EventKind) : List Callback :=
  (h.filter fun c => c.1 == kind).map (·.2)

end Handlers

/-- The error callbacks, in the order of registration; without a context a callback is for all. -/
abbrev Registry := List (Option ErrorContext × Callback)

namespace Registry

/-- The callbacks for a context: its own before those for all contexts. -/
def callbacks (r : Registry) (context : ErrorContext) : List Callback :=
  (r.filter fun c => c.1 == some context).map (·.2) ++ (r.filter fun c => c.1 == none).map (·.2)

/-- The error callbacks as the report of an incident finds them. -/
def onReport (r : Registry) (earlier : List (Time × Call)) (i : Incident) : Registry :=
  r.map fun c => (c.1, c.2.onCall earlier [.incident i])

theorem callbacks_onReport (r : Registry) (earlier : List (Time × Call)) (i : Incident)
    (context : ErrorContext) :
    (r.onReport earlier i).callbacks context =
      (r.callbacks context).map fun c => c.onCall earlier [.incident i] := by
  simp [callbacks, onReport, List.filter_map, Function.comp_def]

end Registry

end BoxProbe
