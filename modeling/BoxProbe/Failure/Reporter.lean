/-
Module: BoxProbe.Failure.Reporter
Purpose: How a failure is logged, counted and handed to the error callbacks.
Main exports: Registry.report, Registry.handle
-/
import BoxProbe.Session.Activity

/-!
A failure is logged and counted, and then given to the callbacks registered for its context and
after them to those registered for all contexts, in the order of registration.  The list of
callbacks is fixed when the report begins.  A callback that fails is logged, and the others still
run.
-/

namespace BoxProbe

namespace Registry

/-- Counts and logs an incident, calls the callbacks for it, and goes on. -/
def report (r : Registry) (i : Incident) (next : Activity) : Activity :=
  .act (.counted i.context) <|
    .act (.notice (.incident i)) <|
      .invokeAll (r.callbacks i.context) [.incident i] .callbackFailed next

/-- Reports an incident to the callbacks as they are when the report begins. -/
def handle (r : Registry) (i : Incident) (next : Activity) : Activity :=
  .look fun t => (r.onReport t.calls i).report i next

end Registry

end BoxProbe
