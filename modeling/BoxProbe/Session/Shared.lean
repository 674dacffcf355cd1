/-
Module: BoxProbe.Session.Shared
Purpose: A run step by step, while other tasks shut its probe down.
Main exports: Shutdown, ShutdownResult, Stop.next?, Probe.stopSession, Probe.shake, Probe.call,
  Probe.goOn?, Probe.cutOff?, Probe.sessionStep?, TaskState, TaskState.step?, TaskState.cutOff?,
  Choice, SharedRun, SharedRun.step?, SharedRun.follow, Probe.share
-/
import BoxProbe.Session.Probe
import Mathlib.Algebra.Order.Ring.Rat

/-!
A run has two tasks, its session and its timer, and any task may shut the probe down meanwhile.  A
task goes on from one wait to the next without a break; whenever several tasks can go on, any of
them may be the next.  The clock moves only when none can, to the next instant at which one can.

A shutdown is a check of a flag and a row of waits: for the close handshake, which is a task of its
own, and for the end of the cancelled session.  A call that finds the flag set returns at once,
whatever has become of the call that set it.

What `Probe.course` does in one go is one order of these steps, with no other task
(`Probe.leads_course`).
-/

namespace BoxProbe

/-- Where a close handshake stands. -/
inductive Handshake where
  | scheduled (number : Nat) (behavior : CloseBehavior)
  /-- The connection's close is on its way, and ends at an instant or never. -/
  | closing (wake : Option Time) (number : Nat) (behavior : CloseBehavior)
  /-- The connection's close has ended, and the session is waited for. -/
  | farewell

/-- Where a shutdown waits. -/
inductive Shutdown where
  /-- For its close handshake, at most up to a limit. -/
  | shaking (limit : Option Time) (h : Handshake)
  /-- Its close handshake is complete. -/
  | shaken
  /-- Its close handshake has been cancelled. -/
  | cutOff
  /-- For the end of the session, which has been cancelled. -/
  | cancelling

/-- What a call of `shutdown` comes to: it waits, or it returns a status. -/
inductive ShutdownResult where
  | waits (s : Shutdown)
  | returns (status : Nat)

/-- Whether a wait that ends at an instant or never is over. -/
def reached (now : Time) (wake : Option Time) : Bool :=
  wake.any fun instant => instant ≤ now

namespace Stop

/-- What a stopped task does next, if it can go on. -/
def next? (s : Scene) : Stop → Option Activity
  | .finished => none
  | .asleep wake next => if reached s.now wake then some next else none
  | .listening socket wake arrived closed =>
    if s.trace.isClosed socket then some closed
    else if reached s.now wake then some arrived
    else none

/-- The instants that a stopped task waits for. -/
def wakes : Stop → List Time
  | .finished => []
  | .asleep wake _ | .listening _ wake _ _ => wake.toList

end Stop

namespace Probe

/-- What follows the close handshake of a shutdown.  A session that is not done is cancelled, and
waited for. -/
def stopSession (p : Probe) : ShutdownResult × Probe :=
  if p.sessionDone then (.returns exitSuccess, p.conclude)
  else
    let stopped := { p with sessions := .asleep (some p.now) .done :: p.sessions.drop 1 }
    (.waits .cancelling, stopped.act .cancelled)

/-- Begins a close handshake bounded by the time left.  Without any time left it is cut off at
once. -/
def shake (p : Probe) : ShutdownResult × Probe :=
  match p.trace.socket? with
  | none => p.stopSession
  | some (number, socket) =>
    let handshake := .scheduled number socket.script.close
    match p.timeLeft with
    | .none => (.waits .cutOff, p)
    | .seconds length _ =>
      if length ≤ 0 then (.waits .cutOff, p)
      else (.waits (.shaking (some (p.now + length)) handshake), p)
    | .forever => (.waits (.shaking none handshake), p)

/-- Calls `shutdown`. -/
def call (p : Probe) : ShutdownResult × Probe :=
  if p.shutdownStarted then (.returns exitSuccess, p)
  else
    let begun := { p with shutdownStarted := true }.log (.shuttingDown p.state)
    if p.state = .open then begun.shake else begun.stopSession

/-- Lets a waiting shutdown go on to its next wait. -/
def goOn? (p : Probe) : Shutdown → Option (ShutdownResult × Probe)
  | .shaking limit (.scheduled number behavior) =>
    let wake := behavior.wait.ends p.now
    some (.waits (.shaking limit (.closing wake number behavior)), p.act (.closeCalled number))
  | .shaking limit (.closing wake number behavior) =>
    if reached p.now wake then
      some (.waits (.shaking limit .farewell), p.closeEnded number behavior)
    else none
  | .shaking _ .farewell => if p.sessionDone then some (.waits .shaken, p) else none
  | .shaken => some p.stopSession
  | .cutOff => some (p.log .handshakeUnfinished).stopSession
  | .cancelling => if p.sessionDone then some (.returns exitSuccess, p.conclude) else none

/-- Cuts a close handshake off whose limit is reached. -/
def cutOff? (p : Probe) : Shutdown → Option (ShutdownResult × Probe)
  | .shaking limit _ => if reached p.now limit then some (.waits .cutOff, p) else none
  | _ => none

/-- Runs an activity as the newest session, to its next wait. -/
def runSession (p : Probe) (a : Activity) (earlier : List Stop) : Probe :=
  let progress := a.run (Scene.elapse 0) (some p.now) (p.scene, earlier)
  p.after progress.scene (progress.stop :: progress.others)

/-- Lets the newest session go on to its next wait. -/
def sessionStep? (p : Probe) : Option Probe :=
  match p.sessions with
  | [] => none
  | newest :: earlier => (newest.next? p.scene).map fun a => p.runSession a earlier

end Probe

/-- Where a task stands that shuts the probe down: the timer of a run, or another task. -/
inductive TaskState where
  /-- The timer has not begun to wait. -/
  | starting
  | untilMargin (wake : Option Time)
  | untilDeadline (wake : Option Time)
  /-- Another task calls `shutdown` at an instant. -/
  | before (instant : Time)
  /-- The call of the timer, or of another task, waits. -/
  | calling (timer : Bool) (s : Shutdown)
  /-- The timer waits for the deadline, after its call has returned. -/
  | resting (status : Nat) (wake : Option Time)
  | returned (status : Nat)

namespace TaskState

/-- The state of a task whose call has come to something.  The timer still waits for the deadline
after its call. -/
def ofResult (timer : Bool) : ShutdownResult × Probe → TaskState × Probe
  | (.waits s, p) => (.calling timer s, p)
  | (.returns status, p) =>
    (if timer then .resting status (p.timeLeft.ends p.now) else .returned status, p)

/-- Lets a task go on to its next wait. -/
def step? (p : Probe) : TaskState → Option (TaskState × Probe)
  | .starting => some (.untilMargin (p.firstWait.ends p.now), p)
  | .untilMargin wake =>
    if reached p.now wake then
      if p.state = .open then some (ofResult true p.call)
      else some (.untilDeadline (p.timeLeft.ends p.now), p)
    else none
  | .untilDeadline wake => if reached p.now wake then some (ofResult true p.call) else none
  | .before instant => if instant ≤ p.now then some (ofResult false p.call) else none
  | .calling timer s => (p.goOn? s).map (ofResult timer)
  | .resting status wake => if reached p.now wake then some (.returned status, p) else none
  | .returned _ => none

/-- Cuts off the close handshake that a task waits for. -/
def cutOff? (p : Probe) : TaskState → Option (TaskState × Probe)
  | .calling timer s => (p.cutOff? s).map (ofResult timer)
  | _ => none

/-- The instants that a task waits for. -/
def wakes : TaskState → List Time
  | .untilMargin wake | .untilDeadline wake | .resting _ wake => wake.toList
  | .before instant => [instant]
  | .calling _ (.shaking limit (.closing wake _ _)) => limit.toList ++ wake.toList
  | .calling _ (.shaking limit _) => limit.toList
  | _ => []

end TaskState

/-- What happens next. -/
inductive Choice where
  | session
  /-- The task at an index goes on. -/
  | task (i : Nat)
  /-- The close handshake of a task is cut off. -/
  | cutOff (i : Nat)
  /-- The clock moves on. -/
  | tick
deriving DecidableEq, Repr

/-- A run that other tasks may shut down. -/
structure SharedRun where
  probe : Probe
  /-- Where its timer stands, and behind it the other tasks. -/
  tasks : List TaskState

namespace SharedRun

/-- Whether no task can go on. -/
def isIdle (r : SharedRun) : Bool :=
  r.probe.sessionStep?.isNone &&
    r.tasks.all fun state => (state.step? r.probe).isNone && (state.cutOff? r.probe).isNone

/-- The instants that tasks wait for. -/
def wakes (r : SharedRun) : List Time :=
  (r.probe.sessions.take 1).flatMap Stop.wakes ++ r.tasks.flatMap TaskState.wakes

/-- The run after a task has gone on. -/
def put (r : SharedRun) (i : Nat) (next : TaskState × Probe) : SharedRun :=
  { probe := next.2, tasks := r.tasks.set i next.1 }

/-- The run after what was chosen, if that can happen next. -/
def step? (r : SharedRun) : Choice → Option SharedRun
  | .session => r.probe.sessionStep?.map fun p => { r with probe := p }
  | .task i => r.tasks[i]?.bind fun state => (state.step? r.probe).map (r.put i)
  | .cutOff i => r.tasks[i]?.bind fun state => (state.cutOff? r.probe).map (r.put i)
  | .tick =>
    if r.isIdle then r.wakes.min?.map fun t => { r with probe := { r.probe with now := t } }
    else none

/-- The run after a row of choices. -/
def follow (r : SharedRun) (choices : List Choice) : Option SharedRun :=
  choices.foldlM step? r

/-- The status that the timer has returned, which the run returns. -/
def status? (r : SharedRun) : Option Nat :=
  match r.tasks with
  | .returned status :: _ => some status
  | _ => none

end SharedRun

/-- The start of a run on a connection, whose probe other tasks shut down at some instants. -/
def Probe.share (p : Probe) (script : Script) (instants : List Time) : SharedRun :=
  let lifetime := Span.ofDouble p.client.settings.lifetime
  let fresh := { p with deadline := some ((Span.exact p.now).add lifetime) }.act
    (.becomes .connecting)
  let session := p.client.session p.client.settings.url script
  { probe := { fresh with sessions := .asleep (some p.now) session :: p.sessions }
    tasks := .starting :: instants.map .before }

end BoxProbe
