/-
Module: BoxProbe.Session.Probe
Purpose: A probe over time: its session, its shutdown and its run to the deadline.
Main exports: Probe, Probe.fresh, Awaited, Probe.perform, Probe.attach, Probe.grace, Probe.timeLeft,
  Probe.ending, Probe.shutdown, Probe.untilDue, Probe.lastPart, Probe.course, Probe.run
-/
import BoxProbe.Session.Client

/-!
A run starts the session and a timer.  The timer wakes when the margin before the deadline is
reached, or at the deadline if the connection is not open by then, and shuts the probe down: an open
connection gets a close handshake, bounded by the time left before the deadline; then the session is
cancelled, and the transport aborted.  Only the first shutdown has any effect.  The run returns at
the deadline; where the probe was shut down before, its session goes on beside whatever comes next.

A probe may wait for something that never ends.  Then it is stuck there, while its sessions go on.
-/

namespace BoxProbe

/-- A probe with the history of what it did so far. -/
structure Probe where
  client : Client := {}
  now : Time := 0
  trace : Trace := []
  /-- The sessions that runs have started, the newest first. -/
  sessions : List Stop := []
  shutdownStarted : Bool := false
  deadline : Option Span := none

/-- What comes of something that a probe waits for; `error` holds the probe that waits for it
without end. -/
abbrev Awaited (α : Type) := Except Probe α

/-- The status that a probe exits with. -/
def exitSuccess : Nat := 0

namespace Probe

/-- A probe that has done nothing yet. -/
def fresh (client : Client) (now : Time := 0) : Probe :=
  { client, now }

/-- The state of the connection. -/
def state (p : Probe) : ConnectionState :=
  p.trace.state

/-- Does one act. -/
def act (p : Probe) (a : Act) : Probe :=
  { p with trace := p.trace ++ [(p.now, a)] }

/-- Logs a notice. -/
def log (p : Probe) (n : Notice) : Probe :=
  p.act (.notice n)

/-- What all tasks of the probe see. -/
def scene (p : Probe) : Scene :=
  { handlers := p.client.handlers, now := p.now, trace := p.trace }

/-- The probe after its tasks went on. -/
def after (p : Probe) (scene : Scene) (sessions : List Stop) : Probe :=
  { p with now := scene.now, trace := scene.trace, sessions }

/-- Lets the sessions go on up to an instant, and moves the clock there. -/
def advance (p : Probe) (instant : Time) : Probe :=
  let (scene, sessions) := Scene.elapse p.sessions.length instant (p.scene, p.sessions)
  p.after scene sessions

/-- Waits. -/
def await (p : Probe) (wait : Wait) : Awaited Probe :=
  match wait.ends p.now with
  | some instant => .ok (p.advance instant)
  | none => .error p

/-- Performs an activity to its end, while the sessions go on beside it.  An activity that never
ends never returns. -/
def perform (p : Probe) (a : Activity) : Option Probe :=
  let progress := a.run (Scene.elapse p.sessions.length) none (p.scene, p.sessions)
  match progress.stop with
  | .finished => some (p.after progress.scene progress.others)
  | _ => none

/-- Gives the probe an open connection. -/
def attach (p : Probe) (script : Script) : Probe :=
  (p.act (.opened script)).act (.becomes .open)

/-- How long before the deadline an open connection starts to close: the close timeout, but at most
half of the lifetime. -/
def grace (p : Probe) : Double :=
  p.client.settings.closeTimeout.atMost p.client.settings.lifetime.half

/-- The time left before the deadline, and the close timeout where there is no deadline. -/
def timeLeft (p : Probe) : Wait :=
  match p.deadline with
  | none => (Span.ofDouble p.client.settings.closeTimeout).toWait
  | some deadline => deadline.timeLeft p.now

/-- The time left as a setting shows it. -/
def timeLeftDouble (p : Probe) : Double :=
  match p.deadline with
  | none => p.client.settings.closeTimeout
  | some deadline =>
    match deadline.timeLeft p.now with
    | .none => Double.ofInt 0
    | .seconds length _ => Double.ofRat length
    | .forever => .infinite false

/-- Whether the newest session has come to its end, or there is none. -/
def sessionDone (p : Probe) : Bool :=
  p.sessions.head?.all Stop.isFinished

/-- The handshake has not come to its end by a limit. -/
def giveUp (p : Probe) (limit : Option Time) : Awaited Probe :=
  match limit with
  | some limit => .ok ((p.advance limit).log .handshakeUnfinished)
  | none => .error p

/-- Waits until the newest session is done, at most up to a limit. -/
def awaitSession (p : Probe) (limit : Option Time) : Awaited Probe :=
  match p.sessions with
  | [] => .ok p
  | newest :: earlier =>
    let progress := newest.resume (Scene.elapse earlier.length) limit (p.scene, earlier)
    let resumed := p.after progress.scene (progress.stop :: progress.others)
    if progress.stop.isFinished then .ok resumed else resumed.giveUp limit

/-- The client's close of a connection has ended: it failed, or the handshake is complete. -/
def closeEnded (p : Probe) (number : Nat) (behavior : CloseBehavior) : Probe :=
  match behavior.failure with
  | some f => p.log (.closeFailed f)
  | none => p.act (.closeCompleted number)

/-- A close handshake on a connection, which may take until a limit. -/
def handshakeUntil (p : Probe) (limit : Option Time) (number : Nat) (behavior : CloseBehavior) :
    Awaited Probe :=
  let called := p.act (.closeCalled number)
  match behavior.wait.ends p.now with
  | some instant =>
    if isBefore instant limit then
      ((called.advance instant).closeEnded number behavior).awaitSession limit
    else called.giveUp limit
  | none => called.giveUp limit

/-- A close handshake bounded by the time left.  Without any time left it is not begun. -/
def closeHandshake (p : Probe) : Awaited Probe :=
  match p.trace.socket? with
  | none => .ok p
  | some (number, socket) =>
    match p.timeLeft with
    | .none => .ok (p.log .handshakeUnfinished)
    | .seconds length _ =>
      if length ≤ 0 then .ok (p.log .handshakeUnfinished)
      else p.handshakeUntil (some (p.now + length)) number socket.script.close
    | .forever => p.handshakeUntil none number socket.script.close

/-- Cancels the newest session unless it is done. -/
def cancelSession (p : Probe) : Probe :=
  if p.sessionDone then p
  else { p with sessions := .finished :: p.sessions.drop 1 }.act .cancelled

/-- Aborts the transport of the connection in use unless it is closing. -/
def abortTransport (p : Probe) : Probe :=
  match p.trace.socket? with
  | some (number, socket) => if socket.transport = some false then p.act (.aborted number) else p
  | none => p

/-- The end of a shutdown: no session, no transport, and the summary. -/
def conclude (p : Probe) : Probe :=
  let closed := p.cancelSession.abortTransport.act (.becomes .closed)
  closed.log (.finished closed.trace.stats)

/-- How a shutdown ends: with a status, and with the probe shut down the first time it is asked
to. -/
def ending (p : Probe) : Awaited (Nat × Probe) :=
  if p.shutdownStarted then .ok (exitSuccess, p)
  else do
    let begun := { p with shutdownStarted := true }.log (.shuttingDown p.state)
    let closed ← if p.state = .open then begun.closeHandshake else .ok begun
    return (exitSuccess, closed.conclude)

/-- Shuts the probe down.  A shutdown without end never returns. -/
def shutdown (p : Probe) : Option Probe :=
  p.ending.toOption.map (·.2)

/-- Starts the session on a connection, and lets it go on to its first wait. -/
def start (p : Probe) (script : Script) : Probe :=
  let lifetime := Span.ofDouble p.client.settings.lifetime
  let fresh := { p with deadline := some ((Span.exact p.now).add lifetime) }.act
    (.becomes .connecting)
  let session := p.client.session p.client.settings.url script
  let progress := session.run (Scene.elapse p.sessions.length) (some p.now)
    (fresh.scene, p.sessions)
  fresh.after progress.scene (progress.stop :: progress.others)

/-- The wait from the start of a run until its timer wakes first. -/
def firstWait (p : Probe) : Wait :=
  match p.deadline with
  | some deadline => deadline.untilMargin (Span.ofDouble p.grace) p.now
  | none => .none

/-- Waits until the shutdown is due: an open connection starts to close at once, and otherwise the
deadline is awaited. -/
def untilDue (p : Probe) : Awaited Probe :=
  if p.state = .open then .ok p else p.await p.timeLeft

/-- How a run ends whose shutdown is due: at the deadline, with a status. -/
def lastPart (p : Probe) : Awaited (Nat × Probe) := do
  let (status, down) ← p.ending
  return (status, ← down.await down.timeLeft)

/-- How a run on a connection goes. -/
def course (p : Probe) (script : Script) : Awaited (Nat × Probe) := do
  let started := p.start script
  let awake ← started.await started.firstWait
  let due ← awake.untilDue
  due.lastPart

/-- Runs the probe on a connection.  A run without end never returns. -/
def run (p : Probe) (script : Script) : Option Probe :=
  (p.course script).toOption.map (·.2)

end Probe

end BoxProbe
