/-
Module: BoxProbe.Proofs.Session.Course
Purpose: A run of a fresh probe, taken apart: its session beside its timer, then the end of its
  shutdown, and then silence.
Trusted boundary: none
Main exports: Probe.Going, Probe.start_going, Probe.Onward, Probe.Going.closeHandshake,
  Probe.course_cases
-/
import BoxProbe.Proofs.Session.Monitor
import BoxProbe.Session.Probe

namespace BoxProbe

/-- The connection that an act calls `close` on. -/
def Act.closeCall? : Act → Option Nat
  | .closeCalled socket => some socket
  | _ => none

/-- The connections on which `close` was called. -/
def Trace.closeCalls (t : Trace) : List Nat :=
  t.filterMap fun x => x.2.closeCall?

/-- However many tasks go on up to an instant, the clock then stands there. -/
theorem Scene.elapse_now (tasks : Nat) (t : Time) :
    ∀ (s : Scene) (stops : List Stop), (Scene.elapse tasks t (s, stops)).1.now = t := by
  induction tasks with
  | zero =>
    intro s stops
    rfl
  | succ tasks ih =>
    intro s stops
    cases stops with
    | nil => rfl
    | cons first rest => exact ih _ _

/-- One task goes on, and the clock is then moved. -/
theorem Scene.elapse_one (t : Time) (s : Scene) (stop : Stop) :
    Scene.elapse 1 t (s, [stop]) =
      (let r := stop.resume (Scene.elapse 0) (some t) (s, [])
      ({ r.scene with now := t }, r.stop :: r.others)) := by
  rfl

theorem Wait.le_of_ends {wait : Wait} {now t : Time} (h : wait.ends now = some t) : now ≤ t := by
  cases wait with
  | none => exact le_of_eq (Option.some.inj h)
  | seconds length nonneg =>
    rw [← Option.some.inj h]
    linarith
  | forever => simp [ends] at h

namespace Probe

/-!
Until its shutdown concludes, a run consists of the acts of one session and of those of the timer,
woven into each other; `Going` says so, and every operation of the timer keeps it.
-/

@[simp]
theorem closeEnded_now (p : Probe) (number : Nat) (behavior : CloseBehavior) :
    (p.closeEnded number behavior).now = p.now := by
  unfold closeEnded
  split <;> rfl

/-- The acts of a run's timer before it cancels the session. -/
def Closes : Act → Prop
  | .notice (.shuttingDown _) | .notice .handshakeUnfinished | .notice (.closeFailed _) => True
  | .closeCalled _ | .closeCompleted _ => True
  | _ => False

/-- A run whose session is on its way, beside what the timer did so far. -/
structure Going (c : Client) (script : Script) (timer : Trace) (p : Probe) : Prop where
  client_eq : p.client = c
  session : ∃ stop b w all, p.sessions = [stop] ∧ stop.Leaves b ∧
    (∀ wake, stop.wake? = some wake → p.now ≤ wake) ∧
    (c.session c.settings.url script).Path c.handlers (w.map (·.2)) b ∧
    Woven w timer all ∧ ∃ begun, p.trace = (begun, .becomes .connecting) :: all

@[simp]
theorem log_eq_act (p : Probe) (n : Notice) : p.log n = p.act (.notice n) := rfl

@[simp]
theorem act_now (p : Probe) (a : Act) : (p.act a).now = p.now := rfl

@[simp]
theorem act_deadline (p : Probe) (a : Act) : (p.act a).deadline = p.deadline := rfl

@[simp]
theorem advance_deadline (p : Probe) (t : Time) : (p.advance t).deadline = p.deadline := rfl

@[simp]
theorem advance_now (p : Probe) (t : Time) : (p.advance t).now = t :=
  Scene.elapse_now _ t _ _

namespace Going

variable {c : Client} {script : Script} {timer : Trace} {p : Probe}

theorem act (h : p.Going c script timer) (a : Act) :
    (p.act a).Going c script (timer ++ [(p.now, a)]) := by
  obtain ⟨stop, b, w, all, one, leaves, wakes, path, woven, begun, trace⟩ := h.session
  refine ⟨h.client_eq, stop, b, w, all ++ [(p.now, a)], one, leaves, wakes, path, woven.right _,
    begun, ?_⟩
  simp [Probe.act, trace]

/-- The session goes on up to a limit, and the clock is then moved to `t`. -/
theorem resume (h : p.Going c script timer) {stop : Stop} (one : p.sessions = [stop])
    {limit : Option Time} (soon : ∀ l, limit = some l → p.now ≤ l) :
    let r := stop.resume (Scene.elapse 0) limit (p.scene, [])
    r.others = [] ∧ p.now ≤ r.scene.now ∧ (∀ l, limit = some l → r.scene.now ≤ l) ∧
      ∀ t, (∀ l, limit = some l → t ≤ l) →
        (p.after { r.scene with now := t } [r.stop]).Going c script timer := by
  intro r
  obtain ⟨stop', b, w, all, one', leaves, wakes, path, woven, begun, trace⟩ := h.session
  obtain rfl : stop = stop' := by simpa [one] using one'
  obtain ⟨u, b', further⟩ : r.Follows p.scene [] limit b := Stop.resume_follows leaves wakes
  refine ⟨further.others_eq, further.leadsTo.now_le, ?_, ?_⟩
  · intro l limited
    exact further.inTime l limited (soon l limited)
  · intro t inTime
    refine ⟨h.client_eq, r.stop, b', w ++ u, all ++ u, rfl, further.leaves, ?_, ?_,
      woven.append_left u, begun, ?_⟩
    · intro wake woken
      have late := further.wakes wake woken
      cases limit with
      | none => simp [isBefore] at late
      | some l => exact (inTime l rfl).trans (not_isBefore_some_iff.mp late)
    · have onward := further.path
      rw [show p.scene.handlers = c.handlers by rw [← h.client_eq]; rfl] at onward
      rw [List.map_append]
      exact path.trans onward
    · have extended : r.scene.trace = p.trace ++ u := further.leadsTo.trace
      simp [Probe.after, extended, trace]

/-- The clock moves on, and the session with it. -/
theorem advance (h : p.Going c script timer) {t : Time} (later : p.now ≤ t) :
    (p.advance t).Going c script timer := by
  obtain ⟨stop, -, -, -, one, -⟩ := h.session
  have soon : ∀ l, some t = some l → p.now ≤ l := by simpa using later
  obtain ⟨alone, -, -, moved⟩ := h.resume one soon
  have same : p.advance t =
      p.after { (stop.resume (Scene.elapse 0) (some t) (p.scene, [])).scene with now := t }
        [(stop.resume (Scene.elapse 0) (some t) (p.scene, [])).stop] := by
    simp only [Probe.advance, one, List.length_singleton, Scene.elapse_one, alone]
  rw [same]
  exact moved t (by simp)

end Going

/-- From one moment of a run to a later one the timer called `close` on some connections. -/
def Onward (c : Client) (script : Script) (timer : Trace) (calls : List Nat) (p q : Probe) : Prop :=
  ∃ more : Trace, q.Going c script (timer ++ more) ∧ (∀ x ∈ more, Closes x.2) ∧
    more.closeCalls = calls ∧ p.now ≤ q.now ∧ q.deadline = p.deadline

namespace Onward

variable {c : Client} {script : Script} {timer : Trace} {calls : List Nat} {p q r : Probe}

theorem refl (h : p.Going c script timer) : Onward c script timer [] p p :=
  ⟨[], by simpa using h, by simp, rfl, le_refl _, rfl⟩

theorem act (h : Onward c script timer calls p q) (a : Act) (closes : Closes a) :
    Onward c script timer (calls ++ a.closeCall?.toList) p (q.act a) := by
  obtain ⟨more, going, all, rfl, later, deadline⟩ := h
  refine ⟨more ++ [(q.now, a)], ?_, ?_, ?_, later, deadline⟩
  · rw [← List.append_assoc]
    exact going.act a
  · intro x inside
    rcases List.mem_append.mp inside with earlier | last
    · exact all x earlier
    · rw [List.mem_singleton.mp last]
      exact closes
  · cases called : a.closeCall? <;> simp [Trace.closeCalls, called]

theorem advance (h : Onward c script timer calls p q) {t : Time} (later : q.now ≤ t) :
    Onward c script timer calls p (q.advance t) := by
  obtain ⟨more, going, all, called, earlier, deadline⟩ := h
  exact ⟨more, going.advance later, all, called, by simpa using earlier.trans later, deadline⟩

end Onward

/-- What a wait that is bounded by a limit comes to. -/
def Within (limit : Option Time) (P : Probe → Prop) (r : Awaited Probe) : Prop :=
  match r with
  | .ok q => P q ∧ ∀ l, limit = some l → q.now ≤ l
  | .error q => P q ∧ limit = none

namespace Onward

variable {c : Client} {script : Script} {timer : Trace} {calls : List Nat} {p q : Probe}

theorem giveUp (h : Onward c script timer calls p q) {limit : Option Time}
    (soon : ∀ l, limit = some l → q.now ≤ l) :
    Within limit (Onward c script timer calls p) (q.giveUp limit) := by
  cases limit with
  | none => exact ⟨h, rfl⟩
  | some l =>
    have given := (h.advance (soon l rfl)).act (.notice .handshakeUnfinished) trivial
    refine ⟨by simpa [Act.closeCall?] using given, ?_⟩
    intro l' same
    rw [← Option.some.inj same]
    simp

theorem awaitSession (h : Onward c script timer calls p q) {limit : Option Time}
    (soon : ∀ l, limit = some l → q.now ≤ l) :
    Within limit (Onward c script timer calls p) (q.awaitSession limit) := by
  obtain ⟨more, going, all, called, earlier, deadline⟩ := h
  obtain ⟨stop, -, -, -, one, -⟩ := going.session
  obtain ⟨alone, later, inTime, moved⟩ := going.resume one soon
  have resumed := moved _ inTime
  simp only [Probe.awaitSession, one, List.length_nil, alone]
  split
  next finished =>
    exact ⟨⟨more, resumed, all, called, earlier.trans later, deadline⟩, inTime⟩
  next =>
    apply giveUp
    · exact ⟨more, resumed, all, called, earlier.trans later, deadline⟩
    · exact inTime

theorem closeEnded (h : Onward c script timer calls p q) (number : Nat) (behavior : CloseBehavior) :
    Onward c script timer calls p (q.closeEnded number behavior) := by
  unfold Probe.closeEnded
  split
  next f _ => simpa [Act.closeCall?] using h.act (.notice (.closeFailed f)) trivial
  next => simpa [Act.closeCall?] using h.act (.closeCompleted number) trivial

/-- Once `close` has been called, a handshake calls it no more. -/
theorem handshakeCalled {number : Nat} (called : Onward c script timer calls p
    (q.act (.closeCalled number))) {limit : Option Time} (soon : ∀ l, limit = some l → q.now ≤ l)
    (behavior : CloseBehavior) :
    Within limit (Onward c script timer calls p) (q.handshakeUntil limit number behavior) := by
  simp only [Probe.handshakeUntil]
  split
  next instant ends =>
    have later : q.now ≤ instant := Wait.le_of_ends ends
    split
    next early =>
      apply awaitSession
      · exact (called.advance later).closeEnded number behavior
      · rw [closeEnded_now, advance_now]
        exact le_of_isBefore early
    next => exact called.giveUp soon
  next => exact called.giveUp soon

theorem handshakeUntil (h : Onward c script timer calls p q) {limit : Option Time}
    (soon : ∀ l, limit = some l → q.now ≤ l) (number : Nat) (behavior : CloseBehavior) :
    Within limit (Onward c script timer (calls ++ [number]) p)
      (q.handshakeUntil limit number behavior) := by
  have called := h.act (.closeCalled number) trivial
  simp only [Act.closeCall?, Option.toList_some] at called
  exact handshakeCalled called soon behavior

/-- A close handshake keeps within the time left, and calls `close` at most once. -/
theorem closeHandshake (h : Onward c script timer calls p q) :
    ∃ called : List Nat, called.length ≤ 1 ∧
      Within (q.timeLeft.ends q.now) (Onward c script timer (calls ++ called) p)
        q.closeHandshake := by
  have late : Onward c script timer (calls ++ []) p (q.log .handshakeUnfinished) :=
    h.act (.notice .handshakeUnfinished) trivial
  have soon : ∀ l, q.timeLeft.ends q.now = some l → q.now ≤ l := fun l => Wait.le_of_ends
  unfold Probe.closeHandshake
  split
  next => exact ⟨[], by simp, by simpa using h, soon⟩
  next number socket _ =>
    split
    next => exact ⟨[], by simp, late, soon⟩
    next length nonneg left =>
      split
      next => exact ⟨[], by simp, late, soon⟩
      next =>
        rw [left] at soon ⊢
        exact ⟨[number], by simp, h.handshakeUntil soon number socket.script.close⟩
    next left =>
      rw [left] at soon ⊢
      exact ⟨[number], by simp, h.handshakeUntil soon number socket.script.close⟩

end Onward

/-! ### The parts of a run -/

theorem await_ok {p : Probe} {wait : Wait} {t : Time} (h : wait.ends p.now = some t) :
    p.await wait = .ok (p.advance t) := by
  simp [await, h]

theorem await_error {p : Probe} {wait : Wait} (h : wait.ends p.now = none) :
    p.await wait = .error p := by
  simp [await, h]

/-- The deadline of a run that starts at `now`. -/
def deadlineOf (c : Client) (now : Time) : Span :=
  (Span.exact now).add (Span.ofDouble c.settings.lifetime)

/-- A run starts with its session going on to its first wait. -/
theorem start_going (c : Client) (now : Time) (script : Script) :
    ((fresh c now).start script).Going c script [] ∧ ((fresh c now).start script).now = now := by
  let begun : Probe :=
    { fresh c now with deadline := some (deadlineOf c now) }.act (.becomes .connecting)
  let r := (c.session c.settings.url script).run (Scene.elapse 0) (some now) (begun.scene, [])
  have ran : r.Follows begun.scene [] (some now) _ := Activity.run_follows _ _
  obtain ⟨w, b, reached⟩ := ran
  have alone : r.others = [] := reached.others_eq
  have still : r.scene.now = now :=
    le_antisymm (reached.inTime now rfl (le_refl now)) reached.leadsTo.now_le
  have started : (fresh c now).start script = begun.after r.scene (r.stop :: r.others) := rfl
  rw [started, alone]
  refine ⟨⟨rfl, r.stop, b, w, w, rfl, reached.leaves, ?_, reached.path, ?_, now, ?_⟩, still⟩
  · intro wake woken
    have late := reached.wakes wake woken
    exact still.le.trans (not_isBefore_some_iff.mp late)
  · simpa using Woven.nil.append_left w
  · exact reached.leadsTo.trace

/-- Once its only session is done a probe just waits. -/
theorem advance_of_finished {p : Probe} (h : p.sessions = [.finished]) (t : Time) :
    p.advance t = { p with now := t } := by
  simp [advance, h, Scene.elapse_one, Stop.resume, after, scene]

/-- What a shutdown does at its end, before the state changes. -/
def Stops : Act → Prop
  | .cancelled | .aborted _ => True
  | _ => False

/-- The acts that the summary counts. -/
def Counts : Act → Prop
  | .sent _ _ | .received _ | .qrCode _ | .recorded _ => True
  | _ => False

theorem Stops.uncounted {a : Act} (h : Stops a) : ¬ Counts a := by
  cases a <;> simp_all [Stops, Counts]

/-- Other acts leave the numbers of the summary as they are. -/
theorem stats_append {t more : Trace} (h : ∀ x ∈ more, ¬ Counts x.2) :
    (t ++ more).stats = t.stats := by
  have hidden {α : Type} (f : Time × Act → Option α) (blind : ∀ x, ¬ Counts x.2 → f x = none) :
      (t ++ more).filterMap f = t.filterMap f := by
    rw [List.filterMap_append, List.filterMap_eq_nil_iff.mpr fun x inside => blind x (h x inside),
      List.append_nil]
  unfold Trace.stats Trace.sent Trace.received Trace.qrCodes Trace.errors
  rw [hidden, hidden, hidden, hidden]
  all_goals
    rintro ⟨instant, a⟩ uncounted
    cases a <;> simp [Counts] at uncounted ⊢

@[simp]
theorem cancelSession_now (p : Probe) : p.cancelSession.now = p.now := by
  unfold cancelSession
  split <;> rfl

@[simp]
theorem cancelSession_deadline (p : Probe) : p.cancelSession.deadline = p.deadline := by
  unfold cancelSession
  split <;> rfl

theorem Going.cancelSession {c : Client} {script : Script} {timer : Trace} {p : Probe}
    (h : p.Going c script timer) :
    p.cancelSession.sessions = [.finished] ∧ ∃ stops : Trace, (∀ x ∈ stops, Stops x.2) ∧
      p.cancelSession.trace = p.trace ++ stops := by
  obtain ⟨stop, -, -, -, one, -⟩ := h.session
  unfold Probe.cancelSession
  split
  next done =>
    refine ⟨?_, [], by simp, by simp⟩
    cases stop <;> simp [sessionDone, one, Stop.isFinished] at done
    exact one
  next =>
    refine ⟨by simp [one, Probe.act], [(p.now, .cancelled)], by simp [Stops], rfl⟩

theorem abortTransport_eq (p : Probe) :
    ∃ stops : Trace, (∀ x ∈ stops, Stops x.2) ∧
      p.abortTransport = { p with trace := p.trace ++ stops } := by
  unfold abortTransport
  split
  next number socket _ =>
    split
    next => exact ⟨[(p.now, .aborted number)], by simp [Stops], rfl⟩
    next => exact ⟨[], by simp, by simp⟩
  next => exact ⟨[], by simp, by simp⟩

@[simp]
theorem conclude_now (p : Probe) : p.conclude.now = p.now := by
  obtain ⟨stops, -, aborted⟩ := abortTransport_eq p.cancelSession
  simp [conclude, aborted]

@[simp]
theorem conclude_deadline (p : Probe) : p.conclude.deadline = p.deadline := by
  obtain ⟨stops, -, aborted⟩ := abortTransport_eq p.cancelSession
  simp [conclude, aborted]

/-- A shutdown ends with the session done, and with the closed state and the summary. -/
theorem Going.conclude {c : Client} {script : Script} {timer : Trace} {p : Probe}
    (h : p.Going c script timer) :
    p.conclude.sessions = [.finished] ∧ ∃ stops : Trace, (∀ x ∈ stops, Stops x.2) ∧
      p.conclude.trace = p.trace ++ stops ++
        [(p.now, .becomes .closed), (p.now, .notice (.finished p.trace.stats))] := by
  obtain ⟨alone, stops, all, cancelled⟩ := h.cancelSession
  obtain ⟨stops', all', aborted⟩ := abortTransport_eq p.cancelSession
  have both : ∀ x ∈ stops ++ stops', Stops x.2 := by
    intro x inside
    exact (List.mem_append.mp inside).elim (all x) (all' x)
  have counted : (p.trace ++ (stops ++ stops') ++
      [(p.now, Act.becomes ConnectionState.closed)]).stats = p.trace.stats := by
    rw [stats_append (by simp [Counts])]
    exact stats_append fun x inside => (both x inside).uncounted
  refine ⟨?_, stops ++ stops', both, ?_⟩
  · simp [Probe.conclude, aborted, alone, Probe.act]
  · simp only [Probe.conclude, aborted, log_eq_act, Probe.act, cancelSession_now, cancelled]
    rw [List.append_assoc p.trace, counted, List.append_assoc _ [_] [_]]
    rfl

/-- The first shutdown of a run concludes within the time left, or waits without end. -/
theorem Going.ending {c : Client} {script : Script} {timer : Trace} {p : Probe}
    (h : p.Going c script timer) (unasked : p.shutdownStarted = false) :
    ∃ (q : Probe) (calls : List Nat), calls.length ≤ 1 ∧ Onward c script timer calls p q ∧
      ((p.ending = .error q ∧ p.timeLeft.ends p.now = none) ∨
        (p.ending = .ok (exitSuccess, q.conclude) ∧
          ∀ l, p.timeLeft.ends p.now = some l → q.now ≤ l)) := by
  let begun : Probe := { p with shutdownStarted := true }.log (.shuttingDown p.state)
  have asked : Onward c script timer [] p { p with shutdownStarted := true } :=
    Onward.refl ⟨h.client_eq, h.session⟩
  have going : Onward c script timer [] p begun :=
    asked.act (.notice (.shuttingDown p.state)) trivial
  by_cases isOpen : p.state = .open
  · obtain ⟨called, few, within⟩ := going.closeHandshake
    have shutdown : p.ending =
        begun.closeHandshake.bind fun q => .ok (exitSuccess, q.conclude) := by
      unfold Probe.ending
      rw [unasked, if_neg Bool.false_ne_true, if_pos isOpen]
      rfl
    rw [shutdown]
    cases closed : begun.closeHandshake with
    | error q =>
      rw [closed] at within
      exact ⟨q, called, few, within.1, .inl ⟨rfl, within.2⟩⟩
    | ok q =>
      rw [closed] at within
      exact ⟨q, called, few, within.1, .inr ⟨rfl, within.2⟩⟩
  · refine ⟨begun, [], by simp, going, .inr ⟨?_, fun l => Wait.le_of_ends⟩⟩
    unfold Probe.ending
    rw [unasked, if_neg Bool.false_ne_true, if_neg isOpen]
    rfl

theorem timeLeft_of_deadline {p : Probe} {deadline : Span} (h : p.deadline = some deadline) :
    p.timeLeft = deadline.timeLeft p.now := by
  simp [timeLeft, h]

/-- A run whose timer is awake waits until its shutdown is due, or without end. -/
theorem Going.untilDue {c : Client} {script : Script} {timer : Trace} {p : Probe} {deadline : Span}
    (h : p.Going c script timer) (limited : p.deadline = some deadline) :
    (p.untilDue = .error p ∧ (deadline.timeLeft p.now).ends p.now = none) ∨
      ∃ q, p.untilDue = .ok q ∧ q.Going c script timer ∧ q.deadline = some deadline ∧
        q.shutdownStarted = p.shutdownStarted ∧
        (q.now = p.now ∨ (deadline.timeLeft p.now).ends p.now = some q.now) := by
  have left := timeLeft_of_deadline limited
  by_cases isOpen : p.state = .open
  · refine .inr ⟨p, ?_, h, limited, rfl, .inl rfl⟩
    simp [Probe.untilDue, isOpen]
  · have waits : p.untilDue = p.await p.timeLeft := by simp [Probe.untilDue, isOpen]
    rw [waits, left]
    cases ends : (deadline.timeLeft p.now).ends p.now with
    | none => exact .inl ⟨await_error ends, rfl⟩
    | some t =>
      have going := h.advance (Wait.le_of_ends ends)
      exact .inr ⟨p.advance t, await_ok ends, going, limited, rfl, .inr (by simp)⟩

/-- A run whose shutdown is due concludes it, and then only waits for the deadline; or else it waits
without end, before or after. -/
theorem Going.lastPart {c : Client} {script : Script} {p : Probe} {deadline : Span}
    (h : p.Going c script []) (unasked : p.shutdownStarted = false)
    (limited : p.deadline = some deadline) :
    ∃ (r : Probe) (calls : List Nat), calls.length ≤ 1 ∧ Onward c script [] calls p r ∧
      (((p.lastPart = .error r ∨ p.lastPart = .error r.conclude) ∧
          ∃ t, (deadline.timeLeft t).ends t = none) ∨
        ∃ returned, p.lastPart = .ok (exitSuccess, { r.conclude with now := returned }) ∧
          (∀ l, (deadline.timeLeft p.now).ends p.now = some l → r.now ≤ l) ∧
          (deadline.timeLeft r.now).ends r.now = some returned) := by
  obtain ⟨r, calls, few, onward, cases⟩ := h.ending unasked
  refine ⟨r, calls, few, onward, ?_⟩
  rw [timeLeft_of_deadline limited] at cases
  rcases cases with ⟨stuck, endless⟩ | ⟨concluded, inTime⟩
  · refine .inl ⟨.inl ?_, p.now, endless⟩
    unfold Probe.lastPart
    rw [stuck]
    rfl
  · obtain ⟨more, going, -, -, -, same⟩ := onward
    have left : r.conclude.timeLeft = deadline.timeLeft r.now := by
      rw [timeLeft_of_deadline (by rw [conclude_deadline, same, limited]), conclude_now]
    have last : p.lastPart = (r.conclude.await r.conclude.timeLeft).bind fun q =>
        .ok (exitSuccess, q) := by
      unfold Probe.lastPart
      rw [concluded]
      rfl
    rw [last]
    cases returned : (deadline.timeLeft r.now).ends r.now with
    | none =>
      rw [await_error (by rw [left, conclude_now]; exact returned)]
      exact .inl ⟨.inr rfl, r.now, returned⟩
    | some t =>
      rw [await_ok (by rw [left, conclude_now]; exact returned),
        advance_of_finished going.conclude.1]
      exact .inr ⟨t, rfl, inTime, rfl⟩

/-- The moments of a run: its timer first wakes at `woken`, its shutdown is due at `due` and
concludes at `concluded`, and the run returns at `returned`. -/
structure Moments (c : Client) (now woken due concluded returned : Time) : Prop where
  woken_ends : ((deadlineOf c now).untilMargin (.ofDouble (fresh c now).grace) now).ends now =
    some woken
  due_eq : due = woken ∨ ((deadlineOf c now).timeLeft woken).ends woken = some due
  due_le : due ≤ concluded
  concluded_le : ∀ l, ((deadlineOf c now).timeLeft due).ends due = some l → concluded ≤ l
  returned_ends : ((deadlineOf c now).timeLeft concluded).ends concluded = some returned

/-- Some wait of a run has no end. -/
def Endless (c : Client) (now : Time) : Prop :=
  ((deadlineOf c now).untilMargin (.ofDouble (fresh c now).grace) now).ends now = none ∨
    ∃ t, ((deadlineOf c now).timeLeft t).ends t = none

/-- A run of a fresh probe goes on until its shutdown concludes, and then only waits for the
deadline; or else it waits without end, before or after. -/
theorem course_cases (c : Client) (now : Time) (script : Script) :
    ∃ (r : Probe) (timer : Trace), r.Going c script timer ∧ (∀ x ∈ timer, Closes x.2) ∧
      timer.closeCalls.length ≤ 1 ∧
      ((((fresh c now).course script = .error r ∨ (fresh c now).course script = .error r.conclude) ∧
          Endless c now) ∨
        ∃ woken due returned, Moments c now woken due r.now returned ∧
          (fresh c now).course script =
            .ok (exitSuccess, { r.conclude with now := returned })) := by
  obtain ⟨going, still⟩ := start_going c now script
  have limited : ((fresh c now).start script).deadline = some (deadlineOf c now) := rfl
  have unasked : ((fresh c now).start script).shutdownStarted = false := rfl
  have first : ((fresh c now).start script).firstWait =
      (deadlineOf c now).untilMargin (.ofDouble (fresh c now).grace) now := by
    unfold firstWait
    rw [limited, still]
    rfl
  unfold course
  simp only
  cases waking : ((deadlineOf c now).untilMargin (.ofDouble (fresh c now).grace) now).ends now with
  | none =>
    rw [await_error (by rw [first, still]; exact waking)]
    exact ⟨_, [], going, by simp, by simp [Trace.closeCalls], .inl ⟨.inl rfl, .inl waking⟩⟩
  | some woken =>
    rw [await_ok (by rw [first, still]; exact waking)]
    have awake := going.advance (still.le.trans (Wait.le_of_ends waking))
    have still' : (((fresh c now).start script).advance woken).now = woken := advance_now _ _
    rcases awake.untilDue limited with
      ⟨stuck, endless⟩ | ⟨due, reached, going', limited', asked, at'⟩
    · refine ⟨_, [], awake, by simp, by simp [Trace.closeCalls], .inl ⟨.inl ?_, .inr ⟨_, endless⟩⟩⟩
      simp only [bind, Except.bind]
      rw [stuck]
    · obtain ⟨r, calls, few, ⟨timer, onward, closes, rfl, later, -⟩, ends⟩ :=
        going'.lastPart (asked.trans unasked) limited'
      have last : ((Except.ok (((fresh c now).start script).advance woken) : Awaited Probe).bind
          fun awake => awake.untilDue.bind fun due => due.lastPart) = due.lastPart := by
        simp only [Except.bind]
        rw [reached]
      refine ⟨r, timer, by simpa using onward, closes, few, ?_⟩
      rcases ends with ⟨stuck, endless⟩ | ⟨returned, ended, inTime, returns⟩
      · refine .inl ⟨?_, .inr endless⟩
        exact stuck.imp last.trans last.trans
      · refine .inr ⟨woken, due.now, returned, ⟨waking, ?_, later, inTime, returns⟩, ?_⟩
        · rwa [still'] at at'
        · exact last.trans ended

end Probe

end BoxProbe
