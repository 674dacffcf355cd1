/-
Module: BoxProbe.Proofs.Session.Shutdowns
Purpose: What holds of a run whose probe other tasks shut down, whichever of them goes first.
Trusted boundary: none
Main exports: Trace.announcements, Probe.Attended, Probe.Phase, Probe.Comes, SharedRun.Sound,
  SharedRun.Sound.step, SharedRun.Sound.follow
-/
import BoxProbe.Proofs.Session.Settled
import BoxProbe.Session.Shared

namespace BoxProbe

/-!
The flag of a probe lets one shutdown pass.  So at every moment of a run a shutdown has not begun,
or one task is underway with it, or it is over and the probe is closed; all other calls return
without an act.  `Probe.Phase` says so, and every step of every task keeps it.
-/

/-- The state that a shutdown announces. -/
def Act.announced? : Act → Option ConnectionState
  | .notice (.shuttingDown state) => some state
  | _ => none

theorem Act.announced?_of_own {a : Act} (own : a.ofShutdown = false) : a.announced? = none := by
  cases a with
  | notice n => cases n <;> first | rfl | cases own
  | _ => rfl

/-- The announcements of shutdowns. -/
def Trace.announcements (t : Trace) : List ConnectionState :=
  t.filterMap fun x => x.2.announced?

/-- Acts of which a view shows nothing leave it as it is. -/
theorem Trace.filterMap_append_of_none {α : Type} {f : Act → Option α} {t more : Trace}
    (hidden : ∀ x ∈ more, f x.2 = none) :
    (t ++ more).filterMap (fun x => f x.2) = t.filterMap fun x => f x.2 := by
  rw [List.filterMap_append, List.filterMap_eq_nil_iff.mpr hidden, List.append_nil]

namespace Probe

variable {p p' : Probe}

/-! ### The session -/

/-- The only session of a probe obeys the watch over sessions. -/
def Attended (p : Probe) : Prop :=
  ∃ stop a stage, p.sessions = [stop] ∧ stop.Leaves a ∧ a.Obeys Stage.monitor stage

/-- The only session of a probe is done, or it has been cancelled and does nothing more. -/
def Stopped (p : Probe) : Prop :=
  p.sessions = [.finished] ∨ ∃ wake ≤ p.now, p.sessions = [.asleep (some wake) .done]

/-- A session that runs does acts of a session, at one instant. -/
theorem runSession_spec {a : Activity} {stage : Stage} (obeys : a.Obeys Stage.monitor stage) :
    ∃ acts stop, p.runSession a [] = { p with trace := p.trace ++ acts, sessions := [stop] } ∧
      (p.runSession a []).Attended ∧ ∀ x ∈ acts, x.2.ofShutdown = false := by
  let progress := a.run (Scene.elapse 0) (some p.now) (p.scene, [])
  have followed : progress.Follows p.scene [] (some p.now) a := Activity.run_follows a p.scene
  obtain ⟨acts, b, reached⟩ := followed
  have still : progress.scene.now = p.now :=
    le_antisymm (reached.inTime p.now rfl (le_refl _)) reached.leadsTo.now_le
  have same : p.runSession a [] =
      { p with trace := p.trace ++ acts, sessions := [progress.stop] } := by
    have trace : progress.scene.trace = p.trace ++ acts := reached.leadsTo.trace
    have ran : p.runSession a [] = p.after progress.scene (progress.stop :: progress.others) := rfl
    rw [ran, reached.others_eq]
    simp only [after, still, trace]
  obtain ⟨stage', accepted, obeys'⟩ := reached.path.obeys obeys
  refine ⟨acts, progress.stop, same, ?_, ?_⟩
  · rw [same]
    exact ⟨progress.stop, b, stage', rfl, reached.leaves, obeys'⟩
  · intro x inside
    exact Monitor.forall_of_watch (fun _ _ _ => Stage.not_ofShutdown_of_step) _ _ _ accepted x.2
      (List.mem_map_of_mem inside)

/-- A session that goes on runs what is left of it; one that has stopped, nothing. -/
theorem sessionStep?_eq (attended : p.Attended) (h : p.sessionStep? = some p') :
    ∃ a stage, a.Obeys Stage.monitor stage ∧ p' = p.runSession a [] ∧ (p.Stopped → a = .done) := by
  obtain ⟨stop, left, stage, one, leaves, obeys⟩ := attended
  simp only [sessionStep?, one, Option.map_eq_some_iff] at h
  obtain ⟨a, next, rfl⟩ := h
  cases leaves with
  | finished => cases next
  | asleep wake =>
    simp only [Stop.next?, Option.ite_none_right_eq_some, Option.some.injEq] at next
    obtain ⟨-, rfl⟩ := next
    refine ⟨_, stage, obeys, rfl, ?_⟩
    rintro (done | ⟨_, -, asleep⟩)
    · simp [one] at done
    · simp only [one, List.cons.injEq, Stop.asleep.injEq] at asleep
      exact asleep.1.2
  | listening socket wake wait arrived closed =>
    have never : ¬ p.Stopped := by
      rintro (done | ⟨_, -, asleep⟩)
      · simp [one] at done
      · simp [one] at asleep
    simp only [Stop.next?] at next
    split at next
    next =>
      cases next
      exact ⟨_, stage, obeys.2, rfl, fun stopped => absurd stopped never⟩
    next =>
      simp only [Option.ite_none_right_eq_some, Option.some.injEq] at next
      obtain ⟨-, rfl⟩ := next
      exact ⟨_, stage, obeys.1, rfl, fun stopped => absurd stopped never⟩

/-! ### A shutdown that is underway -/

@[simp]
theorem announcements_act (p : Probe) (a : Act) :
    (p.act a).trace.announcements = p.trace.announcements ++ a.announced?.toList := by
  cases announced : a.announced? <;> simp [act, Trace.announcements, announced]

@[simp]
theorem closeCalls_act (p : Probe) (a : Act) :
    (p.act a).trace.closeCalls = p.trace.closeCalls ++ a.closeCall?.toList := by
  cases called : a.closeCall? <;> simp [act, Trace.closeCalls, called]

theorem Attended.eq_finished (h : p.Attended) (done : p.sessionDone = true) :
    p.sessions = [.finished] := by
  obtain ⟨stop, _, _, one, -, -⟩ := h
  cases stop <;> simp [sessionDone, one, Stop.isFinished] at done
  exact one

/-- One shutdown of a probe has begun, and `close` has been called at most so many times. -/
structure Underway (closes : Nat) (p : Probe) : Prop where
  asked : p.shutdownStarted = true
  attended : p.Attended
  announced : p.trace.announcements.length = 1
  calls : p.trace.closeCalls.length ≤ closes

namespace Underway

variable {closes : Nat}

theorem mono {more : Nat} (h : Underway closes p) (le : closes ≤ more) : Underway more p :=
  ⟨h.asked, h.attended, h.announced, h.calls.trans le⟩

theorem silent (h : Underway closes p) (a : Act) (announced : a.announced? = none)
    (called : a.closeCall? = none) : Underway closes (p.act a) := by
  refine ⟨h.asked, h.attended, ?_, ?_⟩
  · simpa [announced] using h.announced
  · simpa [called] using h.calls

theorem closeCalled (h : Underway closes p) (number : Nat) :
    Underway (closes + 1) (p.act (.closeCalled number)) := by
  refine ⟨h.asked, h.attended, ?_, ?_⟩
  · simpa [Act.announced?] using h.announced
  · simpa [Act.closeCall?] using h.calls

/-- The end of a shutdown, once the session is done. -/
theorem conclude (h : Underway closes p) (done : p.sessions = [.finished]) :
    Underway closes p.conclude ∧ p.conclude.state = .closed ∧
      p.conclude.sessions = [.finished] ∧ p.conclude.client = p.client := by
  have still : p.cancelSession = p := by
    simp [cancelSession, sessionDone, done, Stop.isFinished]
  obtain ⟨stops, all, aborted⟩ := abortTransport_eq p
  have quiet : ∀ x ∈ stops, x.2.announced? = none ∧ x.2.closeCall? = none := by
    intro x inside
    have stop := all x inside
    cases a : x.2 <;> simp [a, Stops] at stop <;> exact ⟨rfl, rfl⟩
  have announced : Trace.announcements (p.trace ++ stops) = p.trace.announcements :=
    Trace.filterMap_append_of_none fun x inside => (quiet x inside).1
  have called : Trace.closeCalls (p.trace ++ stops) = p.trace.closeCalls :=
    Trace.filterMap_append_of_none fun x inside => (quiet x inside).2
  have stopped : Underway closes p.abortTransport := by
    rw [aborted]
    exact ⟨h.asked, h.attended, by rw [announced]; exact h.announced, by rw [called]; exact h.calls⟩
  have concluded : p.conclude = (p.abortTransport.act (.becomes .closed)).act
      (.notice (.finished (p.abortTransport.act (.becomes .closed)).trace.stats)) := by
    simp only [Probe.conclude, still, log_eq_act]
  rw [concluded]
  refine ⟨(stopped.silent _ rfl rfl).silent _ rfl rfl, ?_, ?_, ?_⟩
  · simp [state, Probe.act, Trace.state, Trace.stateFrom]
  · simp [Probe.act, aborted, done]
  · simp [Probe.act, aborted]

end Underway

end Probe

/-- How often a shutdown that waits may have called `close`. -/
def Shutdown.closes : Shutdown → Nat
  | .shaking _ (.scheduled _ _) => 0
  | _ => 1

/-- The shutdown that waits after a call. -/
def ShutdownResult.waiting : ShutdownResult → List Shutdown
  | .waits s => [s]
  | .returns _ => []

namespace Probe

variable {p p' : Probe}

/-- How far the shutdown of a probe has got, and the shutdowns that wait. -/
inductive Phase (p : Probe) : List Shutdown → Prop where
  | unasked (asked : p.shutdownStarted = false) (announced : p.trace.announcements = [])
      (calls : p.trace.closeCalls = []) : Phase p []
  | underway {s : Shutdown} (h : Underway s.closes p) (stopped : s = .cancelling → p.Stopped) :
      Phase p [s]
  | concluded (h : Underway 1 p) (closed : p.state = .closed) (done : p.sessions = [.finished]) :
      Phase p []

/-- What a shutdown comes to that goes on from a probe. -/
structure Comes (p : Probe) (x : ShutdownResult × Probe) : Prop where
  client : x.2.client = p.client
  deadline : x.2.deadline = p.deadline
  asked : x.2.shutdownStarted = true
  attended : x.2.Attended
  phase : x.2.Phase x.1.waiting
  status : ∀ status, x.1 = .returns status → status = exitSuccess

namespace Underway

variable {s : Shutdown}

theorem waits (h : Underway s.closes p') (client : p'.client = p.client)
    (deadline : p'.deadline = p.deadline) (stopped : s = .cancelling → p'.Stopped) :
    p.Comes (.waits s, p') :=
  ⟨client, deadline, h.asked, h.attended, .underway h stopped, fun _ same => by cases same⟩

theorem concludes (h : Underway 1 p) (done : p.sessions = [.finished]) :
    p.Comes (.returns exitSuccess, p.conclude) := by
  obtain ⟨onward, closed, finished, client⟩ := h.conclude done
  refine ⟨client, conclude_deadline p, onward.asked, onward.attended,
    .concluded onward closed finished, ?_⟩
  rintro status same
  cases same
  rfl

/-- Behind its close handshake a shutdown concludes, or it cancels the session first. -/
theorem stopSession (h : Underway 1 p) : p.Comes p.stopSession := by
  unfold Probe.stopSession
  by_cases done : p.sessionDone = true
  · rw [if_pos done]
    exact h.concludes (h.attended.eq_finished done)
  · rw [if_neg done]
    obtain ⟨stop, _, stage, one, -, -⟩ := h.attended
    let stop : Stop := .asleep (some p.now) .done
    have cancelled : Underway 1 { p with sessions := stop :: p.sessions.drop 1 } := by
      refine ⟨h.asked, ⟨stop, .done, stage, ?_, .asleep _ _, trivial⟩, h.announced, h.calls⟩
      simp [one]
    refine waits (s := .cancelling) (cancelled.silent _ rfl rfl) rfl rfl ?_
    intro _
    exact .inr ⟨p.now, le_refl _, by simp [Probe.act, one]⟩

/-- Every step of a shutdown that is underway keeps it so, or ends it. -/
theorem goOn (h : Underway s.closes p) {x : ShutdownResult × Probe} (step : p.goOn? s = some x) :
    p.Comes x := by
  cases s with
  | shaking limit handshake =>
    cases handshake with
    | scheduled number behavior =>
      cases step
      exact waits (h.closeCalled number) rfl rfl (by simp)
    | closing wake number behavior =>
      simp only [goOn?, Option.ite_none_right_eq_some, Option.some.injEq] at step
      obtain ⟨-, rfl⟩ := step
      unfold closeEnded
      cases behavior.failure with
      | none => exact waits (h.silent _ rfl rfl) rfl rfl (by simp)
      | some f => exact waits (h.silent _ rfl rfl) rfl rfl (by simp)
    | farewell =>
      simp only [goOn?, Option.ite_none_right_eq_some, Option.some.injEq] at step
      obtain ⟨-, rfl⟩ := step
      exact waits (s := .shaken) h rfl rfl (by simp)
  | shaken =>
    cases step
    exact h.stopSession
  | cutOff =>
    cases step
    have logged := (h.silent (.notice .handshakeUnfinished) rfl rfl).stopSession
    exact ⟨logged.client, logged.deadline, logged.asked, logged.attended, logged.phase,
      logged.status⟩
  | cancelling =>
    simp only [goOn?, Option.ite_none_right_eq_some, Option.some.injEq] at step
    obtain ⟨done, rfl⟩ := step
    exact h.concludes (h.attended.eq_finished done)

/-- A close handshake that is cut off is underway still. -/
theorem cutOff (h : Underway s.closes p) {x : ShutdownResult × Probe}
    (step : p.cutOff? s = some x) : p.Comes x := by
  cases s with
  | shaking limit handshake =>
    simp only [cutOff?, Option.ite_none_right_eq_some, Option.some.injEq] at step
    obtain ⟨-, rfl⟩ := step
    have few : (Shutdown.shaking limit handshake).closes ≤ 1 := by
      cases handshake <;> simp [Shutdown.closes]
    exact waits (s := .cutOff) (h.mono few) rfl rfl (by simp)
  | _ => cases step

end Underway

/-- A shutdown that has just begun waits for its close handshake, or stops the session. -/
theorem Underway.shake (h : Underway 0 p) : p.Comes p.shake := by
  have stops : p.Comes p.stopSession := (h.mono (Nat.zero_le 1)).stopSession
  have cut : p.Comes (.waits .cutOff, p) :=
    waits (s := .cutOff) (h.mono (Nat.zero_le 1)) rfl rfl (by simp)
  have shakes (limit : Option Time) (number : Nat) (behavior : CloseBehavior) :
      p.Comes (.waits (.shaking limit (.scheduled number behavior)), p) :=
    waits (s := .shaking limit (.scheduled number behavior)) h rfl rfl (by simp)
  unfold Probe.shake
  split
  next => exact stops
  next =>
    split
    next => exact cut
    next =>
      split
      next => exact cut
      next => exact shakes _ _ _
    next => exact shakes _ _ _

/-- The first call begins a shutdown. -/
theorem comes_call (attended : p.Attended) (asked : p.shutdownStarted = false)
    (announced : p.trace.announcements = []) (calls : p.trace.closeCalls = []) :
    p.Comes p.call := by
  let begun : Probe := { p with shutdownStarted := true }.act (.notice (.shuttingDown p.state))
  have h : Underway 0 begun := by
    refine ⟨rfl, attended, ?_, ?_⟩
    · simp [begun, announced, Act.announced?]
    · simp [begun, calls, Act.closeCall?]
  have same {x : ShutdownResult × Probe} (came : begun.Comes x) : p.Comes x :=
    ⟨came.client, came.deadline, came.asked, came.attended, came.phase, came.status⟩
  unfold Probe.call
  rw [if_neg (by simp [asked])]
  simp only [log_eq_act]
  split
  next => exact same h.shake
  next => exact same (h.mono (Nat.zero_le 1)).stopSession

end Probe

/-! ### Tasks -/

namespace TaskState

/-- The shutdown that a task waits in. -/
def shutdown? : TaskState → Option Shutdown
  | .calling _ s => some s
  | _ => none

/-- A call that has returned has found the flag set, or has set it, and has returned zero. -/
def Fits (asked : Bool) : TaskState → Prop
  | .resting status _ | .returned status => asked = true ∧ status = exitSuccess
  | _ => True

variable {p : Probe} {task : TaskState} {timer : Bool}

theorem ofResult_snd (y : ShutdownResult × Probe) : (ofResult timer y).2 = y.2 := by
  obtain ⟨result, q⟩ := y
  cases result <;> rfl

theorem shutdown?_ofResult (y : ShutdownResult × Probe) :
    (ofResult timer y).1.shutdown?.toList = y.1.waiting := by
  obtain ⟨result, q⟩ := y
  cases result with
  | waits s => rfl
  | returns status => cases timer <;> rfl

theorem fits_ofResult {y : ShutdownResult × Probe}
    (zero : ∀ status, y.1 = .returns status → status = exitSuccess) :
    (ofResult timer y).1.Fits true := by
  obtain ⟨result, q⟩ := y
  cases result with
  | waits s => trivial
  | returns status => cases timer <;> exact ⟨rfl, zero status rfl⟩

/-- What a task does when it goes on: it waits for something else, it calls `shutdown`, or its
shutdown goes on. -/
theorem step_cases {x : TaskState × Probe} (h : task.step? p = some x) :
    (x.2 = p ∧ task.shutdown? = none ∧ x.1.shutdown? = none ∧
        ∀ asked, task.Fits asked → x.1.Fits asked) ∨
      (task.shutdown? = none ∧ ∃ timer, x = ofResult timer p.call) ∨
      ∃ timer s y, task = .calling timer s ∧ p.goOn? s = some y ∧ x = ofResult timer y := by
  cases task with
  | starting =>
    cases h
    exact .inl ⟨rfl, rfl, rfl, fun _ fits => fits⟩
  | untilMargin wake =>
    simp only [step?, Option.ite_none_right_eq_some] at h
    obtain ⟨-, h⟩ := h
    split at h
    next =>
      cases h
      exact .inr (.inl ⟨rfl, true, rfl⟩)
    next =>
      cases h
      exact .inl ⟨rfl, rfl, rfl, fun _ fits => fits⟩
  | untilDeadline wake =>
    simp only [step?, Option.ite_none_right_eq_some, Option.some.injEq] at h
    exact .inr (.inl ⟨rfl, true, h.2.symm⟩)
  | before instant =>
    simp only [step?, Option.ite_none_right_eq_some, Option.some.injEq] at h
    exact .inr (.inl ⟨rfl, false, h.2.symm⟩)
  | calling timer s =>
    simp only [step?, Option.map_eq_some_iff] at h
    obtain ⟨y, step, rfl⟩ := h
    exact .inr (.inr ⟨timer, s, y, rfl, step, rfl⟩)
  | resting status wake =>
    simp only [step?, Option.ite_none_right_eq_some, Option.some.injEq] at h
    obtain ⟨-, rfl⟩ := h
    exact .inl ⟨rfl, rfl, rfl, fun _ fits => fits⟩
  | returned status => cases h

/-- A task whose instant is reached can go on, or its close handshake can be cut off. -/
theorem ready_of_wakes {wake : Time} (inside : wake ∈ task.wakes) (past : wake ≤ p.now) :
    (task.step? p).isSome ∨ (task.cutOff? p).isSome := by
  have elapsed : reached p.now (some wake) = true := by simp [reached, past]
  cases task with
  | starting => exact .inl rfl
  | untilMargin wake? =>
    obtain rfl : wake? = some wake := by simpa [wakes] using inside
    left
    simp only [step?, elapsed, if_true]
    split <;> rfl
  | untilDeadline wake? =>
    obtain rfl : wake? = some wake := by simpa [wakes] using inside
    left
    simp [step?, elapsed]
  | before instant =>
    obtain rfl : wake = instant := by simpa [wakes] using inside
    left
    simp [step?, past]
  | calling timer s =>
    cases s with
    | shaking limit handshake =>
      have limited : limit = some wake ∨ ∃ number behavior,
          handshake = .closing (some wake) number behavior := by
        cases handshake with
        | closing wake? number behavior =>
          rcases List.mem_append.mp inside with first | second
          · exact .inl (by simpa using first)
          · exact .inr ⟨number, behavior, by simpa using second⟩
        | _ => exact .inl (by simpa [wakes] using inside)
      rcases limited with rfl | ⟨number, behavior, rfl⟩
      · right
        simp [cutOff?, Probe.cutOff?, elapsed]
      · left
        simp [step?, Probe.goOn?, elapsed]
    | _ => cases inside
  | resting status wake? =>
    obtain rfl : wake? = some wake := by simpa [wakes] using inside
    left
    simp [step?, elapsed]
  | returned status => cases inside

end TaskState

/-! ### The run -/

namespace SharedRun

variable {c : Client} {D : Span} {r r' : SharedRun}

/-- The shutdowns that wait. -/
def shutdowns (r : SharedRun) : List Shutdown :=
  r.tasks.filterMap TaskState.shutdown?

theorem isIdle_iff : r.isIdle = true ↔ r.probe.sessionStep? = none ∧
    ∀ task ∈ r.tasks, task.step? r.probe = none ∧ task.cutOff? r.probe = none := by
  simp [isIdle]

/-- While no task can go on, all of them wait for later instants. -/
theorem lt_of_idle (idle : r.isIdle = true) {wake : Time} (inside : wake ∈ r.wakes) :
    r.probe.now < wake := by
  obtain ⟨still, stills⟩ := isIdle_iff.mp idle
  by_contra past
  rw [not_lt] at past
  have elapsed : reached r.probe.now (some wake) = true := by simp [reached, past]
  rcases List.mem_append.mp inside with session | task
  · obtain ⟨stop, member, waits⟩ := List.mem_flatMap.mp session
    cases sessions : r.probe.sessions with
    | nil => simp [sessions] at member
    | cons newest earlier =>
      obtain rfl : stop = newest := by simpa [sessions] using member
      simp only [Probe.sessionStep?, sessions, Option.map_eq_none_iff] at still
      cases stop with
      | finished => cases waits
      | asleep wake? next =>
        obtain rfl : wake? = some wake := by simpa [Stop.wakes] using waits
        simp [Stop.next?, Probe.scene, elapsed] at still
      | listening socket wake? arrived closed =>
        obtain rfl : wake? = some wake := by simpa [Stop.wakes] using waits
        simp only [Stop.next?, Probe.scene, elapsed] at still
        split at still <;> cases still
  · obtain ⟨state, member, waits⟩ := List.mem_flatMap.mp task
    obtain ⟨none, none'⟩ := stills state member
    rcases TaskState.ready_of_wakes waits past with ready | ready
    · simp [none] at ready
    · simp [none'] at ready

/-- What can happen next: the session goes on, or a task does, or the close handshake that a task
waits for is cut off, or the clock moves on. -/
theorem step_cases {choice : Choice} (h : r.step? choice = some r') :
    (∃ p, r.probe.sessionStep? = some p ∧ r' = { r with probe := p }) ∨
      (∃ i task x, r.tasks[i]? = some task ∧
        (task.step? r.probe = some x ∨ task.cutOff? r.probe = some x) ∧ r' = r.put i x) ∨
      ∃ t, r.isIdle = true ∧ r.wakes.min? = some t ∧
        r' = { r with probe := { r.probe with now := t } } := by
  cases choice with
  | session =>
    simp only [step?, Option.map_eq_some_iff] at h
    obtain ⟨p, step, rfl⟩ := h
    exact .inl ⟨p, step, rfl⟩
  | task i =>
    simp only [step?, Option.bind_eq_some_iff, Option.map_eq_some_iff] at h
    obtain ⟨task, found, x, step, rfl⟩ := h
    exact .inr (.inl ⟨i, task, x, found, .inl step, rfl⟩)
  | cutOff i =>
    simp only [step?, Option.bind_eq_some_iff, Option.map_eq_some_iff] at h
    obtain ⟨task, found, x, step, rfl⟩ := h
    exact .inr (.inl ⟨i, task, x, found, .inr step, rfl⟩)
  | tick =>
    simp only [step?, Option.ite_none_right_eq_some, Option.map_eq_some_iff] at h
    obtain ⟨idle, t, earliest, rfl⟩ := h
    exact .inr (.inr ⟨t, idle, earliest, rfl⟩)

theorem put_tasks {i : Nat} {task : TaskState} (found : r.tasks[i]? = some task)
    (x : TaskState × Probe) :
    ∃ u v, r.tasks = u ++ task :: v ∧ (r.put i x).tasks = u ++ x.1 :: v := by
  obtain ⟨inside, same⟩ := List.getElem?_eq_some_iff.mp found
  refine ⟨r.tasks.take i, r.tasks.drop (i + 1), ?_, ?_⟩
  · rw [← same, ← List.drop_eq_getElem_cons inside, List.take_append_drop]
  · rw [put, List.set_eq_take_append_cons_drop, if_pos inside]

theorem shutdowns_put {i : Nat} {task : TaskState} (found : r.tasks[i]? = some task)
    (x : TaskState × Probe) :
    ∃ u v, r.shutdowns = u ++ task.shutdown?.toList ++ v ∧
      (r.put i x).shutdowns = u ++ x.1.shutdown?.toList ++ v := by
  obtain ⟨u, v, before, after⟩ := put_tasks found x
  have shown (state : TaskState) : (u ++ state :: v).filterMap TaskState.shutdown? =
      u.filterMap TaskState.shutdown? ++ state.shutdown?.toList ++
        v.filterMap TaskState.shutdown? := by
    cases s : state.shutdown? <;> simp [s]
  refine ⟨u.filterMap TaskState.shutdown?, v.filterMap TaskState.shutdown?, ?_, ?_⟩
  · rw [shutdowns, before, shown]
  · rw [shutdowns, after, shown]

/-- What holds at every moment of a run: at most one shutdown is underway, and all calls that have
returned have returned zero. -/
structure Sound (c : Client) (D : Span) (r : SharedRun) : Prop where
  client : r.probe.client = c
  deadline : r.probe.deadline = some D
  attended : r.probe.Attended
  phase : r.probe.Phase r.shutdowns
  fits : ∀ task ∈ r.tasks, task.Fits r.probe.shutdownStarted

namespace Sound

/-- A task has gone on to another state, and the probe is as it was. -/
theorem put_task (h : Sound c D r) {i : Nat} {task next : TaskState}
    (found : r.tasks[i]? = some task) (silent : task.shutdown? = none)
    (silent' : next.shutdown? = none) (fits : next.Fits r.probe.shutdownStarted) :
    Sound c D (r.put i (next, r.probe)) := by
  obtain ⟨u, v, before, after⟩ := shutdowns_put found (next, r.probe)
  refine ⟨h.client, h.deadline, h.attended, ?_, ?_⟩
  · rw [after, silent', ← silent, ← before]
    exact h.phase
  · intro state inside
    rcases List.mem_or_eq_of_mem_set inside with old | rfl
    · exact h.fits state old
    · exact fits

/-- The only shutdown that waits, or the first one, has gone on. -/
theorem put_result (h : Sound c D r) {i : Nat} {task : TaskState} (found : r.tasks[i]? = some task)
    (alone : r.shutdowns = task.shutdown?.toList) {y : ShutdownResult × Probe}
    (came : r.probe.Comes y) (timer : Bool) :
    Sound c D (r.put i (TaskState.ofResult timer y)) := by
  obtain ⟨u, v, before, after⟩ := shutdowns_put found (TaskState.ofResult timer y)
  have sides : u = [] ∧ v = [] := by
    have lengths := congrArg List.length (before.symm.trans alone)
    simp only [List.length_append] at lengths
    exact ⟨List.length_eq_zero_iff.mp (by omega), List.length_eq_zero_iff.mp (by omega)⟩
  have probe : (r.put i (TaskState.ofResult timer y)).probe = y.2 := TaskState.ofResult_snd y
  refine ⟨?_, ?_, ?_, ?_, ?_⟩
  · rw [probe, came.client, h.client]
  · rw [probe, came.deadline, h.deadline]
  · rw [probe]
    exact came.attended
  · rw [probe, after, sides.1, sides.2, TaskState.shutdown?_ofResult]
    simpa using came.phase
  · rw [probe, came.asked]
    intro state inside
    rcases List.mem_or_eq_of_mem_set inside with old | rfl
    · have fits := h.fits state old
      cases state <;> first | trivial | exact ⟨rfl, fits.2⟩
    · exact TaskState.fits_ofResult came.status

/-- A task that waits in a shutdown is the only one. -/
theorem underway (h : Sound c D r) {i : Nat} {timer : Bool} {s : Shutdown}
    (found : r.tasks[i]? = some (.calling timer s)) :
    r.shutdowns = [s] ∧ r.probe.Underway s.closes ∧ (s = .cancelling → r.probe.Stopped) := by
  have inside : s ∈ r.shutdowns :=
    List.mem_filterMap.mpr ⟨_, List.mem_of_getElem? found, rfl⟩
  have phase := h.phase
  generalize r.shutdowns = waiting at inside phase ⊢
  cases phase with
  | unasked => cases inside
  | underway onward stopped =>
    obtain rfl := List.mem_singleton.mp inside
    exact ⟨rfl, onward, stopped⟩
  | concluded => cases inside

/-- A call finds the flag set and returns, or else it begins the only shutdown. -/
theorem call (h : Sound c D r) {i : Nat} {task : TaskState} (found : r.tasks[i]? = some task)
    (silent : task.shutdown? = none) (timer : Bool) :
    Sound c D (r.put i (TaskState.ofResult timer r.probe.call)) := by
  cases asked : r.probe.shutdownStarted with
  | true =>
    have returned : r.probe.call = (.returns exitSuccess, r.probe) := by simp [Probe.call, asked]
    rw [returned]
    cases timer with
    | true => exact h.put_task found silent rfl ⟨asked, rfl⟩
    | false => exact h.put_task found silent rfl ⟨asked, rfl⟩
  | false =>
    have first : r.shutdowns = [] ∧ r.probe.Comes r.probe.call := by
      have phase := h.phase
      generalize r.shutdowns = waiting at phase ⊢
      cases phase with
      | unasked _ announced calls =>
        exact ⟨rfl, Probe.comes_call h.attended asked announced calls⟩
      | underway onward _ =>
        rw [onward.asked] at asked
        cases asked
      | concluded onward _ _ =>
        rw [onward.asked] at asked
        cases asked
    exact h.put_result found (by rw [first.1, silent]; rfl) first.2 timer

/-- The session goes on, which is nothing to shutdowns. -/
theorem session (h : Sound c D r) {p : Probe} (step : r.probe.sessionStep? = some p) :
    Sound c D { r with probe := p } := by
  obtain ⟨a, stage, obeys, rfl, stopped⟩ := Probe.sessionStep?_eq h.attended step
  obtain ⟨acts, stop, same, attended, own⟩ := Probe.runSession_spec (p := r.probe) obeys
  have announced : Trace.announcements (r.probe.trace ++ acts) = r.probe.trace.announcements := by
    apply Trace.filterMap_append_of_none
    intro x inside
    exact Act.announced?_of_own (own x inside)
  have calls : Trace.closeCalls (r.probe.trace ++ acts) = r.probe.trace.closeCalls := by
    apply Trace.filterMap_append_of_none
    intro x inside
    exact Act.closeCall?_of_own (own x inside)
  refine ⟨?_, ?_, attended, ?_, ?_⟩
  · simp only [same]
    exact h.client
  · simp only [same]
    exact h.deadline
  · have phase := h.phase
    change Probe.Phase _ r.shutdowns
    generalize r.shutdowns = waiting at phase ⊢
    cases phase with
    | unasked asked none none' =>
      apply Probe.Phase.unasked
      · simpa only [same] using asked
      · simpa only [same, announced] using none
      · simpa only [same, calls] using none'
    | @underway s onward ends =>
      apply Probe.Phase.underway
      · refine ⟨?_, attended, ?_, ?_⟩
        · simpa only [same] using onward.asked
        · simpa only [same, announced] using onward.announced
        · simpa only [same, calls] using onward.calls
      · intro cancelling
        rw [stopped (ends cancelling)]
        exact .inl rfl
    | concluded onward closed done =>
      simp [Probe.sessionStep?, done, Stop.next?] at step
  · simpa only [same] using h.fits

/-- The clock moves on. -/
theorem tick (h : Sound c D r) (idle : r.isIdle = true) {t : Time}
    (earliest : r.wakes.min? = some t) :
    Sound c D { r with probe := { r.probe with now := t } } := by
  have later : r.probe.now ≤ t := le_of_lt (lt_of_idle idle (List.min?_mem earliest))
  refine ⟨h.client, h.deadline, h.attended, ?_, h.fits⟩
  have phase := h.phase
  change Probe.Phase _ r.shutdowns
  generalize r.shutdowns = waiting at phase ⊢
  cases phase with
  | unasked asked none none' => exact .unasked asked none none'
  | underway onward ends =>
    refine .underway ⟨onward.asked, onward.attended, onward.announced, onward.calls⟩ ?_
    intro cancelling
    rcases ends cancelling with done | ⟨wake, past, asleep⟩
    · exact .inl done
    · exact .inr ⟨wake, past.trans later, asleep⟩
  | concluded onward closed done =>
    exact .concluded ⟨onward.asked, onward.attended, onward.announced, onward.calls⟩ closed done

/-- A task goes on. -/
theorem task (h : Sound c D r) {i : Nat} {task : TaskState} {x : TaskState × Probe}
    (found : r.tasks[i]? = some task) (step : task.step? r.probe = some x) :
    Sound c D (r.put i x) := by
  rcases TaskState.step_cases step with
    ⟨same, silent, silent', fits⟩ | ⟨silent, timer, rfl⟩ | ⟨timer, s, y, rfl, onward, rfl⟩
  · obtain ⟨next, p⟩ := x
    obtain rfl : p = r.probe := same
    exact h.put_task found silent silent' (fits _ (h.fits task (List.mem_of_getElem? found)))
  · exact h.call found silent timer
  · obtain ⟨alone, underway, -⟩ := h.underway found
    exact h.put_result found alone (underway.goOn onward) timer

/-- The close handshake is cut off that a task waits for. -/
theorem cutOff (h : Sound c D r) {i : Nat} {task : TaskState} {x : TaskState × Probe}
    (found : r.tasks[i]? = some task) (step : task.cutOff? r.probe = some x) :
    Sound c D (r.put i x) := by
  cases task with
  | calling timer s =>
    simp only [TaskState.cutOff?, Option.map_eq_some_iff] at step
    obtain ⟨y, cut, rfl⟩ := step
    obtain ⟨alone, underway, -⟩ := h.underway found
    exact h.put_result found alone (underway.cutOff cut) timer
  | _ => cases step

/-- Whatever happens next keeps what holds of a run. -/
theorem step (h : Sound c D r) {choice : Choice} (step : r.step? choice = some r') :
    Sound c D r' := by
  rcases step_cases step with
    ⟨p, goes, rfl⟩ | ⟨i, task, x, found, goes | cut, rfl⟩ | ⟨t, idle, earliest, rfl⟩
  · exact h.session goes
  · exact h.task found goes
  · exact h.cutOff found cut
  · exact h.tick idle earliest

end Sound

theorem follow_cons (choice : Choice) (rest : List Choice) :
    r.follow (choice :: rest) = (r.step? choice).bind fun r' => r'.follow rest := rfl

/-- What every step keeps, all choices keep. -/
theorem follow_induct {P : SharedRun → Prop}
    (kept : ∀ r choice r', P r → r.step? choice = some r' → P r') (choices : List Choice) :
    ∀ {r r' : SharedRun}, P r → r.follow choices = some r' → P r' := by
  induction choices with
  | nil =>
    intro r r' holds done
    cases done
    exact holds
  | cons choice rest ih =>
    intro r r' holds followed
    rw [follow_cons, Option.bind_eq_some_iff] at followed
    obtain ⟨middle, first, onward⟩ := followed
    exact ih (kept r choice middle holds first) onward

theorem Sound.follow {choices : List Choice} (h : Sound c D r)
    (followed : r.follow choices = some r') : Sound c D r' :=
  follow_induct (fun _ _ _ h step => h.step step) choices h followed

/-- A run starts sound. -/
theorem sound_share (c : Client) (now : Time) (script : Script) (instants : List Time) :
    Sound c (Probe.deadlineOf c now) ((Probe.fresh c now).share script instants) := by
  have none : ((Probe.fresh c now).share script instants).shutdowns = [] := by
    apply List.filterMap_eq_nil_iff.mpr
    intro task inside
    rcases List.mem_cons.mp inside with rfl | inside
    · rfl
    · obtain ⟨instant, -, rfl⟩ := List.mem_map.mp inside
      rfl
  refine ⟨rfl, rfl, ?_, ?_, ?_⟩
  · exact ⟨_, _, _, rfl, .asleep _ _, Client.session_obeys c.settings.url script⟩
  · rw [none]
    exact .unasked rfl rfl rfl
  · intro task inside
    rcases List.mem_cons.mp inside with rfl | inside
    · trivial
    · obtain ⟨instant, -, rfl⟩ := List.mem_map.mp inside
      trivial

end SharedRun

end BoxProbe
