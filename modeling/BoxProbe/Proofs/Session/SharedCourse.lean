/-
Module: BoxProbe.Proofs.Session.SharedCourse
Purpose: A run that no other task shuts down is one schedule of a shared run.
Trusted boundary: none
Main exports: SharedRun.Leads, Probe.leads_resumed, Probe.Going.leads_advance,
  Probe.Going.leads_call, Probe.leads_course
-/
import BoxProbe.Proofs.Session.SharedEnds
import BoxProbe.Proofs.Session.Stretch

namespace BoxProbe

/-!
A run goes on in long stretches, from one wait of its timer to the next, with the session beside it.
The steps of a shared run are short: a session goes on to its next wait only.  A long stretch of the
session is a row of short ones with the clock moved in between, and what the timer does between two
waits is one step.
-/

/-- What is waited for after something else comes after it. -/
theorem Awaited.of_bind {α β : Type} {x : Awaited α} {f : α → Awaited β} {b : β}
    (h : x.bind f = .ok b) : ∃ a, x = .ok a ∧ f a = .ok b := by
  cases x with
  | error p => cases h
  | ok a => exact ⟨a, rfl, h⟩

/-! ### Rows of choices -/

namespace SharedRun

variable {r r' r'' : SharedRun}

/-- Some choices lead from one run to another. -/
def Leads (r r' : SharedRun) : Prop :=
  ∃ choices, r.follow choices = some r'

namespace Leads

theorem refl (r : SharedRun) : r.Leads r :=
  ⟨[], rfl⟩

theorem trans (one : r.Leads r') (two : r'.Leads r'') : r.Leads r'' := by
  obtain ⟨u, first⟩ := one
  obtain ⟨w, second⟩ := two
  refine ⟨u ++ w, ?_⟩
  have both : r.follow (u ++ w) = (r.follow u).bind fun middle => middle.follow w := by
    simp [follow, List.foldlM_append]
  rw [both, first]
  exact second

end Leads

end SharedRun

/-- A task that can go on at an instant, and not before. -/
structure TaskState.Awaits (t : Time) (task : TaskState) : Prop where
  quiet : ∀ p : Probe, p.now < t → task.step? p = none ∧ task.cutOff? p = none
  due : t ∈ task.wakes
  first : ∀ w ∈ task.wakes, t ≤ w

namespace TaskState

variable {t : Time}

theorem awaits_untilMargin (t : Time) : (untilMargin (some t)).Awaits t := by
  refine ⟨?_, by simp [wakes], by simp [wakes]⟩
  intro p early
  simp [step?, cutOff?, reached, early]

theorem awaits_untilDeadline (t : Time) : (untilDeadline (some t)).Awaits t := by
  refine ⟨?_, by simp [wakes], by simp [wakes]⟩
  intro p early
  simp [step?, cutOff?, reached, early]

theorem awaits_resting (status : Nat) (t : Time) : (resting status (some t)).Awaits t := by
  refine ⟨?_, by simp [wakes], by simp [wakes]⟩
  intro p early
  simp [step?, cutOff?, reached, early]

/-- A close handshake that has been begun waits for the first of its two instants. -/
theorem awaits_closing {limit wake : Option Time} (number : Nat) (behavior : CloseBehavior)
    (due : limit = some t ∨ wake = some t) (inTime : ∀ l, limit = some l → t ≤ l)
    (early : ∀ w, wake = some w → t ≤ w) :
    (calling true (.shaking limit (.closing wake number behavior))).Awaits t := by
  have unreached {p : Probe} (before : p.now < t) {instant : Option Time}
      (later : ∀ w, instant = some w → t ≤ w) : reached p.now instant = false := by
    cases instant with
    | none => rfl
    | some w => simpa [reached] using lt_of_lt_of_le before (later w rfl)
  refine ⟨?_, ?_, ?_⟩
  · intro p before
    simp [step?, Probe.goOn?, cutOff?, Probe.cutOff?, unreached before inTime,
      unreached before early]
  · rcases due with rfl | rfl <;> simp [wakes]
  · intro w inside
    simp only [wakes, List.mem_append, Option.mem_toList] at inside
    exact inside.elim (inTime w) (early w)

end TaskState

open SharedRun (Leads)

namespace Probe

variable {p p' : Probe} {task : TaskState} {stop : Stop} {limit : Option Time} {t : Time}

theorem leads_session (step : p.sessionStep? = some p') (tasks : List TaskState) :
    Leads ⟨p, tasks⟩ ⟨p', tasks⟩ := by
  refine ⟨[.session], ?_⟩
  simp [SharedRun.step?, step, SharedRun.follow]

theorem leads_task {x : TaskState × Probe} (step : task.step? p = some x) :
    Leads ⟨p, [task]⟩ ⟨x.2, [x.1]⟩ := by
  refine ⟨[.task 0], ?_⟩
  simp [SharedRun.step?, step, SharedRun.put, SharedRun.follow]

theorem leads_cutOff {x : TaskState × Probe} (step : task.cutOff? p = some x) :
    Leads ⟨p, [task]⟩ ⟨x.2, [x.1]⟩ := by
  refine ⟨[.cutOff 0], ?_⟩
  simp [SharedRun.step?, step, SharedRun.put, SharedRun.follow]

/-- The clock moves to the first instant that the session or the timer waits for. -/
theorem leads_tick (one : p.sessions = [stop]) (waits : stop.next? p.scene = none)
    (still : task.step? p = none ∧ task.cutOff? p = none) (inside : t ∈ stop.wakes ++ task.wakes)
    (first : ∀ w ∈ stop.wakes ++ task.wakes, t ≤ w) :
    Leads ⟨p, [task]⟩ ⟨{ p with now := t }, [task]⟩ := by
  have idle : SharedRun.isIdle ⟨p, [task]⟩ = true := by
    simp [SharedRun.isIdle, sessionStep?, one, waits, still]
  have wakes : SharedRun.wakes ⟨p, [task]⟩ = stop.wakes ++ task.wakes := by
    simp [SharedRun.wakes, one]
  have earliest : (stop.wakes ++ task.wakes).min? = some t :=
    List.min?_eq_some_iff.mpr ⟨inside, first⟩
  refine ⟨[.tick], ?_⟩
  simp [SharedRun.step?, idle, wakes, earliest, SharedRun.follow]

/-- The probe after its session has got so far. -/
def reaching (p : Probe) (r : Progress (List Stop)) : Probe :=
  p.after r.scene (r.stop :: r.others)

/-- The probe after its only session has gone on up to a limit. -/
def resumed (p : Probe) (stop : Stop) (limit : Option Time) : Probe :=
  p.reaching (stop.resume (Scene.elapse 0) limit (p.scene, []))

theorem advance_eq_resumed (one : p.sessions = [stop]) (t : Time) :
    p.advance t = { p.resumed stop (some t) with now := t } := by
  simp only [advance, one, List.length_singleton, Scene.elapse_one]
  rfl

theorem resumed_of_stay (one : p.sessions = [stop])
    (stays : stop.resume (Scene.elapse 0) limit (p.scene, []) = ⟨p.scene, [], stop⟩) :
    p.resumed stop limit = p := by
  have same : p.reaching ⟨p.scene, [], stop⟩ = { p with sessions := [stop] } := rfl
  rw [resumed, stays, same, ← one]

/-- A session that goes on at the present instant, to its next wait and then up to a limit. -/
theorem sessionStep?_resumed {a : Activity} (one : p.sessions = [stop])
    (goes : stop.next? p.scene = some a) :
    ∃ q stop', p.sessionStep? = some q ∧ q.sessions = [stop'] ∧ q.client = p.client ∧
      q.now = p.now ∧ stop'.After p.client.handlers stop ∧
      (∀ wake, stop'.wake? = some wake → q.now ≤ wake) ∧
      ∀ limit, q.resumed stop' limit =
        p.reaching (a.run (Scene.elapse 0) limit (p.scene, [])) := by
  let r := a.run (Scene.elapse 0) (some p.now) (p.scene, [])
  have followed : r.Follows p.scene [] (some p.now) a := Activity.run_follows a _
  obtain ⟨acts, b, reached⟩ := followed
  have still : r.scene.now = p.now :=
    le_antisymm (reached.inTime p.now rfl le_rfl) reached.leadsTo.now_le
  have alone : r.others = [] := reached.others_eq
  have later : r.stop.After p.client.handlers stop := ⟨p.scene, a, rfl, goes, rfl⟩
  refine ⟨p.after r.scene [r.stop], r.stop, ?_, rfl, rfl, still, later, ?_, ?_⟩
  · have ran : p.sessionStep? = some (p.after r.scene (r.stop :: r.others)) := by
      simp only [sessionStep?, one, goes]
      rfl
    rw [ran, alone]
  · intro wake woken
    have late := reached.wakes wake woken
    exact still.le.trans (not_isBefore_some_iff.mp late)
  · intro limit
    have seen : (p.after r.scene [r.stop]).scene = r.scene := by
      have same : r.scene.handlers = p.client.handlers := reached.leadsTo.handlers
      simp only [after, scene, ← same]
    have split : a.run (Scene.elapse 0) limit (p.scene, []) =
        r.stop.resume (Scene.elapse 0) limit (r.scene, r.others) :=
      Activity.run_split limit a _
    rw [split, alone, resumed, seen]
    rfl

/-- A session that is resumed up to a limit stays, or it goes on at once or at the instant that it
waits for. -/
theorem resumed_cases (one : p.sessions = [stop]) (limit : Option Time) :
    p.resumed stop limit = p ∨ ∃ w a, stop.next? { p.scene with now := w } = some a ∧
      p.resumed stop limit =
        p.reaching (a.run (Scene.elapse 0) limit ({ p.scene with now := w }, [])) ∧
      (w = p.now ∨ stop.wakes = [w] ∧ isBefore w limit = true ∧
        (p.now < w → stop.next? p.scene = none)) := by
  have stays (same : stop.resume (Scene.elapse 0) limit (p.scene, []) = ⟨p.scene, [], stop⟩) :
      p.resumed stop limit = p :=
    resumed_of_stay one same
  have unreached {wake : Time} (before : p.now < wake) :
      reached p.scene.now (some wake) = false := by
    have before' : p.scene.now < wake := before
    simpa [reached] using before'
  cases stop with
  | finished => exact .inl (stays rfl)
  | asleep wake next =>
    cases wake with
    | none => exact .inl (stays rfl)
    | some wake =>
      by_cases soon : isBefore wake limit = true
      · refine .inr ⟨wake, next, by simp [Stop.next?, reached], ?_, .inr ⟨rfl, soon, ?_⟩⟩
        · simp [resumed, Stop.resume, soon]
        · intro before
          simp [Stop.next?, unreached before]
      · exact .inl (stays (by simp [Stop.resume, soon]))
  | listening socket wake arrived closed =>
    cases isClosed : p.scene.trace.isClosed socket with
    | true =>
      refine .inr ⟨p.now, closed, by simp [Stop.next?, isClosed], ?_, .inl rfl⟩
      simp only [resumed, Stop.resume, isClosed, if_true]
      rfl
    | false =>
      cases wake with
      | none => exact .inl (stays (by simp [Stop.resume, isClosed]))
      | some wake =>
        by_cases soon : isBefore wake limit = true
        · refine .inr ⟨wake, arrived, by simp [Stop.next?, isClosed, reached], ?_,
            .inr ⟨rfl, soon, ?_⟩⟩
          · simp [resumed, Stop.resume, isClosed, soon]
          · intro before
            simp [Stop.next?, isClosed, unreached before]
        · exact .inl (stays (by simp [Stop.resume, isClosed, soon]))

/-- While its timer waits, the session goes on by itself, step by step. -/
theorem leads_resumed {h : Handlers}
    (quiet : ∀ q : Probe, isBefore q.now limit = true → q.sessionDone = false →
      task.step? q = none ∧ task.cutOff? q = none)
    (first : ∀ w ∈ task.wakes, isBefore w limit = false) (ends : Acc (Stop.After h) stop) :
    ∀ p : Probe, p.client.handlers = h → p.sessions = [stop] →
      (∀ w, stop.wake? = some w → p.now ≤ w) → (∀ l, limit = some l → p.now ≤ l) →
      Leads ⟨p, [task]⟩ ⟨p.resumed stop limit, [task]⟩ := by
  induction ends with
  | intro stop _ ih =>
    intro p handlers one wakes inTime
    rcases resumed_cases one limit with stays | ⟨w, a, goes, resumes, reach⟩
    · rw [stays]
      exact .refl _
    · have inTime' : ∀ l, limit = some l → w ≤ l := by
        rintro l rfl
        rcases reach with rfl | ⟨-, soon, -⟩
        · exact inTime l rfl
        · exact le_of_isBefore soon l rfl
      have moves : Leads ⟨p, [task]⟩ ⟨{ p with now := w }, [task]⟩ := by
        rcases reach with rfl | ⟨only, soon, waits⟩
        · exact .refl _
        · rcases eq_or_lt_of_le (wakes w (Stop.wake?_of_mem (by simp [only]))) with same | before
          · rw [← same]
            exact .refl _
          · have undone : p.sessionDone = false := by
              cases stop <;> simp [Stop.wakes] at only <;> simp [sessionDone, one, Stop.isFinished]
            apply leads_tick one (waits before) (quiet p (isBefore_of_le before.le soon) undone)
            · simp [only]
            · intro v inside
              rcases List.mem_append.mp inside with own | other
              · rw [only] at own
                exact le_of_eq (List.mem_singleton.mp own).symm
              · by_contra sooner
                have := isBefore_of_le (not_le.mp sooner).le soon
                simp [first v other] at this
      let q : Probe := { p with now := w }
      have one' : q.sessions = [stop] := one
      obtain ⟨q', stop', step, one'', client, now, after, later, same⟩ :=
        sessionStep?_resumed one' goes
      have rest : Leads ⟨q', [task]⟩ ⟨q'.resumed stop' limit, [task]⟩ := by
        have handlers' : q'.client.handlers = h := (congrArg Client.handlers client).trans handlers
        apply ih stop' (handlers ▸ after) q' handlers' one'' later
        intro l limited
        exact now.le.trans (inTime' l limited)
      rw [resumes]
      rw [same] at rest
      exact moves.trans ((leads_session step [task]).trans rest)

/-- A session that stays lets the clock move to the instant that the timer waits for. -/
theorem leads_still (one : p.sessions = [stop]) (still : stop.Still (some t) p.trace)
    (later : p.now ≤ t) (quiet : p.now < t → task.step? p = none ∧ task.cutOff? p = none)
    (due : t ∈ task.wakes) (first : ∀ w ∈ task.wakes, t ≤ w) :
    Leads ⟨p, [task]⟩ ⟨{ p with now := t }, [task]⟩ := by
  rcases eq_or_lt_of_le later with same | early
  · rw [← same]
    exact .refl _
  · have waits : stop.next? p.scene = none := still.next?_eq early
    apply leads_tick one waits (quiet early) (List.mem_append_right _ due)
    intro w inside
    rcases List.mem_append.mp inside with own | other
    · have late := still.wakes w (Stop.wake?_of_mem own)
      exact not_isBefore_some_iff.mp late
    · exact first w other

namespace Going

variable {c : Client} {script : Script} {timer : Trace}

/-- The session goes on by itself, and stays where it stops. -/
theorem resumed (h : p.Going c script timer) (one : p.sessions = [stop])
    (soon : ∀ l, limit = some l → p.now ≤ l) :
    let q := p.resumed stop limit
    q.Going c script timer ∧ (∀ l, limit = some l → q.now ≤ l) ∧
      ∃ stop', q.sessions = [stop'] ∧ stop'.Still limit q.trace ∧
        stop' = (stop.resume (Scene.elapse 0) limit (p.scene, [])).stop := by
  intro q
  obtain ⟨alone, -, inTime, moved⟩ := h.resume one soon
  have going := moved _ inTime
  have same : q = p.after (stop.resume (Scene.elapse 0) limit (p.scene, [])).scene
      [(stop.resume (Scene.elapse 0) limit (p.scene, [])).stop] := by
    simp only [q, Probe.resumed, reaching, alone]
  rw [same]
  exact ⟨going, inTime, _, rfl, Stop.resume_still limit stop p.scene [], rfl⟩

/-- While the timer waits for an instant, the session goes on up to it. -/
theorem leads_advance (h : p.Going c script timer) (later : p.now ≤ t) (waits : task.Awaits t) :
    Leads ⟨p, [task]⟩ ⟨p.advance t, [task]⟩ := by
  obtain ⟨stop, -, -, -, one, -, wakes, -⟩ := h.session
  have soon : ∀ l, some t = some l → p.now ≤ l := by simpa using later
  obtain ⟨-, inTime, stop', one', still, -⟩ := h.resumed one soon
  have stretch : Leads ⟨p, [task]⟩ ⟨p.resumed stop (some t), [task]⟩ := by
    apply leads_resumed _ _ (Stop.acc_after p.client.handlers stop) p rfl one wakes soon
    · intro q early _
      exact waits.quiet q (isBefore_some_iff.mp early)
    · intro w inside
      exact not_isBefore_some_iff.mpr (waits.first w inside)
  rw [advance_eq_resumed one]
  exact stretch.trans
    (leads_still one' still (inTime t rfl) (waits.quiet _) waits.due waits.first)

end Going

/-! ### The shutdown of the timer -/

/-- The run after a call of its timer, which is its only task. -/
def called (y : ShutdownResult × Probe) : SharedRun :=
  ⟨y.2, [(TaskState.ofResult true y).1]⟩

theorem leads_called {y : ShutdownResult × Probe}
    (step : task.step? p = some (TaskState.ofResult true y)) : Leads ⟨p, [task]⟩ (called y) := by
  have led := leads_task step
  rwa [TaskState.ofResult_snd] at led

theorem leads_goOn {s : Shutdown} {y : ShutdownResult × Probe} (step : p.goOn? s = some y) :
    Leads (called (.waits s, p)) (called y) := by
  have onward : (TaskState.calling true s).step? p = some (TaskState.ofResult true y) := by
    simp [TaskState.step?, step]
  exact leads_called onward

theorem leads_handshake_cutOff {s : Shutdown} {y : ShutdownResult × Probe}
    (step : p.cutOff? s = some y) : Leads (called (.waits s, p)) (called y) := by
  have onward : (TaskState.calling true s).cutOff? p = some (TaskState.ofResult true y) := by
    simp [TaskState.cutOff?, step]
  have led := leads_cutOff onward
  rwa [TaskState.ofResult_snd] at led

/-- The session is stopped, and the shutdown concludes. -/
theorem leads_stopSession (one : p.sessions = [stop]) :
    Leads (called p.stopSession) (called (.returns exitSuccess, p.conclude)) := by
  cases done : p.sessionDone with
  | true =>
    simp only [stopSession, done, if_true]
    exact .refl _
  | false =>
    let stopped : Probe := { p with sessions := [.asleep (some p.now) .done] }.act .cancelled
    let ended : Probe := { p with sessions := [.finished] }.act .cancelled
    have waits : p.stopSession = (.waits .cancelling, stopped) := by
      simp [stopSession, done, one, stopped]
    have step : stopped.sessionStep? = some ended := by
      simp [sessionStep?, stopped, Probe.act, Stop.next?, scene, reached, runSession, after, ended,
        Activity.run]
    have finished : ended.sessionDone = true := rfl
    have cancelled : p.cancelSession = ended := by
      simp [cancelSession, done, one, ended]
    have same : ended.conclude = p.conclude := by
      have still : ended.cancelSession = ended := by simp [cancelSession, finished]
      simp only [conclude, still, cancelled]
    have concludes : ended.goOn? .cancelling = some (.returns exitSuccess, ended.conclude) := by
      simp [goOn?, finished]
    rw [waits, ← same]
    exact (leads_session step _).trans (leads_goOn concludes)

/-- A close handshake that has been cut off is logged, and the shutdown concludes. -/
theorem leads_conclude_of_cutOff (one : p.sessions = [stop]) :
    Leads (called (.waits .cutOff, p))
      (called (.returns exitSuccess, (p.log .handshakeUnfinished).conclude)) := by
  have logged : (p.log .handshakeUnfinished).sessions = [stop] := one
  exact (leads_goOn rfl).trans (leads_stopSession logged)

namespace Going

variable {c : Client} {script : Script} {timer : Trace} {q : Probe}

theorem closeEnded (h : p.Going c script timer) (number : Nat) (behavior : CloseBehavior) :
    ∃ timer', (p.closeEnded number behavior).Going c script timer' := by
  unfold Probe.closeEnded
  split
  next f _ => exact ⟨_, h.act (.notice (.closeFailed f))⟩
  next => exact ⟨_, h.act (.closeCompleted number)⟩

/-- A close handshake that gets as far as its limit is cut off, and the shutdown concludes. -/
theorem leads_giveUp (h : p.Going c script timer) {handshake : Handshake}
    (stretch : ∀ l, limit = some l → p.now ≤ l ∧
      Leads (called (.waits (.shaking limit handshake), p))
        (called (.waits (.shaking limit handshake), p.advance l)))
    (gave : p.giveUp limit = .ok q) :
    Leads (called (.waits (.shaking limit handshake), p))
      (called (.returns exitSuccess, q.conclude)) := by
  cases limit with
  | none => cases gave
  | some l =>
    obtain ⟨later, goes⟩ := stretch l rfl
    cases gave
    have cut : (p.advance l).cutOff? (.shaking (some l) handshake) =
        some (.waits .cutOff, p.advance l) := by
      simp [cutOff?, reached]
    obtain ⟨stop, -, -, -, one, -⟩ := (h.advance later).session
    exact goes.trans ((leads_handshake_cutOff cut).trans (leads_conclude_of_cutOff one))

/-- A shutdown waits for the end of its session, and concludes then or at its limit. -/
theorem leads_awaitSession (h : p.Going c script timer) (soon : ∀ l, limit = some l → p.now ≤ l)
    (ended : p.awaitSession limit = .ok q) :
    Leads (called (.waits (.shaking limit .farewell), p))
      (called (.returns exitSuccess, q.conclude)) := by
  let task := TaskState.calling true (.shaking limit .farewell)
  have quiet : ∀ r : Probe, isBefore r.now limit = true → r.sessionDone = false →
      task.step? r = none ∧ task.cutOff? r = none := by
    intro r early undone
    have unreached : reached r.now limit = false := by
      cases limit with
      | none => rfl
      | some l => simpa [isBefore, reached] using early
    simp [task, TaskState.step?, goOn?, undone, TaskState.cutOff?, cutOff?, unreached]
  have first : ∀ w ∈ task.wakes, isBefore w limit = false := by
    intro w inside
    obtain rfl : limit = some w := by simpa [task, TaskState.wakes] using inside
    simp [isBefore]
  obtain ⟨stop, -, -, -, one, -, wakes, -⟩ := h.session
  obtain ⟨going, inTime, stop', one', still, resumes⟩ := h.resumed one soon
  have stretch : Leads ⟨p, [task]⟩ ⟨p.resumed stop limit, [task]⟩ :=
    leads_resumed quiet first (Stop.acc_after p.client.handlers stop) p rfl one wakes soon
  have awaited : p.awaitSession limit =
      if stop'.isFinished then .ok (p.resumed stop limit)
      else (p.resumed stop limit).giveUp limit := by
    simp only [awaitSession, one, resumes]
    rfl
  rw [awaited] at ended
  cases finished : stop'.isFinished with
  | true =>
    simp only [finished, if_true, Except.ok.injEq] at ended
    subst ended
    have done : (p.resumed stop limit).sessionDone = true := by simp [sessionDone, one', finished]
    have shaken : (p.resumed stop limit).goOn? (.shaking limit .farewell) =
        some (.waits .shaken, p.resumed stop limit) := by
      simp [goOn?, done]
    have concludes : Leads (called (.waits .shaken, p.resumed stop limit))
        (called (p.resumed stop limit).stopSession) :=
      leads_goOn rfl
    exact stretch.trans ((leads_goOn shaken).trans (concludes.trans (leads_stopSession one')))
  | false =>
    simp only [finished, Bool.false_eq_true, if_false] at ended
    refine stretch.trans (going.leads_giveUp ?_ ended)
    rintro l rfl
    have undone : (p.resumed stop (some l)).sessionDone = false := by
      simp [sessionDone, one', finished]
    have still' : stop'.Still (some l) (p.resumed stop (some l)).scene.trace := still
    have stays : (p.resumed stop (some l)).resumed stop' (some l) = p.resumed stop (some l) :=
      resumed_of_stay one' (still'.resume_eq [])
    refine ⟨inTime l rfl, ?_⟩
    rw [advance_eq_resumed one', stays]
    refine leads_still one' still (inTime l rfl) ?_ ?_ ?_
    · intro early
      exact quiet _ (isBefore_some_iff.mpr early) undone
    · simp [TaskState.ofResult, TaskState.wakes]
    · intro w inside
      exact not_isBefore_some_iff.mp (first w inside)

/-- A close handshake that has been begun ends, and the shutdown concludes. -/
theorem leads_handshakeUntil (h : p.Going c script timer) {number : Nat}
    {behavior : CloseBehavior} (soon : ∀ l, limit = some l → p.now ≤ l)
    (ended : p.handshakeUntil limit number behavior = .ok q) :
    Leads (called (.waits (.shaking limit (.scheduled number behavior)), p))
      (called (.returns exitSuccess, q.conclude)) := by
  let closing : Handshake := .closing (behavior.wait.ends p.now) number behavior
  let begun : Probe := p.act (.closeCalled number)
  have begins : Leads (called (.waits (.shaking limit (.scheduled number behavior)), p))
      (called (.waits (.shaking limit closing), begun)) :=
    leads_goOn rfl
  have going : begun.Going c script (timer ++ [(p.now, .closeCalled number)]) := h.act _
  have gives (late : ∀ instant, behavior.wait.ends p.now = some instant →
      isBefore instant limit = false) (gave : begun.giveUp limit = .ok q) :
      Leads (called (.waits (.shaking limit (.scheduled number behavior)), p))
        (called (.returns exitSuccess, q.conclude)) := by
    refine begins.trans (going.leads_giveUp ?_ gave)
    rintro l rfl
    refine ⟨soon l rfl, going.leads_advance (soon l rfl) ?_⟩
    apply TaskState.awaits_closing number behavior (.inl rfl)
    · rintro _ ⟨⟩
      exact le_rfl
    · intro w ends
      exact not_isBefore_some_iff.mp (late w ends)
  simp only [Probe.handshakeUntil] at ended
  cases ends : behavior.wait.ends p.now with
  | none =>
    rw [ends] at ended
    exact gives (by simp [ends]) ended
  | some instant =>
    simp only [ends] at ended
    by_cases early : isBefore instant limit = true
    · simp only [early, if_true] at ended
      have later : begun.now ≤ instant := Wait.le_of_ends ends
      have inTime : ∀ l, limit = some l → instant ≤ l := le_of_isBefore early
      have stretch : Leads (called (.waits (.shaking limit closing), begun))
          (called (.waits (.shaking limit closing), begun.advance instant)) := by
        apply going.leads_advance later
        apply TaskState.awaits_closing number behavior (.inr ends) inTime
        intro w ends'
        rw [ends, Option.some.injEq] at ends'
        exact ends'.le
      have closes : (begun.advance instant).goOn? (.shaking limit closing) =
          some (.waits (.shaking limit .farewell),
            (begun.advance instant).closeEnded number behavior) := by
        simp [goOn?, closing, reached, ends]
      obtain ⟨timer', onward⟩ := (going.advance later).closeEnded number behavior
      refine begins.trans (stretch.trans ((leads_goOn closes).trans ?_))
      apply onward.leads_awaitSession _ ended
      simpa using inTime
    · simp only [early] at ended
      apply gives _ ended
      rintro instant' same
      rw [ends, Option.some.injEq] at same
      simpa [same] using early

/-- A shutdown that has begun on an open connection closes it, and concludes. -/
theorem leads_shake (h : p.Going c script timer) (closed : p.closeHandshake = .ok q) :
    Leads (called p.shake) (called (.returns exitSuccess, q.conclude)) := by
  obtain ⟨stop, -, -, -, one, -⟩ := h.session
  have soon : ∀ l, p.timeLeft.ends p.now = some l → p.now ≤ l := fun l => Wait.le_of_ends
  unfold Probe.closeHandshake at closed
  unfold Probe.shake
  cases inUse : p.trace.socket? with
  | none =>
    simp only [inUse, Except.ok.injEq] at closed
    subst closed
    exact leads_stopSession one
  | some x =>
    obtain ⟨number, socket⟩ := x
    cases left : p.timeLeft with
    | none =>
      simp only [inUse, left, Except.ok.injEq] at closed
      subst closed
      exact leads_conclude_of_cutOff one
    | seconds length nonneg =>
      rw [left] at soon
      by_cases gone : length ≤ 0
      · simp only [inUse, left, gone, if_true, Except.ok.injEq] at closed
        subst closed
        simp only [gone, if_true]
        exact leads_conclude_of_cutOff one
      · simp only [inUse, left, gone, if_false] at closed
        simp only [gone, if_false]
        exact h.leads_handshakeUntil soon closed
    | forever =>
      rw [left] at soon
      simp only [inUse, left] at closed
      exact h.leads_handshakeUntil soon closed

/-- The first shutdown of a run goes on to its end. -/
theorem leads_call (h : p.Going c script timer) (unasked : p.shutdownStarted = false)
    {status : Nat} (ended : p.ending = .ok (status, q)) :
    Leads (called p.call) (called (.returns status, q)) := by
  let begun : Probe := { p with shutdownStarted := true }.log (.shuttingDown p.state)
  have asked : { p with shutdownStarted := true }.Going c script timer := ⟨h.client_eq, h.session⟩
  have going : begun.Going c script (timer ++ [(p.now, .notice (.shuttingDown p.state))]) :=
    asked.act _
  unfold Probe.ending at ended
  unfold Probe.call
  rw [unasked, if_neg Bool.false_ne_true] at ended ⊢
  by_cases isOpen : p.state = .open
  · rw [if_pos isOpen] at ended ⊢
    obtain ⟨r, closed, same⟩ := Awaited.of_bind ended
    cases same
    exact going.leads_shake closed
  · rw [if_neg isOpen] at ended ⊢
    cases ended
    obtain ⟨stop, -, -, -, one, -⟩ := going.session
    exact leads_stopSession one

end Going

/-! ### The run -/

theorem await_eq_ok {wait : Wait} {q : Probe} (awaited : p.await wait = .ok q) :
    ∃ t, wait.ends p.now = some t ∧ q = p.advance t := by
  cases ends : wait.ends p.now with
  | none => simp [await_error ends] at awaited
  | some t =>
    rw [await_ok ends, Except.ok.injEq] at awaited
    exact ⟨t, rfl, awaited.symm⟩

/-- Once its shutdown has concluded, the timer only waits for the deadline. -/
theorem leads_returned {status : Nat} {q : Probe} (done : p.sessions = [.finished])
    (awaited : p.await p.timeLeft = .ok q) :
    Leads (called (.returns status, p)) ⟨q, [.returned status]⟩ := by
  obtain ⟨t, ends, rfl⟩ := await_eq_ok awaited
  let task := TaskState.resting status (some t)
  have rests : called (.returns status, p) = ⟨p, [task]⟩ := by
    simp [called, TaskState.ofResult, ends, task]
  have waits : Leads ⟨p, [task]⟩ ⟨{ p with now := t }, [task]⟩ := by
    have rest := TaskState.awaits_resting status t
    exact leads_still done (.finished (some t) p.trace) (Wait.le_of_ends ends) (rest.quiet p)
      rest.due rest.first
  have returns : task.step? { p with now := t } =
      some (.returned status, { p with now := t }) := by
    simp [task, TaskState.step?, reached]
  rw [rests, advance_of_finished done]
  exact waits.trans (leads_task returns)

namespace Going

variable {c : Client} {script : Script} {timer : Trace} {q : Probe}

/-- A timer that is awake waits until the shutdown is due, and calls it. -/
theorem leads_untilDue (h : p.Going c script timer) {wake : Option Time}
    (awake : reached p.now wake = true) (due : p.untilDue = .ok q) :
    Leads ⟨p, [.untilMargin wake]⟩ (called q.call) := by
  unfold Probe.untilDue at due
  by_cases isOpen : p.state = .open
  · rw [if_pos isOpen] at due
    cases due
    apply leads_called
    simp [TaskState.step?, awake, isOpen]
  · rw [if_neg isOpen] at due
    obtain ⟨t, ends, rfl⟩ := await_eq_ok due
    let task := TaskState.untilDeadline (some t)
    have sleeps : (TaskState.untilMargin wake).step? p = some (task, p) := by
      simp [TaskState.step?, awake, isOpen, ends, task]
    have waits : Leads ⟨p, [task]⟩ ⟨p.advance t, [task]⟩ :=
      h.leads_advance (Wait.le_of_ends ends) (TaskState.awaits_untilDeadline t)
    have calls : task.step? (p.advance t) =
        some (TaskState.ofResult true (p.advance t).call) := by
      simp [task, TaskState.step?, reached]
    exact (leads_task sleeps).trans (waits.trans (leads_called calls))

/-- A run whose shutdown is due goes on to its end. -/
theorem leads_lastPart (h : p.Going c script timer) (unasked : p.shutdownStarted = false)
    {status : Nat} (ended : p.lastPart = .ok (status, q)) :
    Leads (called p.call) ⟨q, [.returned status]⟩ := by
  obtain ⟨x, concluded, last⟩ := Awaited.of_bind ended
  obtain ⟨r, calls, -, ⟨more, going, -⟩, ⟨stuck, -⟩ | ⟨concludes, -⟩⟩ := h.ending unasked
  · rw [stuck] at concluded
    cases concluded
  · obtain rfl : x = (exitSuccess, r.conclude) := by simpa [concludes] using concluded.symm
    obtain ⟨returned, awaited, same⟩ := Awaited.of_bind last
    cases same
    exact (h.leads_call unasked concluded).trans (leads_returned going.conclude.1 awaited)

end Going

/-- A run that returns is a schedule of the run that no other task shuts down: its session goes
first, and the timer whenever it can. -/
theorem leads_course (c : Client) (now : Time) (script : Script) (status : Nat) (q : Probe)
    (ended : (fresh c now).course script = .ok (status, q)) :
    ((fresh c now).share script []).Leads ⟨q, [.returned status]⟩ := by
  let shared := (fresh c now).share script []
  let started := (fresh c now).start script
  let session := c.session c.settings.url script
  have begins : Leads shared ⟨started, [.starting]⟩ := by
    have goes : (Stop.asleep (some now) session).next? shared.probe.scene = some session := by
      have elapsed : reached now (some now) = true := by simp [reached]
      exact if_pos elapsed
    have step : shared.probe.sessionStep? = some started := congrArg
      (Option.map fun a => shared.probe.runSession a []) goes
    exact leads_session step _
  obtain ⟨awake, awaited, onward⟩ := Awaited.of_bind ended
  have awaited : started.await started.firstWait = .ok awake := awaited
  obtain ⟨t, ends, rfl⟩ := await_eq_ok awaited
  obtain ⟨due, waited, last⟩ := Awaited.of_bind onward
  obtain ⟨going, -⟩ := start_going c now script
  have later : started.now ≤ t := Wait.le_of_ends ends
  let task := TaskState.untilMargin (some t)
  have starts : TaskState.starting.step? started = some (task, started) := by
    simp [TaskState.step?, ends, task]
  have waits : Leads ⟨started, [task]⟩ ⟨started.advance t, [task]⟩ :=
    going.leads_advance later (TaskState.awaits_untilMargin t)
  have calls : Leads ⟨started.advance t, [task]⟩ (called due.call) :=
    (going.advance later).leads_untilDue (by simp [reached]) waited
  have limited : (started.advance t).deadline = some (deadlineOf c now) := rfl
  rcases (going.advance later).untilDue limited with ⟨stuck, -⟩ | ⟨q', same, going', -, asked, -⟩
  · rw [waited] at stuck
    cases stuck
  · obtain rfl : due = q' := Except.ok.inj (waited.symm.trans same)
    have ends : Leads (called due.call) ⟨q, [.returned status]⟩ := going'.leads_lastPart asked last
    exact begins.trans ((leads_task starts).trans (waits.trans (calls.trans ends)))

end Probe

end BoxProbe
