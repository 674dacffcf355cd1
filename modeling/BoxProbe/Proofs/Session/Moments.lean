/-
Module: BoxProbe.Proofs.Session.Moments
Purpose: What a watch knows of a session at every moment of a run, whoever shuts the probe down.
Trusted boundary: none
Main exports: Probe.Moment, Probe.Moment.of_course, Probe.Asides, Probe.Adds, SharedRun.step_adds,
  Probe.Moment.induct, Probe.CutOffSince, Probe.StaysAt, Probe.Watched, Probe.Moment.watched
-/
import BoxProbe.Proofs.Session.SharedCourse
import BoxProbe.Proofs.Session.Watch

namespace BoxProbe

/-!
At any moment of a run the probe is attended by its session, or the session has been cut off by a
shutdown.  A session that was cut off had been resting somewhere, and had not been due before the
cut.  Only the session does acts that a watch looks at, so a watch which it heeds knows where.
-/

/-- What is shown of a result is shown of something that was waited for. -/
theorem Awaited.of_shown {α β : Type} {x : Awaited α} {f : α → β} {b : β}
    (h : x.toOption.map f = some b) : ∃ a, x = .ok a ∧ f a = b := by
  cases x with
  | error p => cases h
  | ok a => exact ⟨a, rfl, Option.some.inj h⟩

namespace Probe

/-- A probe at some moment of a run on a connection: tasks other than the timer may shut it down at
any instants, and whatever can go on may be the next to do so. -/
def Moment (c : Client) (now : Time) (script : Script) (p : Probe) : Prop :=
  ∃ instants choices r,
    ((fresh c now).share script instants).follow choices = some r ∧ r.probe = p

/-- A run that is shut down at some instants, after whatever has happened. -/
def Reached (c : Client) (now : Time) (script : Script) (r : SharedRun) : Prop :=
  ∃ instants choices, ((fresh c now).share script instants).follow choices = some r

theorem Reached.moment {c : Client} {now : Time} {script : Script} {r : SharedRun}
    (h : Reached c now script r) : Moment c now script r.probe := by
  obtain ⟨instants, choices, followed⟩ := h
  exact ⟨instants, choices, r, followed, rfl⟩

theorem Reached.step {c : Client} {now : Time} {script : Script} {r r' : SharedRun}
    {choice : Choice} (h : Reached c now script r) (step : r.step? choice = some r') :
    Reached c now script r' := by
  obtain ⟨instants, choices, followed⟩ := h
  refine ⟨instants, choices ++ [choice], ?_⟩
  simp only [SharedRun.follow, List.foldlM_append] at followed ⊢
  simp [followed, step]

/-- A run that returns does so at a moment. -/
theorem Moment.of_course {c : Client} {now : Time} {script : Script} {status : Nat} {q : Probe}
    (ended : (fresh c now).course script = .ok (status, q)) : Moment c now script q := by
  obtain ⟨choices, followed⟩ := leads_course c now script status q ended
  exact ⟨[], choices, _, followed, rfl⟩

variable {p p' p'' : Probe}

/-! ### What a shutdown adds -/

/-- The acts that a shutdown does beside a session.  It logs the summary of what has happened, once
the session is done. -/
def Aside (p : Probe) : Act → Prop
  | .notice (.finished stats) => p.sessionDone = true ∧ stats = p.trace.stats
  | .becomes state => state = .closed
  | a => a.ofShutdown = true

theorem Aside.isAside {a : Act} (h : p.Aside a) : a.isAside = true := by
  cases a with
  | notice n => cases n <;> first | rfl | cases h
  | _ => first | rfl | cases h

theorem Aside.uncounted {a : Act} (h : p.Aside a) : ¬ Counts a := by
  cases a <;> first | exact not_false | cases h

/-- Some acts of a shutdown at the present instant, which leave the session as it is. -/
structure Asides (p p' : Probe) : Prop where
  client : p'.client = p.client
  now : p'.now = p.now
  sessions : p'.sessions = p.sessions
  trace : ∃ more : Trace, p'.trace = p.trace ++ more ∧ ∀ x ∈ more, x.1 = p.now ∧ p.Aside x.2

namespace Asides

theorem refl (p : Probe) : p.Asides p :=
  ⟨rfl, rfl, rfl, [], by simp, by simp⟩

theorem act (p : Probe) {a : Act} (aside : p.Aside a) : p.Asides (p.act a) :=
  ⟨rfl, rfl, rfl, [(p.now, a)], rfl, by simpa using aside⟩

theorem sessionDone_eq (h : p.Asides p') : p'.sessionDone = p.sessionDone := by
  simp only [sessionDone, h.sessions]

theorem stats_eq (h : p.Asides p') : p'.trace.stats = p.trace.stats := by
  obtain ⟨more, trace, all⟩ := h.trace
  rw [trace]
  exact stats_append fun x inside => (all x inside).2.uncounted

theorem aside (h : p.Asides p') {a : Act} (later : p'.Aside a) : p.Aside a := by
  cases a with
  | notice n =>
    cases n with
    | finished stats =>
      obtain ⟨done, same⟩ := later
      exact ⟨h.sessionDone_eq ▸ done, same.trans h.stats_eq⟩
    | _ => exact later
  | _ => exact later

theorem trans (one : p.Asides p') (two : p'.Asides p'') : p.Asides p'' := by
  obtain ⟨u, first, all⟩ := one.trace
  obtain ⟨w, second, all'⟩ := two.trace
  refine ⟨two.client.trans one.client, two.now.trans one.now, two.sessions.trans one.sessions,
    u ++ w, by rw [second, first, List.append_assoc], ?_⟩
  intro x inside
  rcases List.mem_append.mp inside with early | late
  · exact all x early
  · obtain ⟨instant, aside⟩ := all' x late
    exact ⟨instant.trans one.now, one.aside aside⟩

theorem closeEnded (p : Probe) (number : Nat) (behavior : CloseBehavior) :
    p.Asides (p.closeEnded number behavior) := by
  unfold Probe.closeEnded
  split
  next => exact act p rfl
  next => exact act p rfl

theorem abortTransport (p : Probe) : p.Asides p.abortTransport := by
  unfold Probe.abortTransport
  split
  next =>
    split
    next => exact act p rfl
    next => exact refl p
  next => exact refl p

/-- A shutdown whose session is done just ends. -/
theorem conclude (done : p.sessionDone = true) : p.Asides p.conclude := by
  have still : p.cancelSession = p := by simp [cancelSession, done]
  have closed : p.Asides (p.abortTransport.act (.becomes .closed)) :=
    (abortTransport p).trans (act _ rfl)
  simp only [Probe.conclude, still, log_eq_act]
  exact closed.trans (act _ ⟨closed.sessionDone_eq.trans done, rfl⟩)

end Asides

/-- The probe with its session cut off: there is nothing left of it to do. -/
def cutSession (p : Probe) : Probe :=
  { p with sessions := .asleep (some p.now) .done :: p.sessions.drop 1 }.act .cancelled

/-- A shutdown cuts off a session that is not done. -/
def Cuts (p p' : Probe) : Prop :=
  ∃ q, p.Asides q ∧ q.sessionDone = false ∧ p' = q.cutSession

/-- What a step of a shutdown does to a probe. -/
def Adds (p p' : Probe) : Prop :=
  p.Asides p' ∨ p.Cuts p'

theorem Adds.after (one : p.Asides p') (two : p'.Adds p'') : p.Adds p'' := by
  rcases two with asides | ⟨q, asides, undone, rfl⟩
  · exact .inl (one.trans asides)
  · exact .inr ⟨q, one.trans asides, undone, rfl⟩

theorem adds_stopSession (p : Probe) : p.Adds p.stopSession.2 := by
  unfold stopSession
  cases done : p.sessionDone with
  | true => exact .inl (.conclude done)
  | false => exact .inr ⟨p, .refl p, done, rfl⟩

theorem adds_shake (p : Probe) : p.Adds p.shake.2 := by
  unfold shake
  split
  next => exact adds_stopSession p
  next =>
    split
    next => exact .inl (.refl p)
    next =>
      split
      next => exact .inl (.refl p)
      next => exact .inl (.refl p)
    next => exact .inl (.refl p)

theorem adds_call (p : Probe) : p.Adds p.call.2 := by
  have begins : p.Asides ({ p with shutdownStarted := true }.log (.shuttingDown p.state)) := by
    have asked : p.Asides { p with shutdownStarted := true } :=
      ⟨rfl, rfl, rfl, [], by simp, by simp⟩
    exact asked.trans (.act _ rfl)
  unfold call
  split
  next => exact .inl (.refl p)
  next =>
    simp only
    split
    next => exact .after begins (adds_shake _)
    next => exact .after begins (adds_stopSession _)

theorem adds_goOn {s : Shutdown} {y : ShutdownResult × Probe} (step : p.goOn? s = some y) :
    p.Adds y.2 := by
  cases s with
  | shaking limit handshake =>
    cases handshake with
    | scheduled number behavior =>
      cases step
      have called : p.Asides (p.act (.closeCalled number)) := .act p rfl
      exact .inl called
    | closing wake number behavior =>
      simp only [goOn?, Option.ite_none_right_eq_some, Option.some.injEq] at step
      obtain ⟨-, rfl⟩ := step
      exact .inl (.closeEnded p number behavior)
    | farewell =>
      simp only [goOn?, Option.ite_none_right_eq_some, Option.some.injEq] at step
      obtain ⟨-, rfl⟩ := step
      exact .inl (.refl p)
  | shaken =>
    cases step
    exact adds_stopSession p
  | cutOff =>
    cases step
    have logged : p.Asides (p.log .handshakeUnfinished) := .act p rfl
    exact .after logged (adds_stopSession _)
  | cancelling =>
    simp only [goOn?, Option.ite_none_right_eq_some, Option.some.injEq] at step
    obtain ⟨done, rfl⟩ := step
    exact .inl (.conclude done)

theorem cutOff?_eq {s : Shutdown} {y : ShutdownResult × Probe} (step : p.cutOff? s = some y) :
    y.2 = p := by
  cases s with
  | shaking limit handshake =>
    simp only [cutOff?, Option.ite_none_right_eq_some, Option.some.injEq] at step
    obtain ⟨-, rfl⟩ := step
    rfl
  | _ => cases step

end Probe

namespace TaskState

variable {p : Probe} {task : TaskState} {x : TaskState × Probe}

theorem adds_step (step : task.step? p = some x) : p.Adds x.2 := by
  rcases step_cases step with ⟨same, -⟩ | ⟨-, timer, rfl⟩ | ⟨timer, s, y, -, onward, rfl⟩
  · rw [same]
    exact .inl (.refl p)
  · rw [ofResult_snd]
    exact Probe.adds_call p
  · rw [ofResult_snd]
    exact Probe.adds_goOn onward

theorem cutOff?_eq (step : task.cutOff? p = some x) : x.2 = p := by
  cases task with
  | calling timer s =>
    simp only [cutOff?, Option.map_eq_some_iff] at step
    obtain ⟨y, cut, rfl⟩ := step
    rw [ofResult_snd]
    exact Probe.cutOff?_eq cut
  | _ => cases step

end TaskState

namespace SharedRun

variable {r r' : SharedRun}

/-- What can happen next to the probe of a run: its session goes on, or a shutdown does, or the
clock moves to the first instant that anything waits for. -/
theorem step_adds {choice : Choice} (h : r.step? choice = some r') :
    r.probe.sessionStep? = some r'.probe ∨ r.probe.Adds r'.probe ∨
      ∃ t, r.probe.now ≤ t ∧ (∀ w ∈ r.wakes, t ≤ w) ∧ r'.probe = { r.probe with now := t } := by
  rcases step_cases h with ⟨p, goes, rfl⟩ | ⟨i, task, x, -, step, rfl⟩ | ⟨t, idle, earliest, rfl⟩
  · exact .inl goes
  · refine .inr (.inl ?_)
    rcases step with goes | cut
    · exact TaskState.adds_step goes
    · have same : (r.put i x).probe = r.probe := TaskState.cutOff?_eq cut
      rw [same]
      exact .inl (.refl _)
  · obtain ⟨inside, first⟩ := List.min?_eq_some_iff.mp earliest
    exact .inr (.inr ⟨t, (lt_of_idle idle inside).le, first, rfl⟩)

end SharedRun

/-- What holds at the start of every run, and is kept by the session, by the acts of a shutdown, by
cutting the session off and by the clock, holds at every moment. -/
theorem Probe.Moment.induct {c : Client} {now : Time} {script : Script} {p : Probe}
    {P : Probe → Prop} (h : Moment c now script p)
    (starts : P ((fresh c now).share script []).probe)
    (session : ∀ p p', P p → p.sessionStep? = some p' → P p')
    (asides : ∀ p p', P p → p.Asides p' → P p')
    (cut : ∀ p, P p → p.sessionDone = false → P p.cutSession)
    (tick : ∀ p t, P p → p.now ≤ t →
      (∀ w ∈ (p.sessions.take 1).flatMap Stop.wakes, t ≤ w) → P { p with now := t }) : P p := by
  obtain ⟨instants, choices, r, followed, rfl⟩ := h
  have starts' : P ((fresh c now).share script instants).probe := starts
  refine SharedRun.follow_induct (P := fun r => P r.probe) ?_ choices starts' followed
  intro r choice r' holds step
  rcases SharedRun.step_adds step with
    goes | (aside | ⟨q, aside, undone, same⟩) | ⟨t, later, first, ticked⟩
  · exact session _ _ holds goes
  · exact asides _ _ holds aside
  · rw [same]
    exact cut q (asides _ _ holds aside) undone
  · rw [ticked]
    exact tick _ t holds later fun w inside => first w (List.mem_append_left _ inside)

/-! ### Where a session is, or was when it was cut off -/

theorem Stop.mem_wakes {stop : Stop} {t : Time} (h : stop.wake? = some t) : t ∈ stop.wakes := by
  cases stop <;> simp_all [wake?, wakes]

namespace Probe

/-- The session sleeps. -/
def Sleeping (p : Probe) : Prop :=
  ∃ wake next, p.sessions = [.asleep wake next]

/-- The session waits for the next frame. -/
def Listening (p : Probe) : Prop :=
  ∃ socket wake arrived closed, p.sessions = [.listening socket wake arrived closed]

/-- The session was cut off where it was at an earlier moment: since then there were only acts of
shutdowns. -/
def CutOffSince (p b : Probe) : Prop :=
  ∃ before after : Trace, p.trace = b.trace ++ before ++ (b.now, .cancelled) :: after ∧
    ∀ x ∈ before ++ after, x.2.isAside = true

/-- The session is somewhere, or it was there at the moment at which it was cut off. -/
def StaysAt (R : Probe → Prop) (p : Probe) (place : Probe → Prop) : Prop :=
  place p ∨ ∃ b, R b ∧ place b ∧ p.CutOffSince b

variable {R : Probe → Prop} {p p' b : Probe} {t : Time}

namespace CutOffSince

/-- A shutdown that cuts a session off. -/
theorem of_asides (asides : p.Asides p') : p'.cutSession.CutOffSince p := by
  obtain ⟨more, trace, all⟩ := asides.trace
  refine ⟨more, [], ?_, ?_⟩
  · simp [cutSession, Probe.act, trace, asides.now]
  · simpa using fun t a inside => (all (t, a) inside).2.isAside

theorem append (h : p.CutOffSince b) {more : Trace} (trace : p'.trace = p.trace ++ more)
    (asides : ∀ x ∈ more, x.2.isAside = true) : p'.CutOffSince b := by
  obtain ⟨before, after, same, all⟩ := h
  refine ⟨before, after ++ more, by simp [trace, same], ?_⟩
  rw [← List.append_assoc, List.forall_mem_append]
  exact ⟨all, asides⟩

theorem mem_trace (h : p.CutOffSince b) : (b.now, .cancelled) ∈ p.trace := by
  obtain ⟨before, after, same, -⟩ := h
  simp [same]

end CutOffSince

end Probe

/-! ### What a watch knows -/

namespace Probe

variable {σ : Type} {m : Watch σ} {q : σ} {rest : Rest} {R : Probe → Prop} {p p' : Probe} {t : Time}

/-- The session is on its way: it rests, is not overdue, and heeds the watch when it goes on. -/
structure Attending (m : Watch σ) (q : σ) (rest : Rest) (p : Probe) : Prop where
  session : ∃ stop, p.sessions = [stop] ∧ stop.RestsAt rest ∧ stop.Heeds m p.client.handlers q
  wakes : ∀ w, rest.wake? = some w → p.now ≤ w

namespace Attending

theorem sleeping {wake : Option Time} (h : p.Attending m q (.asleep wake)) :
    ∃ next, p.sessions = [.asleep wake next] := by
  obtain ⟨stop, one, place, -⟩ := h.session
  cases place
  exact ⟨_, one⟩

theorem serving {kind : EventKind} {wake : Option Time} (h : p.Attending m q (.serving kind wake)) :
    p.Sleeping := by
  obtain ⟨stop, one, place, -⟩ := h.session
  cases place
  exact ⟨_, _, one⟩

theorem listening {wake : Option Time} (h : p.Attending m q (.listening wake)) : p.Listening := by
  obtain ⟨stop, one, place, -⟩ := h.session
  cases place
  exact ⟨_, _, _, _, one⟩

end Attending

/-- The session has been cut off where it rested, before it was overdue. -/
structure CutAt (R : Probe → Prop) (m : Watch σ) (q : σ) (rest : Rest) (p : Probe) : Prop where
  stopped : p.Stopped
  since : ∃ b, R b ∧ m.after? b.trace = some q ∧ b.Attending m q rest ∧ p.CutOffSince b

/-- A watch accepts the history of a probe, and lets the session rest where it does, or did when it
was cut off. -/
def Watched (R : Probe → Prop) (m : Watch σ) (p : Probe) : Prop :=
  ∃ q rest, m.after? p.trace = some q ∧ m.rests q rest ∧
    (p.Attending m q rest ∨ p.CutAt R m q rest)

/-- Where a watch lets the session rest, it stays. -/
theorem staysAt_of_rest (seen : m.after? p.trace = some q)
    (h : p.Attending m q rest ∨ p.CutAt R m q rest) {place : Probe → Prop}
    (there : ∀ b, m.after? b.trace = some q → b.Attending m q rest → place b) :
    p.StaysAt R place := by
  rcases h with attending | cut
  · exact .inl (there p seen attending)
  · obtain ⟨b, reached, seen', attending, since⟩ := cut.since
    exact .inr ⟨b, reached, there b seen' attending, since⟩

theorem after?_of_asides (h : p.Asides p') (seen : m.after? p.trace = some q) :
    m.after? p'.trace = some q := by
  obtain ⟨more, trace, all⟩ := h.trace
  rw [trace, Watch.after?_append, seen]
  exact Watch.watch_aside fun x inside => (all x inside).2.isAside

theorem Stopped.asides (h : p.Stopped) (asides : p.Asides p') : p'.Stopped := by
  rcases h with done | ⟨wake, past, asleep⟩
  · exact .inl (asides.sessions.trans done)
  · exact .inr ⟨wake, asides.now ▸ past, asides.sessions.trans asleep⟩

namespace Attending

theorem asides (h : p.Attending m q rest) (asides : p.Asides p') : p'.Attending m q rest := by
  obtain ⟨stop, one, place, heeds⟩ := h.session
  refine ⟨⟨stop, asides.sessions.trans one, place, ?_⟩, ?_⟩
  · rw [asides.client]
    exact heeds
  · rw [asides.now]
    exact h.wakes

/-- A session that a shutdown cuts off had been resting before. -/
theorem cut (h : p.Attending m q rest) (reached : R p) (seen : m.after? p.trace = some q)
    (asides : p.Asides p') : p'.cutSession.CutAt R m q rest := by
  obtain ⟨stop, one, -⟩ := h.session
  have one' : p'.sessions = [stop] := asides.sessions.trans one
  constructor
  · exact .inr ⟨p'.now, le_rfl, by simp [cutSession, Probe.act, one']⟩
  · exact ⟨p, reached, seen, h, .of_asides asides⟩

/-- A session that goes on gets to where it rests next. -/
theorem step (h : p.Attending m q rest) (seen : m.after? p.trace = some q)
    (goes : p.sessionStep? = some p') (allows : m.Allows p'.trace p'.now) : p'.Watched R m := by
  obtain ⟨stop, one, place, heeds⟩ := h.session
  simp only [sessionStep?, one, Option.map_eq_some_iff] at goes
  obtain ⟨a, next, rfl⟩ := goes
  let progress := a.run (Scene.elapse 0) (some p.now) (p.scene, [])
  have followed : progress.Follows p.scene [] (some p.now) a := Activity.run_follows a p.scene
  obtain ⟨acts, b, reached⟩ := followed
  have alone : progress.others = [] := reached.others_eq
  have still : progress.scene.now = p.now :=
    le_antisymm (reached.inTime p.now rfl le_rfl) reached.leadsTo.now_le
  have allows : m.Allows progress.scene.trace p.now := still ▸ allows
  have allows' : m.Allows p.scene.trace p.now := by
    intro socket closed
    apply allows socket
    rw [reached.leadsTo.trace]
    exact Trace.isClosed_append closed acts
  have due : ∀ w, stop.wake? = some w → p.scene.now ≤ w := place.wake?_eq ▸ h.wakes
  have onward : a.Heeds m p.scene.handlers p.scene.now q := heeds.next allows' due next
  obtain ⟨q', rest', seen', rests, place', heeds'⟩ :
      progress.Rests m p.scene.handlers := Activity.run_rests a p.scene q seen onward allows
  refine ⟨q', rest', seen', rests, .inl ⟨⟨progress.stop, ?_, place', heeds'⟩, ?_⟩⟩
  · simp only [runSession, after]
    rw [show (a.run (Scene.elapse 0) (some p.now) (p.scene, [])).others = [] from alone]
  · intro w woken
    have late := reached.wakes w (place'.wake?_eq ▸ woken)
    exact still.le.trans (not_isBefore_some_iff.mp late)

/-- The clock moves to an instant at which the session is not overdue. -/
theorem tick (h : p.Attending m q rest)
    (first : ∀ w ∈ (p.sessions.take 1).flatMap Stop.wakes, t ≤ w) :
    Attending m q rest { p with now := t } := by
  obtain ⟨stop, one, place, heeds⟩ := h.session
  refine ⟨⟨stop, one, place, heeds⟩, ?_⟩
  intro w woken
  apply first
  simp only [one, List.take_one, List.head?_cons, Option.toList_some, List.flatMap_singleton]
  exact Stop.mem_wakes (place.wake?_eq ▸ woken)

end Attending

namespace CutAt

theorem asides (h : p.CutAt R m q rest) (asides : p.Asides p') : p'.CutAt R m q rest := by
  obtain ⟨b, reached, seen, attending, since⟩ := h.since
  obtain ⟨more, trace, all⟩ := asides.trace
  refine ⟨h.stopped.asides asides, b, reached, seen, attending, since.append trace ?_⟩
  exact fun x inside => (all x inside).2.isAside

theorem cutAgain (h : p.CutAt R m q rest) : p.cutSession.CutAt R m q rest := by
  obtain ⟨b, reached, seen, attending, since⟩ := h.since
  have since' : p.cutSession.CutOffSince b :=
    since.append rfl (by simp [Act.isAside, Act.ofShutdown])
  refine ⟨.inr ⟨p.now, le_rfl, ?_⟩, b, reached, seen, attending, since'⟩
  rcases h.stopped with done | ⟨wake, -, asleep⟩
  · simp [cutSession, Probe.act, done]
  · simp [cutSession, Probe.act, asleep]

/-- A session that has been cut off does nothing more. -/
theorem step (h : p.CutAt R m q rest) (goes : p.sessionStep? = some p') :
    p'.CutAt R m q rest ∧ p'.trace = p.trace := by
  rcases h.stopped with done | ⟨wake, past, asleep⟩
  · simp [sessionStep?, done, Stop.next?] at goes
  · have elapsed : reached p.scene.now (some wake) = true := decide_eq_true past
    simp only [sessionStep?, asleep, Stop.next?, elapsed, if_true, Option.map_some,
      Option.some.injEq] at goes
    subst goes
    exact ⟨⟨.inl rfl, h.since⟩, rfl⟩

theorem tick (h : p.CutAt R m q rest) (later : p.now ≤ t) :
    CutAt R m q rest { p with now := t } := by
  refine ⟨?_, h.since⟩
  rcases h.stopped with done | ⟨wake, past, asleep⟩
  · exact .inl done
  · exact .inr ⟨wake, past.trans later, asleep⟩

end CutAt

namespace Watched

theorem asides (h : p.Watched R m) (asides : p.Asides p') : p'.Watched R m := by
  obtain ⟨q, rest, seen, rests, attending | cut⟩ := h
  · exact ⟨q, rest, after?_of_asides asides seen, rests, .inl (attending.asides asides)⟩
  · exact ⟨q, rest, after?_of_asides asides seen, rests, .inr (cut.asides asides)⟩

theorem cut (h : p.Watched R m) (reached : R p) (asides : p.Asides p') :
    p'.cutSession.Watched R m := by
  obtain ⟨q, rest, seen, rests, place⟩ := h
  have seen' : m.after? p'.cutSession.trace = some q :=
    Watch.after?_act (after?_of_asides asides seen) p'.now (m.aside q p'.now .cancelled rfl)
  rcases place with attending | cut
  · exact ⟨q, rest, seen', rests, .inr (attending.cut reached seen asides)⟩
  · exact ⟨q, rest, seen', rests, .inr (cut.asides asides).cutAgain⟩

theorem step (h : p.Watched R m) (goes : p.sessionStep? = some p')
    (allows : m.Allows p'.trace p'.now) : p'.Watched R m := by
  obtain ⟨q, rest, seen, rests, attending | cut⟩ := h
  · exact attending.step seen goes allows
  · obtain ⟨still, same⟩ := cut.step goes
    exact ⟨q, rest, same ▸ seen, rests, .inr still⟩

theorem tick (h : p.Watched R m) (later : p.now ≤ t)
    (first : ∀ w ∈ (p.sessions.take 1).flatMap Stop.wakes, t ≤ w) :
    Watched R m { p with now := t } := by
  obtain ⟨q, rest, seen, rests, attending | cut⟩ := h
  · exact ⟨q, rest, seen, rests, .inl (attending.tick first)⟩
  · exact ⟨q, rest, seen, rests, .inr (cut.tick later)⟩

end Watched

end Probe

/-- Whatever happens next, a watch goes along. -/
theorem SharedRun.watched_step {σ : Type} {m : Watch σ} {R : Probe → Prop} {r r' : SharedRun}
    {choice : Choice} (h : r.probe.Watched R m) (reached : R r.probe)
    (step : r.step? choice = some r') (allows : m.Allows r'.probe.trace r'.probe.now) :
    r'.probe.Watched R m := by
  rcases step_adds step with
    goes | (aside | ⟨q, aside, undone, same⟩) | ⟨t, later, first, ticked⟩
  · exact h.step goes allows
  · exact h.asides aside
  · rw [same]
    exact h.cut reached aside
  · rw [ticked]
    exact h.tick later fun w inside => first w (List.mem_append_left _ inside)

namespace Probe

variable {σ : Type} {m : Watch σ} {R : Probe → Prop} {c : Client} {now : Time} {script : Script}
  {p : Probe}

/-- A run begins watched, where its session heeds the watch. -/
theorem watched_share (rests : m.rests m.start (.asleep (some now)))
    (heeds : (c.session c.settings.url script).Heeds m c.handlers now m.start)
    (instants : List Time) : ((fresh c now).share script instants).probe.Watched R m := by
  refine ⟨m.start, .asleep (some now), ?_, rests, .inl ⟨⟨_, rfl, .asleep _ _, ?_⟩, ?_⟩⟩
  · exact Watch.after?_act (t := []) rfl now (m.aside _ _ _ rfl)
  · rintro t ⟨⟩
    exact heeds
  · rintro w ⟨⟩
    exact le_rfl

/-- A watch that a session heeds from its start goes along with every run of a fresh probe. -/
theorem Moment.watched (h : Moment c now script p) (rests : m.rests m.start (.asleep (some now)))
    (heeds : (c.session c.settings.url script).Heeds m c.handlers now m.start)
    (closes : ∀ t, m.closes t) : p.Watched (Moment c now script) m := by
  obtain ⟨instants, choices, r, followed, rfl⟩ := h
  have begins : Reached c now script ((fresh c now).share script instants) := ⟨instants, [], rfl⟩
  refine (SharedRun.follow_induct (P := fun r => Reached c now script r ∧
    r.probe.Watched (Moment c now script) m) ?_ choices
    ⟨begins, watched_share rests heeds instants⟩ followed).2
  rintro r choice r' ⟨reached, watched⟩ step
  refine ⟨reached.step step, ?_⟩
  exact SharedRun.watched_step watched reached.moment step fun _ _ => closes _

end Probe

end BoxProbe
