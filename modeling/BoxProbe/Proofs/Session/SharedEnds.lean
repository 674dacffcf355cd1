/-
Module: BoxProbe.Proofs.Session.SharedEnds
Purpose: A run whose probe other tasks shut down comes to an end, on every schedule, and with all
  calls returned.
Trusted boundary: none
Main exports: Stop.acc_after, TaskState.rank, SharedRun.Next, SharedRun.Sound.acc,
  SharedRun.breaks_off_of_acc, Probe.Bounded, SharedRun.limited_follow, SharedRun.all_returned
-/
import BoxProbe.Proofs.Session.Shutdowns

namespace BoxProbe

/-!
A schedule cannot go on for ever: a task that goes on has less to do, by its rank; the session gets
along its own tree, which has no infinite path; and the clock moves only when neither can, after
which one of them can.  With a finite deadline every wait of a shutdown has a limit, so a schedule
ends only where all calls have returned.
-/

/-! ### The session -/

/-- Where a session stands after it has gone on from a stop, under some handlers. -/
def Stop.After (h : Handlers) (stop' stop : Stop) : Prop :=
  ∃ (s : Scene) (a : Activity), s.handlers = h ∧ stop.next? s = some a ∧
    stop' = (a.run (Scene.elapse 0) (some s.now) (s, [])).stop

namespace Activity

variable {h : Handlers}

/-- An activity, wherever it is run, comes to a stop from which it does not go on for ever. -/
def Ends (h : Handlers) (a : Activity) : Prop :=
  ∀ (limit : Option Time) (s : Scene) (others : List Stop), s.handlers = h →
    Acc (Stop.After h) (a.run (Scene.elapse 0) limit (s, others)).stop

theorem Ends.asleep {next : Activity} (ends : next.Ends h) (wake : Option Time) :
    Acc (Stop.After h) (.asleep wake next) := by
  constructor
  rintro stop' ⟨s, a, same, goes, rfl⟩
  simp only [Stop.next?, Option.ite_none_right_eq_some, Option.some.injEq] at goes
  obtain ⟨-, rfl⟩ := goes
  exact ends _ s [] same

theorem Ends.listening {arrived closed : Activity} (ends : arrived.Ends h) (ends' : closed.Ends h)
    (socket : Option Nat) (wake : Option Time) :
    Acc (Stop.After h) (.listening socket wake arrived closed) := by
  constructor
  rintro stop' ⟨s, a, same, goes, rfl⟩
  simp only [Stop.next?] at goes
  split at goes
  next =>
    cases goes
    exact ends' _ s [] same
  next =>
    simp only [Option.ite_none_right_eq_some, Option.some.injEq] at goes
    obtain ⟨-, rfl⟩ := goes
    exact ends _ s [] same

/-- Calling the handlers of an event ends if what follows the event does. -/
theorem ends_serve {e : Event} {next : Activity} (ends : next.Ends h)
    (callbacks : List Callback) :
    ∀ number, callbacks = (h.callbacks e.kind).drop number →
      ∀ (limit : Option Time) (s : Scene) (others : List Stop), s.handlers = h →
        Acc (Stop.After h) (serve (Scene.elapse 0) limit e next
          (run (Scene.elapse 0) limit next) number callbacks (s, others)).stop := by
  induction callbacks with
  | nil =>
    intro number _ limit s others same
    exact ends limit s others same
  | cons c rest ih =>
    intro number left limit s others same
    have behind := (turn_of_left left).2
    simp only [serve]
    generalize c.onCall s.trace.calls e.arguments = c
    have onward (s' : Scene) (same' : s'.handlers = h) :=
      ih (number + 1) behind limit (s'.called c) others ((Scene.called_handlers s' c).trans same')
    have dispatched : Activity.Ends h (.dispatch e (number + 1) next) := by
      intro limit' s' others' same'
      simp only [run, same', ← behind]
      exact ih (number + 1) behind limit' s' others' same'
    have later : (afterCall e number c next).Ends h := by
      unfold afterCall
      cases c.failure with
      | none => exact dispatched
      | some f =>
        intro limit' s' others' same'
        exact dispatched limit' _ others' same'
    cases c.pause with
    | none => exact onward (s.call e c) same
    | seconds length nonneg =>
      simp only [Scene.elapse_zero]
      split
      next => exact onward { s.call e c with now := (s.call e c).now + length } same
      next => exact later.asleep _
    | forever => exact later.asleep none

/-- No activity goes on for ever. -/
theorem ends (a : Activity) : a.Ends h := by
  induction a with
  | done =>
    intro limit s others _
    constructor
    rintro stop' ⟨s', b, _, goes, _⟩
    cases goes
  | act x next ih =>
    intro limit s others same
    exact ih limit (s.act x) others same
  | look next ih =>
    intro limit s others same
    exact ih s.trace limit s others same
  | dispatch e served next ih =>
    intro limit s others same
    simp only [run]
    exact ends_serve ih _ served (by rw [same]) limit s others same
  | pause wait next ih =>
    intro limit s others same
    cases wait with
    | none => exact ih limit s others same
    | seconds length nonneg =>
      simp only [run, Scene.elapse_zero]
      split
      next => exact ih limit { s with now := s.now + length } others same
      next => exact ih.asleep _
    | forever => exact ih.asleep none
  | listen socket wait arrived closed arrivedIh closedIh =>
    intro limit s others same
    simp only [run, Scene.elapse_zero]
    split
    next => exact closedIh limit s others same
    next =>
      cases wait with
      | none => exact arrivedIh limit s others same
      | seconds length nonneg =>
        simp only
        split
        next => exact arrivedIh limit { s with now := s.now + length } others same
        next => exact arrivedIh.listening closedIh socket _
      | forever => exact arrivedIh.listening closedIh socket none

end Activity

/-- No session goes on for ever. -/
theorem Stop.acc_after (h : Handlers) (stop : Stop) : Acc (Stop.After h) stop := by
  cases stop with
  | finished =>
    constructor
    rintro stop' ⟨s, a, _, goes, _⟩
    cases goes
  | asleep wake next => exact (Activity.ends next).asleep wake
  | listening socket wake arrived closed =>
    exact (Activity.ends arrived).listening (Activity.ends closed) socket wake

/-! ### The other tasks -/

/-- How many steps a shutdown that waits has before it, at most. -/
def Shutdown.rank : Shutdown → Nat
  | .shaking _ (.scheduled _ _) => 6
  | .shaking _ (.closing _ _ _) => 5
  | .shaking _ .farewell => 4
  | .shaken | .cutOff => 3
  | .cancelling => 1

/-- How many steps there are behind what a shutdown has come to. -/
def ShutdownResult.rank : ShutdownResult → Nat
  | .waits s => s.rank
  | .returns _ => 0

/-- How many steps a task has before it, at most. -/
def TaskState.rank : TaskState → Nat
  | .starting => 11
  | .untilMargin _ => 10
  | .untilDeadline _ | .before _ => 9
  | .calling _ s => s.rank + 2
  | .resting _ _ => 1
  | .returned _ => 0

namespace Probe

variable {p : Probe} {s : Shutdown} {y : ShutdownResult × Probe}

theorem rank_stopSession (p : Probe) : p.stopSession.1.rank ≤ 1 := by
  unfold stopSession
  split <;> simp [ShutdownResult.rank, Shutdown.rank]

theorem rank_shake (p : Probe) : p.shake.1.rank ≤ 6 := by
  unfold shake
  split
  next => exact (rank_stopSession p).trans (by decide)
  next =>
    split
    next => simp [ShutdownResult.rank, Shutdown.rank]
    next =>
      split <;> simp [ShutdownResult.rank, Shutdown.rank]
    next => simp [ShutdownResult.rank, Shutdown.rank]

theorem rank_call (p : Probe) : p.call.1.rank ≤ 6 := by
  unfold call
  split
  next => exact Nat.zero_le 6
  next =>
    simp only
    split
    next => exact rank_shake _
    next => exact (rank_stopSession _).trans (by decide)

theorem rank_goOn (step : p.goOn? s = some y) : y.1.rank < s.rank := by
  have stops (q : Probe) : q.stopSession.1.rank < 3 :=
    Nat.lt_of_le_of_lt (rank_stopSession q) (by decide)
  cases s with
  | shaking limit handshake =>
    cases handshake with
    | scheduled number behavior =>
      cases step
      exact Nat.lt_succ_self 5
    | _ =>
      simp only [goOn?, Option.ite_none_right_eq_some, Option.some.injEq] at step
      obtain ⟨-, rfl⟩ := step
      simp [ShutdownResult.rank, Shutdown.rank]
  | shaken =>
    cases step
    exact stops p
  | cutOff =>
    cases step
    exact stops _
  | cancelling =>
    simp only [goOn?, Option.ite_none_right_eq_some, Option.some.injEq] at step
    obtain ⟨-, rfl⟩ := step
    exact Nat.zero_lt_one

theorem rank_cutOff (step : p.cutOff? s = some y) : y.1.rank < s.rank := by
  cases s with
  | shaking limit handshake =>
    simp only [cutOff?, Option.ite_none_right_eq_some, Option.some.injEq] at step
    obtain ⟨-, rfl⟩ := step
    cases handshake <;> simp [ShutdownResult.rank, Shutdown.rank]
  | _ => cases step

end Probe

namespace TaskState

variable {p : Probe} {task : TaskState} {x : TaskState × Probe}

theorem rank_ofResult (timer : Bool) (y : ShutdownResult × Probe) :
    (ofResult timer y).1.rank ≤ y.1.rank + 2 := by
  obtain ⟨result, q⟩ := y
  cases result with
  | waits s => exact le_refl _
  | returns status => cases timer <;> simp [ofResult, rank]

/-- A task that goes on has fewer steps before it. -/
theorem rank_step (step : task.step? p = some x) : x.1.rank < task.rank := by
  have called (timer : Bool) : (ofResult timer p.call).1.rank < 9 :=
    Nat.lt_of_le_of_lt ((rank_ofResult timer p.call).trans (Nat.add_le_add_right p.rank_call 2))
      (by decide)
  cases task with
  | starting =>
    cases step
    exact Nat.lt_succ_self 10
  | untilMargin wake =>
    simp only [step?, Option.ite_none_right_eq_some] at step
    obtain ⟨-, step⟩ := step
    split at step
    next =>
      cases step
      exact Nat.lt_succ_of_lt (called true)
    next =>
      cases step
      exact Nat.lt_succ_self 9
  | untilDeadline wake =>
    simp only [step?, Option.ite_none_right_eq_some, Option.some.injEq] at step
    obtain ⟨-, rfl⟩ := step
    exact called true
  | before instant =>
    simp only [step?, Option.ite_none_right_eq_some, Option.some.injEq] at step
    obtain ⟨-, rfl⟩ := step
    exact called false
  | calling timer s =>
    simp only [step?, Option.map_eq_some_iff] at step
    obtain ⟨y, onward, rfl⟩ := step
    exact Nat.lt_of_le_of_lt (rank_ofResult timer y)
      (Nat.add_lt_add_right (Probe.rank_goOn onward) 2)
  | resting status wake =>
    simp only [step?, Option.ite_none_right_eq_some, Option.some.injEq] at step
    obtain ⟨-, rfl⟩ := step
    exact Nat.zero_lt_one
  | returned status => cases step

theorem rank_cutOff (step : task.cutOff? p = some x) : x.1.rank < task.rank := by
  cases task with
  | calling timer s =>
    simp only [cutOff?, Option.map_eq_some_iff] at step
    obtain ⟨y, onward, rfl⟩ := step
    exact Nat.lt_of_le_of_lt (rank_ofResult timer y)
      (Nat.add_lt_add_right (Probe.rank_cutOff onward) 2)
  | _ => cases step

end TaskState

/-! ### The run -/

namespace SharedRun

variable {c : Client} {D : Span} {r r' : SharedRun}

/-- What can happen next after a run. -/
def Next (r' r : SharedRun) : Prop :=
  ∃ choice, r.step? choice = some r'

/-- How many steps the tasks of a run have before them, at most. -/
def rank (r : SharedRun) : Nat :=
  (r.tasks.map TaskState.rank).sum

theorem rank_put {i : Nat} {task : TaskState} (found : r.tasks[i]? = some task)
    {x : TaskState × Probe} (less : x.1.rank < task.rank) : (r.put i x).rank < r.rank := by
  obtain ⟨u, v, before, after⟩ := put_tasks found x
  unfold rank
  rw [before, after]
  simp only [List.map_append, List.map_cons, List.sum_append, List.sum_cons]
  omega

/-- What happens next, by what becomes of the measures of a run. -/
theorem next_cases (h : Sound c D r) (next : Next r' r) :
    r'.rank < r.rank ∨
      (r'.rank = r.rank ∧ ∃ stop stop', r.probe.sessions = [stop] ∧ r'.probe.sessions = [stop'] ∧
        stop'.After c.handlers stop) ∨
      (r.isIdle = true ∧ r'.isIdle = false ∧ r'.rank = r.rank ∧
        r'.probe.sessions = r.probe.sessions) := by
  obtain ⟨choice, step⟩ := next
  rcases step_cases step with
    ⟨p, goes, rfl⟩ | ⟨i, task, x, found, goes | cut, rfl⟩ | ⟨t, idle, earliest, rfl⟩
  · obtain ⟨stop, _, _, one, -, -⟩ := h.attended
    simp only [Probe.sessionStep?, one, Option.map_eq_some_iff] at goes
    obtain ⟨a, next, rfl⟩ := goes
    have ran : (a.run (Scene.elapse 0) (some r.probe.now) (r.probe.scene, [])).Follows
        r.probe.scene [] (some r.probe.now) a := Activity.run_follows a r.probe.scene
    obtain ⟨acts, b, reached⟩ := ran
    refine .inr (.inl ⟨rfl, stop, _, one, ?_, r.probe.scene, a, ?_, next, rfl⟩)
    · simp only [Probe.runSession, Probe.after, reached.others_eq]
      rfl
    · exact congrArg Client.handlers h.client
  · exact .inl (rank_put found (TaskState.rank_step goes))
  · exact .inl (rank_put found (TaskState.rank_cutOff cut))
  · refine .inr (.inr ⟨idle, ?_, rfl, rfl⟩)
    -- The clock stands at an instant that a task waits for.
    rw [Bool.eq_false_iff]
    intro idle'
    exact lt_irrefl t (lt_of_idle idle' (List.min?_mem earliest))

theorem Sound.next (h : Sound c D r) (next : Next r' r) : Sound c D r' := by
  obtain ⟨choice, step⟩ := next
  exact h.step step

/-- No schedule of a run goes on for ever. -/
theorem Sound.acc (h : Sound c D r) : Acc Next r := by
  have ranked : ∀ n, ∀ r : SharedRun, Sound c D r → r.rank < n → Acc Next r := by
    intro n
    induction n with
    | zero =>
      intro r _ less
      exact absurd less (Nat.not_lt_zero _)
    | succ n ih =>
      have along : ∀ stop, Acc (Stop.After c.handlers) stop → ∀ r : SharedRun, Sound c D r →
          r.rank < n + 1 → r.probe.sessions = [stop] → Acc Next r := by
        intro stop ends
        induction ends with
        | intro stop _ along =>
          have busy : ∀ r : SharedRun, Sound c D r → r.rank < n + 1 → r.probe.sessions = [stop] →
              r.isIdle = false → Acc Next r := by
            intro r sound less one busy
            constructor
            intro r' next
            have sound' : Sound c D r' := sound.next next
            rcases next_cases sound next with
              fewer | ⟨same, old, new, one', newer, after⟩ | ⟨idle, -⟩
            · exact ih r' sound' (by omega)
            · obtain rfl : old = stop := by simpa [one] using one'.symm
              exact along new after r' sound' (by omega) newer
            · simp [idle] at busy
          intro r sound less one
          constructor
          intro r' next
          have sound' : Sound c D r' := sound.next next
          rcases next_cases sound next with
            fewer | ⟨same, old, new, one', newer, after⟩ | ⟨-, ready, same, sessions⟩
          · exact ih r' sound' (by omega)
          · obtain rfl : old = stop := by simpa [one] using one'.symm
            exact along new after r' sound' (by omega) newer
          · exact busy r' sound' (by omega) (sessions.trans one) ready
      intro r sound less
      obtain ⟨stop, _, _, one, -, -⟩ := sound.attended
      exact along stop (Stop.acc_after _ stop) r sound less one
  exact ranked (r.rank + 1) r h (Nat.lt_succ_self _)

/-- A row of runs, each of which is next after the one before it, breaks off. -/
theorem breaks_off_of_acc (h : Acc Next r) :
    ∀ runs : Nat → SharedRun, runs 0 = r → ∃ n, ¬ Next (runs (n + 1)) (runs n) := by
  induction h with
  | intro r _ ih =>
    intro runs start
    by_cases first : Next (runs 1) r
    · obtain ⟨n, last⟩ := ih (runs 1) first (fun n => runs (n + 1)) rfl
      exact ⟨n + 1, last⟩
    · exact ⟨0, by rwa [start]⟩

end SharedRun

/-! ### When every wait ends -/

theorem Wait.eq_forever {wait : Wait} {now : Time} (h : wait.ends now = Option.none) :
    wait = .forever := by
  cases wait with
  | forever => rfl
  | _ => cases h

/-- Whether the wait for a margin before a deadline ends does not depend on when it begins. -/
theorem Span.untilMargin_endless {deadline margin : Span} {now : Time}
    (h : (deadline.untilMargin margin now).ends now = none) (t : Time) :
    (deadline.untilMargin margin t).ends t = none := by
  have exact_left (x : Time) {s : Time} (left : (Span.exact x).timeLeft s = .forever) : False := by
    have ends := Span.ends_timeLeft x s
    rw [left] at ends
    cases ends
  have forever := Wait.eq_forever h
  have same : deadline.untilMargin margin t = .forever := by
    cases deadline with
    | notANumber => exact forever
    | infinite negative => exact forever
    | exact x =>
      unfold Span.untilMargin at forever ⊢
      cases margin with
      | exact y =>
        have ends := Span.ends_untilMargin x y now
        rw [h] at ends
        cases ends
      | _ =>
        cases left : (Span.exact x).timeLeft now with
        | forever => exact (exact_left x left).elim
        | _ =>
          rw [left] at forever
          cases left' : (Span.exact x).timeLeft t with
          | forever => exact (exact_left x left').elim
          | _ => exact forever
  rw [same]
  rfl

/-- A shutdown that waits for its close handshake has a limit. -/
def Shutdown.Limited : Shutdown → Prop
  | .shaking limit _ => limit.isSome
  | _ => True

def ShutdownResult.Limited : ShutdownResult → Prop
  | .waits s => s.Limited
  | .returns _ => True

/-- Every wait of a task ends. -/
def TaskState.Limited : TaskState → Prop
  | .untilMargin wake | .untilDeadline wake | .resting _ wake => wake.isSome
  | .calling _ s => s.Limited
  | _ => True

/-- The waits of the timer end that begin now. -/
structure Probe.Bounded (p : Probe) : Prop where
  timeLeft : (p.timeLeft.ends p.now).isSome
  firstWait : (p.firstWait.ends p.now).isSome

namespace Probe

variable {p : Probe} {s : Shutdown} {y : ShutdownResult × Probe}

theorem limited_stopSession (p : Probe) : p.stopSession.1.Limited := by
  unfold stopSession
  split <;> trivial

theorem limited_shake (ends : (p.timeLeft.ends p.now).isSome) : p.shake.1.Limited := by
  unfold shake
  split
  next => exact limited_stopSession p
  next =>
    split
    next => trivial
    next =>
      split
      next => trivial
      next => exact rfl
    next forever =>
      rw [forever] at ends
      cases ends

theorem Bounded.limited_call (h : p.Bounded) : p.call.1.Limited := by
  unfold Probe.call
  split
  next => trivial
  next =>
    simp only
    split
    next => exact limited_shake h.timeLeft
    next => exact limited_stopSession _

theorem limited_goOn (limited : s.Limited) (step : p.goOn? s = some y) : y.1.Limited := by
  cases s with
  | shaking limit handshake =>
    cases handshake with
    | scheduled number behavior =>
      cases step
      exact limited
    | _ =>
      simp only [goOn?, Option.ite_none_right_eq_some, Option.some.injEq] at step
      obtain ⟨-, rfl⟩ := step
      first | exact limited | trivial
  | shaken =>
    cases step
    exact limited_stopSession p
  | cutOff =>
    cases step
    exact limited_stopSession _
  | cancelling =>
    simp only [goOn?, Option.ite_none_right_eq_some, Option.some.injEq] at step
    obtain ⟨-, rfl⟩ := step
    trivial

end Probe

theorem TaskState.limited_ofResult {y : ShutdownResult × Probe} (limited : y.1.Limited)
    (bounded : y.2.Bounded) (timer : Bool) : (TaskState.ofResult timer y).1.Limited := by
  obtain ⟨result, q⟩ := y
  cases result with
  | waits s => exact limited
  | returns status =>
    cases timer with
    | false => trivial
    | true => exact bounded.timeLeft

namespace TaskState

variable {p : Probe} {task : TaskState} {x : TaskState × Probe}

/-- A task that goes on waits for something that ends, too. -/
theorem limited_step (bounded : p.Bounded) (bounded' : x.2.Bounded) (limited : task.Limited)
    (step : task.step? p = some x) : x.1.Limited := by
  have called {timer : Bool} (same : x = ofResult timer p.call) : x.1.Limited := by
    subst same
    rw [ofResult_snd] at bounded'
    exact limited_ofResult bounded.limited_call bounded' timer
  cases task with
  | starting =>
    cases step
    exact bounded.firstWait
  | untilMargin wake =>
    simp only [step?, Option.ite_none_right_eq_some] at step
    obtain ⟨-, step⟩ := step
    split at step
    next => exact called (Option.some.inj step).symm
    next =>
      cases step
      exact bounded.timeLeft
  | untilDeadline wake =>
    simp only [step?, Option.ite_none_right_eq_some, Option.some.injEq] at step
    exact called step.2.symm
  | before instant =>
    simp only [step?, Option.ite_none_right_eq_some, Option.some.injEq] at step
    exact called step.2.symm
  | calling timer s =>
    simp only [step?, Option.map_eq_some_iff] at step
    obtain ⟨y, onward, rfl⟩ := step
    rw [ofResult_snd] at bounded'
    exact limited_ofResult (Probe.limited_goOn limited onward) bounded' timer
  | resting status wake =>
    simp only [step?, Option.ite_none_right_eq_some, Option.some.injEq] at step
    obtain ⟨-, rfl⟩ := step
    trivial
  | returned status => cases step

theorem limited_cutOff (step : task.cutOff? p = some x) : x.1.Limited := by
  cases task with
  | calling timer s =>
    cases s with
    | shaking limit handshake =>
      simp only [cutOff?, Probe.cutOff?, Option.map_eq_some_iff, Option.ite_none_right_eq_some,
        Option.some.injEq] at step
      obtain ⟨y, ⟨-, rfl⟩, rfl⟩ := step
      trivial
    | _ => cases step
  | _ => cases step

/-- A task that cannot go on and waits for no instant has returned, or waits for the end of the
session. -/
theorem returned_of_still (limited : task.Limited) (still : task.step? p = none)
    (none : task.wakes = []) :
    (∃ status, task = .returned status) ∨
      ∃ timer, task = .calling timer .cancelling ∧ p.sessionDone = false := by
  have never {wake : Option Time} (some : wake.isSome) : wake.toList ≠ [] := by
    cases wake <;> simp at some ⊢
  cases task with
  | starting => cases still
  | untilMargin wake => exact absurd none (never limited)
  | untilDeadline wake => exact absurd none (never limited)
  | before instant => cases none
  | calling timer s =>
    cases s with
    | shaking limit handshake =>
      have waits : limit.toList ≠ [] := never limited
      cases handshake with
      | closing wake number behavior => exact absurd (List.append_eq_nil_iff.mp none).1 waits
      | _ => exact absurd none waits
    | shaken => cases still
    | cutOff => cases still
    | cancelling =>
      refine .inr ⟨timer, rfl, ?_⟩
      cases done : p.sessionDone with
      | false => rfl
      | true => simp [step?, Probe.goOn?, done] at still
  | resting status wake => exact absurd none (never limited)
  | returned status => exact .inl ⟨status, rfl⟩

end TaskState

namespace SharedRun

variable {c : Client} {now : Time} {r r' : SharedRun}

theorem Sound.bounded (h : Sound c (Probe.deadlineOf c now) r) (ending : ¬ Probe.Endless c now) :
    r.probe.Bounded := by
  have grace : r.probe.grace = (Probe.fresh c now).grace := by
    unfold Probe.grace
    rw [h.client]
    rfl
  constructor
  · rw [Probe.timeLeft_of_deadline h.deadline, ← Option.ne_none_iff_isSome]
    exact fun none => ending (.inr ⟨_, none⟩)
  · simp only [Probe.firstWait, h.deadline, grace]
    rw [← Option.ne_none_iff_isSome]
    exact fun none => ending (.inl (Span.untilMargin_endless none now))

/-- Where every wait of the timer ends, every wait of every task does. -/
theorem limited_next (h : Sound c (Probe.deadlineOf c now) r) (ending : ¬ Probe.Endless c now)
    (limited : ∀ task ∈ r.tasks, task.Limited) (next : Next r' r) :
    ∀ task ∈ r'.tasks, task.Limited := by
  have bounded' := (h.next next).bounded ending
  obtain ⟨choice, step⟩ := next
  have put {i : Nat} {x : TaskState × Probe} (limited' : x.1.Limited) :
      ∀ task ∈ (r.put i x).tasks, task.Limited := by
    intro task inside
    rcases List.mem_or_eq_of_mem_set inside with old | rfl
    · exact limited task old
    · exact limited'
  rcases step_cases step with
    ⟨p, -, rfl⟩ | ⟨i, task, x, found, goes | cut, rfl⟩ | ⟨t, -, -, rfl⟩
  · exact limited
  · apply put
    exact TaskState.limited_step (h.bounded ending) bounded'
      (limited task (List.mem_of_getElem? found)) goes
  · exact put (TaskState.limited_cutOff cut)
  · exact limited

theorem limited_follow {choices : List Choice} (h : Sound c (Probe.deadlineOf c now) r)
    (ending : ¬ Probe.Endless c now) (limited : ∀ task ∈ r.tasks, task.Limited)
    (followed : r.follow choices = some r') : ∀ task ∈ r'.tasks, task.Limited := by
  have kept : ∀ r choice r', (Sound c (Probe.deadlineOf c now) r ∧ ∀ task ∈ r.tasks, task.Limited) →
      r.step? choice = some r' →
      Sound c (Probe.deadlineOf c now) r' ∧ ∀ task ∈ r'.tasks, task.Limited := by
    rintro r choice r' ⟨h, limited⟩ step
    exact ⟨h.step step, limited_next h ending limited ⟨choice, step⟩⟩
  exact (follow_induct kept choices ⟨h, limited⟩ followed).2

/-- A run starts with no wait yet. -/
theorem limited_share (c : Client) (now : Time) (script : Script) (instants : List Time) :
    ∀ task ∈ ((Probe.fresh c now).share script instants).tasks, task.Limited := by
  intro task inside
  rcases List.mem_cons.mp inside with rfl | inside
  · trivial
  · obtain ⟨instant, -, rfl⟩ := List.mem_map.mp inside
    trivial

/-- Where nothing can happen next, no task can go on, and none waits for an instant. -/
theorem still_of_stuck (stuck : ∀ r', ¬ Next r' r) : r.isIdle = true ∧ r.wakes = [] := by
  have idle : r.isIdle = true := by
    rw [isIdle_iff]
    constructor
    · cases step : r.probe.sessionStep? with
      | none => rfl
      | some p => exact absurd ⟨.session, by simp [step?, step]⟩ (stuck { r with probe := p })
    · intro task inside
      obtain ⟨i, found⟩ := List.getElem?_of_mem inside
      constructor
      · cases step : task.step? r.probe with
        | none => rfl
        | some x => exact absurd ⟨.task i, by simp [step?, found, step]⟩ (stuck (r.put i x))
      · cases step : task.cutOff? r.probe with
        | none => rfl
        | some x => exact absurd ⟨.cutOff i, by simp [step?, found, step]⟩ (stuck (r.put i x))
  refine ⟨idle, ?_⟩
  cases earliest : r.wakes.min? with
  | none => exact List.min?_eq_none_iff.mp earliest
  | some t =>
    exact absurd ⟨.tick, by simp [step?, idle, earliest]⟩
      (stuck { r with probe := { r.probe with now := t } })

/-- Where no task can go on, and none waits for an instant, nothing can happen next. -/
theorem stuck_of_still (idle : r.isIdle = true) (none : r.wakes = []) : ∀ r', ¬ Next r' r := by
  obtain ⟨session, still⟩ := isIdle_iff.mp idle
  rintro r' ⟨choice, step⟩
  rcases step_cases step with
    ⟨p, goes, -⟩ | ⟨i, task, x, found, goes | cut, -⟩ | ⟨t, -, earliest, -⟩
  · simp [session] at goes
  · simp [(still task (List.mem_of_getElem? found)).1] at goes
  · simp [(still task (List.mem_of_getElem? found)).2] at cut
  · simp [none] at earliest

/-- A schedule with limited waits ends only where all calls have returned zero, and the probe is
closed. -/
theorem all_returned {D : Span} (h : Sound c D r) (limited : ∀ task ∈ r.tasks, task.Limited)
    (stuck : ∀ r', ¬ Next r' r) : ∀ task ∈ r.tasks, task = .returned exitSuccess := by
  obtain ⟨idle, none⟩ := still_of_stuck stuck
  obtain ⟨session, still⟩ := isIdle_iff.mp idle
  intro task inside
  have waits : task.wakes = [] := by
    have all := (List.append_eq_nil_iff.mp none).2
    exact List.flatMap_eq_nil_iff.mp all task inside
  rcases TaskState.returned_of_still (limited task inside) (still task inside).1 waits with
    ⟨status, rfl⟩ | ⟨timer, rfl, undone⟩
  · rw [(h.fits _ inside).2]
  · -- A session that has been cancelled is done, or can still go on.
    obtain ⟨i, found⟩ := List.getElem?_of_mem inside
    obtain ⟨-, -, stopped⟩ := h.underway found
    rcases stopped rfl with done | ⟨wake, past, asleep⟩
    · simp [Probe.sessionDone, done, Stop.isFinished] at undone
    · have elapsed : reached r.probe.now (some wake) = true := by simp [reached, past]
      simp [Probe.sessionStep?, asleep, Stop.next?, Probe.scene, elapsed] at session

end SharedRun

end BoxProbe
