/-
Module: BoxProbe.Proofs.Session.SharedReturns
Purpose: What a run and the calls of its shutdown come to, on every schedule.
Trusted boundary: none
Main exports: TaskState.answer?, SharedRun.Sound.at_return, Probe.shared_shutdowns,
  Probe.open_at_return_of_hangingClose
-/
import BoxProbe.Proofs.Session.SharedEnds

namespace BoxProbe

/-!
A shutdown happens once, whoever asks for it, and ends with a closed probe.  But a run returns when
its timer does, and the timer does not wait for a shutdown that another task has begun.
-/

/-- The status that the call of a task has returned. -/
def TaskState.answer? : TaskState → Option Nat
  | .resting status _ | .returned status => some status
  | _ => none

namespace SharedRun

variable {c : Client} {D : Span} {r : SharedRun}

theorem Sound.answer_eq (h : Sound c D r) {task : TaskState} (inside : task ∈ r.tasks)
    {status : Nat} (answer : task.answer? = some status) :
    r.probe.shutdownStarted = true ∧ status = exitSuccess := by
  have fits := h.fits task inside
  cases task with
  | resting status' wake =>
    cases answer
    exact fits
  | returned status' =>
    cases answer
    exact fits
  | _ => cases answer

theorem Sound.few (h : Sound c D r) :
    r.probe.trace.closeCalls.length ≤ 1 ∧ r.probe.trace.announcements.length ≤ 1 := by
  have phase := h.phase
  generalize r.shutdowns = waiting at phase
  cases phase with
  | unasked _ announced calls => simp [announced, calls]
  | @underway s onward _ =>
    have most : s.closes ≤ 1 := by
      unfold Shutdown.closes
      split <;> decide
    exact ⟨onward.calls.trans most, onward.announced.le⟩
  | concluded onward _ _ => exact ⟨onward.calls, onward.announced.le⟩

/-- Once a shutdown has been asked for, it has been announced, and it is over, or the call of one
task waits. -/
theorem Sound.of_asked (h : Sound c D r) (asked : r.probe.shutdownStarted = true) :
    r.probe.trace.announcements.length = 1 ∧
      ((r.probe.state = .closed ∧ r.probe.sessions = [.finished]) ∨ ∃ s, r.shutdowns = [s]) := by
  have phase := h.phase
  generalize r.shutdowns = waiting at phase ⊢
  cases phase with
  | unasked unasked _ _ =>
    rw [unasked] at asked
    cases asked
  | underway onward _ => exact ⟨onward.announced, .inr ⟨_, rfl⟩⟩
  | concluded onward closed done => exact ⟨onward.announced, .inl ⟨closed, done⟩⟩

/-- The calls of other tasks neither come nor go. -/
theorem length_next {r' : SharedRun} (next : Next r' r) : r'.tasks.length = r.tasks.length := by
  obtain ⟨choice, step⟩ := next
  rcases step_cases step with ⟨p, -, rfl⟩ | ⟨i, task, x, -, -, rfl⟩ | ⟨t, -, -, rfl⟩
  · rfl
  · simp [put]
  · rfl

theorem length_follow {choices : List Choice} {r' : SharedRun}
    (followed : r.follow choices = some r') : r'.tasks.length = r.tasks.length := by
  have kept : ∀ q choice q', q.tasks.length = r.tasks.length → step? q choice = some q' →
      q'.tasks.length = r.tasks.length := by
    intro q choice q' same step
    exact (length_next ⟨choice, step⟩).trans same
  exact follow_induct kept choices rfl followed

/-- Where the timer has returned, the shutdown is over, or another task waits in its call. -/
theorem Sound.at_return (h : Sound c D r) {status : Nat} (returned : r.status? = some status) :
    r.probe.trace.announcements.length = 1 ∧
      ((r.probe.state = .closed ∧ r.probe.sessions = [.finished]) ∨
        ∃ task ∈ r.tasks.tail, task.shutdown?.isSome) := by
  have first : ∃ others, r.tasks = .returned status :: others := by
    unfold status? at returned
    split at returned
    next status' others same =>
      cases returned
      exact ⟨others, same⟩
    next => cases returned
  obtain ⟨others, tasks⟩ := first
  have inside : TaskState.returned status ∈ r.tasks := by simp [tasks]
  obtain ⟨asked, -⟩ := h.answer_eq inside rfl
  obtain ⟨announced, concluded | ⟨s, waiting⟩⟩ := h.of_asked asked
  · exact ⟨announced, .inl concluded⟩
  · refine ⟨announced, .inr ?_⟩
    have member : s ∈ r.shutdowns := by simp [waiting]
    rw [shutdowns, tasks, List.filterMap_cons_none rfl] at member
    obtain ⟨task, other, calls⟩ := List.mem_filterMap.mp member
    exact ⟨task, by simpa [tasks] using other, by simp [calls]⟩

end SharedRun

namespace Probe

open SharedRun (Next)

/-- Whatever other tasks shut the probe of a run down, at whatever instants, in whatever order tasks
go on, and however the connection behaves: at every moment all calls that have returned have
returned zero, `close` has been called once at most, and one shutdown has been announced at most;
and where the run returns, exactly one has, and the probe is closed and its session done, unless
another task still waits in its call.  No schedule goes on for ever.  If every wait of the timer
ends, a schedule that has come to its end has brought the run and all calls to theirs, with the
probe closed and its session done. -/
theorem shared_shutdowns (c : Client) (now : Time) (script : Script) (instants : List Time) :
    let start := (fresh c now).share script instants
    (∀ choices r, start.follow choices = some r →
      r.tasks.length = instants.length + 1 ∧
        (∀ task ∈ r.tasks, ∀ status, task.answer? = some status → status = 0) ∧
        r.probe.trace.closeCalls.length ≤ 1 ∧ r.probe.trace.announcements.length ≤ 1 ∧
        ∀ status, r.status? = some status → r.probe.trace.announcements.length = 1 ∧
          ((r.probe.state = .closed ∧ r.probe.sessions = [.finished]) ∨
            ∃ task ∈ r.tasks.tail, task.shutdown?.isSome)) ∧
      (∀ runs : Nat → SharedRun, runs 0 = start → ∃ n, ¬ Next (runs (n + 1)) (runs n)) ∧
      (¬ Endless c now → ∀ choices r, start.follow choices = some r → (∀ r', ¬ Next r' r) →
        (∀ task ∈ r.tasks, task = .returned 0) ∧ r.probe.trace.announcements.length = 1 ∧
          r.probe.state = .closed ∧ r.probe.sessions = [.finished]) := by
  intro start
  have sound : SharedRun.Sound c (deadlineOf c now) start :=
    SharedRun.sound_share c now script instants
  refine ⟨?_, SharedRun.breaks_off_of_acc sound.acc, ?_⟩
  · intro choices r followed
    have h : SharedRun.Sound c (deadlineOf c now) r := sound.follow followed
    obtain ⟨calls, announced⟩ := h.few
    refine ⟨?_, ?_, calls, announced, fun status => h.at_return⟩
    · rw [SharedRun.length_follow followed]
      simp [start, share]
    · intro task inside status answer
      exact (h.answer_eq inside answer).2
  · intro ending choices r followed stuck
    have h : SharedRun.Sound c (deadlineOf c now) r := sound.follow followed
    have limited : ∀ task ∈ r.tasks, task.Limited :=
      SharedRun.limited_follow sound ending (SharedRun.limited_share c now script instants) followed
    have all := SharedRun.all_returned h limited stuck
    have none : r.shutdowns = [] := by
      apply List.filterMap_eq_nil_iff.mpr
      intro task inside
      exact congrArg TaskState.shutdown? (all task inside)
    obtain ⟨task, inside⟩ : ∃ task, task ∈ r.tasks := by
      apply List.exists_mem_of_length_pos
      rw [SharedRun.length_follow followed]
      exact Nat.succ_pos _
    obtain ⟨asked, -⟩ := h.answer_eq inside (by rw [all task inside]; rfl)
    obtain ⟨announced, concluded | ⟨s, waiting⟩⟩ := h.of_asked asked
    · exact ⟨all, announced, concluded⟩
    · rw [none] at waiting
      cases waiting

/-- A connection whose close never ends. -/
def hangingClose : Script :=
  { close := { wait := .forever } }

/-- With the default settings, another task shuts the probe down a second after the start, and the
close of the connection never ends: the run returns, and the other call after it. -/
theorem shared_shutdowns_hanging :
    let start := (fresh {} 0).share hangingClose [1]
    ∃ r, start.follow [.task 0, .session, .tick, .task 1, .task 1, .tick, .task 0, .tick, .task 0,
        .cutOff 1, .task 1, .session, .task 1] = some r ∧ (∀ r', ¬ Next r' r) ∧
      (∀ task ∈ r.tasks, task = .returned 0) ∧ r.probe.trace.announcements.length = 1 ∧
      r.probe.state = .closed ∧ r.probe.sessions = [.finished] := by
  intro start
  have ends : (start.follow [.task 0, .session, .tick, .task 1, .task 1, .tick, .task 0, .tick,
      .task 0, .cutOff 1, .task 1, .session, .task 1]).map (fun r => (r.isIdle, r.wakes)) =
        some (true, []) := by
    decide +kernel
  obtain ⟨r, followed, still⟩ := Option.map_eq_some_iff.mp ends
  rw [Prod.mk.injEq] at still
  have stuck : ∀ r', ¬ Next r' r := SharedRun.stuck_of_still still.1 still.2
  have ending : ¬ Endless {} 0 :=
    not_endless (L := 5) (C := 1) (by decide +kernel) (by norm_num) (by decide +kernel)
  obtain ⟨-, -, settled⟩ := shared_shutdowns {} 0 hangingClose [1]
  exact ⟨r, followed, stuck, settled ending _ r followed stuck⟩

/-- In that run the call of the timer finds the flag set and returns at once, so the run returns at
its deadline while the other call has not got on: the state is open and the session not done. -/
theorem open_at_return_of_hangingClose :
    (((fresh {} 0).share hangingClose [1]).follow [.task 0, .session, .tick, .task 1, .task 1,
        .tick, .task 0, .tick, .task 0]).map (fun r =>
          (r.status?, r.probe.now, r.probe.state, r.probe.sessionDone)) =
      some (some 0, 5, .open, false) := by
  decide +kernel

end Probe

end BoxProbe
