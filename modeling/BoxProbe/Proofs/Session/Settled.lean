/-
Module: BoxProbe.Proofs.Session.Settled
Purpose: What a run leaves behind once its shutdown has concluded.
Trusted boundary: none
Main exports: Trace.summaries, Probe.Going.session_watched, Probe.Settled,
  Probe.Going.conclude_settled, Probe.run_settles
-/
import BoxProbe.Proofs.Session.Connections
import BoxProbe.Proofs.Session.Deadline
import BoxProbe.Proofs.Session.Stage

namespace BoxProbe

/-!
The timer of a run may cut its session at any wait, and it concludes the shutdown in one go.  What
is left then follows from what the session and the timer can do at all: the session opens at most
one connection and closes none, and the timer calls `close` at most once and logs the summary
last.
-/

/-- The summary that an act logs. -/
def Act.summary? : Act → Option Stats
  | .notice (.finished stats) => some stats
  | _ => none

namespace Trace

/-- The summaries that were logged. -/
def summaries (t : Trace) : List Stats :=
  t.filterMap fun x => x.2.summary?

end Trace

/-! ### The session's part -/

/-- A session opens a connection only while it is connecting, and then connects no more. -/
theorem Stage.opened_of_step {s s' : Stage} {a : Act} (h : s.step a = some s') :
    (s' = .connecting → s = .connecting) ∧
      (a.opened?.isSome → s = .connecting ∧ s' = .opened) := by
  cases a with
  | opened script =>
    by_cases first : s = .connecting
    · simp only [step, first, if_true, Option.some.injEq] at h
      simp [← h, first]
    · simp [step, first] at h
  | becomes state => simp [ne_connecting_of_turn h, Act.opened?]
  | recorded incident => simp [ne_connecting_of_record h, Act.opened?]
  | dispatched event => simp [ne_connecting_of_tell h, Act.opened?]
  | _ => simp_all [step, Act.opened?]

/-- A session opens one connection at most, and none once it has stopped connecting. -/
theorem Stage.opened_of_watch (acts : List Act) :
    ∀ {s s' : Stage}, monitor.watch s acts = some s' →
      (acts.filterMap Act.opened?).length ≤ if s = .connecting then 1 else 0 := by
  induction acts with
  | nil =>
    intro s s' _
    simp
  | cons a rest ih =>
    intro s s' accepted
    rw [Monitor.watch_cons, Option.bind_eq_some_iff] at accepted
    obtain ⟨middle, first, onward⟩ := accepted
    obtain ⟨back, opens⟩ := opened_of_step first
    have few := ih onward
    cases opened : a.opened? with
    | none =>
      rw [List.filterMap_cons_none opened]
      refine few.trans ?_
      by_cases connecting : middle = .connecting
      · simp [connecting, back connecting]
      · simp [connecting]
    | some script =>
      obtain ⟨connecting, rfl⟩ := opens (by simp [opened])
      rw [List.filterMap_cons_some opened, connecting]
      simpa using few

/-! ### Acts of a session, and those of the timer -/

theorem Act.closeCall?_of_own {a : Act} (own : a.ofShutdown = false) : a.closeCall? = none := by
  cases a <;> first | rfl | cases own

theorem Act.summary?_of_own {a : Act} (own : a.ofShutdown = false) : a.summary? = none := by
  cases a with
  | notice n => cases n <;> first | rfl | cases own
  | _ => rfl

namespace Probe

variable {c : Client} {script : Script} {timer : Trace} {p : Probe}

/-- The acts of the timer are none of a session. -/
theorem Closes.ofShutdown {a : Act} (h : Closes a) : a.ofShutdown = true := by
  cases a with
  | notice n => cases n <;> simp [Closes] at h <;> rfl
  | _ => simp [Closes] at h <;> rfl

theorem Stops.ofShutdown {a : Act} (h : Stops a) : a.ofShutdown = true := by
  cases a <;> simp [Stops] at h <;> rfl

/-- What a run has done so far: its session went through its stages, beside the timer. -/
theorem Going.session_watched (h : p.Going c script timer) :
    ∃ begun w all stage, p.trace = (begun, .becomes .connecting) :: all ∧ Woven w timer all ∧
      Stage.monitor.watch .connecting (w.map (·.2)) = some stage := by
  obtain ⟨_, _, w, all, -, -, -, path, woven, begun, trace⟩ := h.session
  obtain ⟨stage, accepted, -⟩ := path.obeys (Client.session_obeys c.settings.url script)
  exact ⟨begun, w, all, stage, trace, woven, accepted⟩

/-- What a view of the timer shows of a run, if it shows nothing of the session. -/
theorem Going.filterMap_timer {α : Type} {f : Act → Option α} (h : p.Going c script timer)
    (begins : f (.becomes .connecting) = none)
    (hidden : ∀ a : Act, a.ofShutdown = false → f a = none) :
    p.trace.filterMap (fun x => f x.2) = timer.filterMap fun x => f x.2 := by
  obtain ⟨begun, w, all, stage, trace, woven, accepted⟩ := h.session_watched
  rw [trace, List.filterMap_cons]
  simp only [begins]
  apply woven.filterMap_eq
  intro x inside
  apply hidden
  exact Monitor.forall_of_watch (fun _ _ _ => Stage.not_ofShutdown_of_step) _ _ _ accepted x.2
    (List.mem_map_of_mem inside)

theorem Going.closeCalls_eq (h : p.Going c script timer) :
    p.trace.closeCalls = timer.closeCalls := by
  apply h.filterMap_timer rfl
  intro a
  exact Act.closeCall?_of_own

/-- No summary is logged before the shutdown concludes. -/
theorem Going.summaries_eq (h : p.Going c script timer) (closes : ∀ x ∈ timer, Closes x.2) :
    p.trace.summaries = [] := by
  have shown : p.trace.summaries = timer.summaries := by
    apply h.filterMap_timer rfl
    intro a
    exact Act.summary?_of_own
  rw [shown]
  apply List.filterMap_eq_nil_iff.mpr
  intro x inside
  have closing := closes x inside
  cases a : x.2 with
  | notice n => cases n <;> simp_all [Closes, Act.summary?]
  | _ => rfl

/-- The connections of a run are those that its session has opened. -/
theorem opened_of_woven {w all : Trace} (woven : Woven w timer all)
    (closes : ∀ x ∈ timer, Closes x.2) (begun : Time) :
    Trace.opened ((begun, .becomes .connecting) :: all) =
      (w.map (·.2)).filterMap Act.opened? := by
  have hidden : ∀ x ∈ timer, x.2.opened? = none := by
    intro x inside
    have closing := closes x inside
    cases a : x.2 <;> simp_all [Closes, Act.opened?]
  have same : Trace.opened all = Trace.opened w := woven.symm.filterMap_eq hidden
  rw [List.filterMap_map]
  exact same

theorem Going.length_sockets_le (h : p.Going c script timer) (closes : ∀ x ∈ timer, Closes x.2) :
    p.trace.sockets.length ≤ 1 := by
  obtain ⟨begun, w, all, stage, trace, woven, accepted⟩ := h.session_watched
  rw [Trace.length_sockets, trace, opened_of_woven woven closes]
  exact Stage.opened_of_watch _ accepted

/-! ### The end of the shutdown -/

/-- The connection of a run, if there is one, is closing once its transport has been aborted. -/
theorem transport_of_abortTransport (few : p.trace.sockets.length ≤ 1) :
    ∀ s ∈ p.abortTransport.trace.sockets, s.transport ≠ some false := by
  have one : p.trace.sockets = [] ∨ ∃ s, p.trace.sockets = [s] := by
    match sockets : p.trace.sockets with
    | [] => exact .inl rfl
    | [s] => exact .inr ⟨s, rfl⟩
    | _ :: _ :: _ => simp [sockets] at few
  rcases one with none | ⟨s, one⟩
  · have same : p.abortTransport = p := by simp [abortTransport, Trace.socket?, none]
    rw [same, none]
    simp
  · by_cases live : s.transport = some false
    · have aborted : p.abortTransport = p.act (.aborted 0) := by
        simp [abortTransport, Trace.socket?, one, live]
      rw [aborted]
      simp [Probe.act, Trace.sockets_append, Trace.socketsAfter, one, live]
    · have same : p.abortTransport = p := by
        simp [abortTransport, Trace.socket?, one, live]
      rw [same, one]
      simpa using live

theorem sockets_act (p : Probe) (a : Act) :
    (p.act a).trace.sockets = Trace.socketsAfter p.trace.sockets p.now a :=
  Trace.sockets_append p.trace p.now a

theorem sockets_cancelSession (p : Probe) : p.cancelSession.trace.sockets = p.trace.sockets := by
  unfold cancelSession
  split
  next => rfl
  next => exact sockets_act _ _

theorem sockets_conclude (p : Probe) :
    p.conclude.trace.sockets = p.cancelSession.abortTransport.trace.sockets := by
  simp only [conclude, log_eq_act, sockets_act]
  rfl

/-- What a view shows of the end of a shutdown, if it shows nothing of cancelling and aborting. -/
theorem Going.filterMap_conclude {α : Type} {f : Act → Option α} (h : p.Going c script timer)
    (cancelled : f .cancelled = none) (aborted : ∀ number, f (.aborted number) = none)
    (closed : f (.becomes .closed) = none) :
    p.conclude.trace.filterMap (fun x => f x.2) =
      p.trace.filterMap (fun x => f x.2) ++ (f (.notice (.finished p.trace.stats))).toList := by
  obtain ⟨-, stops, all, trace⟩ := h.conclude
  have silent : stops.filterMap (fun x => f x.2) = [] := by
    apply List.filterMap_eq_nil_iff.mpr
    intro x inside
    have stop := all x inside
    cases a : x.2 with
    | cancelled => exact cancelled
    | aborted number => exact aborted number
    | _ => simp [a, Stops] at stop
  rw [trace, List.filterMap_append, List.filterMap_append, silent, List.append_nil]
  cases summary : f (.notice (.finished p.trace.stats)) <;> simp [closed, summary]

theorem Going.stats_conclude (h : p.Going c script timer) :
    p.conclude.trace.stats = p.trace.stats := by
  obtain ⟨-, stops, all, trace⟩ := h.conclude
  rw [trace, stats_append (by simp [Counts])]
  exact stats_append fun x inside => (all x inside).uncounted

/-- What a run leaves behind: a closed state, no session, no live transport, at most one call of
`close`, and one summary. -/
structure Settled (q : Probe) : Prop where
  state_closed : q.state = .closed
  session_done : q.sessions = [.finished]
  one_connection : q.trace.sockets.length ≤ 1
  not_live : ∀ s ∈ q.trace.sockets, s.transport ≠ some false
  closed_once : q.trace.closeCalls.length ≤ 1
  summary : q.trace.summaries =
    [{ sent := q.trace.sent.length
       received := q.trace.received.length
       qrCodes := q.trace.qrCodes.length
       errors := q.trace.errors.length }]

theorem Going.conclude_settled (h : p.Going c script timer) (closes : ∀ x ∈ timer, Closes x.2)
    (few : timer.closeCalls.length ≤ 1) : Settled p.conclude := by
  obtain ⟨alone, stops, all, trace⟩ := h.conclude
  have opened : p.conclude.trace.opened = p.trace.opened :=
    (h.filterMap_conclude rfl (fun _ => rfl) rfl).trans (List.append_nil _)
  have closeCalls : p.conclude.trace.closeCalls = p.trace.closeCalls :=
    (h.filterMap_conclude rfl (fun _ => rfl) rfl).trans (List.append_nil _)
  have summaries : p.conclude.trace.summaries = p.trace.summaries ++ [p.trace.stats] :=
    h.filterMap_conclude rfl (fun _ => rfl) rfl
  refine ⟨?_, alone, ?_, ?_, ?_, ?_⟩
  · simp [state, trace, Trace.state, Trace.stateFrom]
  · rw [Trace.length_sockets, opened, ← Trace.length_sockets]
    exact h.length_sockets_le closes
  · rw [sockets_conclude]
    apply transport_of_abortTransport
    rw [sockets_cancelSession]
    exact h.length_sockets_le closes
  · rw [closeCalls, h.closeCalls_eq]
    exact few
  · rw [summaries, h.summaries_eq closes, ← h.stats_conclude]
    rfl

end Probe

end BoxProbe
