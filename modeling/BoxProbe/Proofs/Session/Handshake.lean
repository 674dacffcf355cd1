/-
Module: BoxProbe.Proofs.Session.Handshake
Purpose: When the shutdown of a run calls `close` on its connection.
Trusted boundary: none
Main exports: Trace.handshakes, Probe.Going.socket?_of_open, Probe.Going.lastPart_calls,
  Probe.awake, Probe.due, Probe.handshake_iff
-/
import BoxProbe.Proofs.Session.EventOrder

namespace BoxProbe

/-!
The timer of a run looks at its connection twice: when the margin before the deadline is reached,
and when the shutdown begins.  A connection that is open both times is closed by a handshake, unless
there is no margin.  One that opens in between is seen at the deadline only, when no time is left,
and then `close` is not called.
-/

namespace Trace

/-- The calls of `close`, with their instants and their connections. -/
def handshakes (t : Trace) : List (Time × Nat) :=
  t.filterMap fun x => x.2.closeCall?.map fun socket => (x.1, socket)

theorem handshakes_eq_nil {t : Trace} (h : t.closeCalls = []) : t.handshakes = [] := by
  apply List.filterMap_eq_nil_iff.mpr
  intro x inside
  rw [List.filterMap_eq_nil_iff.mp h x inside]
  rfl

theorem handshakes_append (t more : Trace) :
    Trace.handshakes (t ++ more) = t.handshakes ++ more.handshakes :=
  List.filterMap_append

end Trace

namespace Stage

variable {s s' : Stage} {a : Act}

/-- Whether there is a connection at a stage that has not been lost. -/
def isUp : Stage → Bool
  | .opened | .greeting | .faulted | .excused | .receiving | .scanned => true
  | _ => false

theorem isUp_of_state (h : s.state = .open) : s.isUp = true := by
  cases s <;> first | rfl | cases h

/-- Only opening a connection brings one up. -/
theorem isUp_of_step (h : s.step a = some s') (up : s'.isUp = true) :
    s.isUp = true ∨ a.opened?.isSome := by
  cases a with
  | opened script => exact .inr rfl
  | becomes state =>
    simp only [step, turn] at h
    split at h <;> cases h <;> first | exact .inl rfl | cases up
  | recorded incident =>
    simp only [step, record] at h
    split at h <;> cases h <;> first | exact .inl rfl | cases up
  | dispatched event =>
    simp only [step, tell] at h
    split at h <;> cases h <;> first | exact .inl rfl | cases up
  | notice n =>
    simp only [step] at h
    split at h
    · cases h
    · cases h
      exact .inl up
  | closeCalled _ | closeCompleted _ | cancelled | aborted _ => cases h
  | _ =>
    cases h
    exact .inl up

/-- A session that has got a connection up has opened one. -/
theorem opened_of_isUp (acts : List Act) : ∀ {s s' : Stage}, monitor.watch s acts = some s' →
    s'.isUp = true → s.isUp = true ∨ acts.filterMap Act.opened? ≠ [] := by
  induction acts with
  | nil =>
    intro s s' accepted up
    cases accepted
    exact .inl up
  | cons a rest ih =>
    intro s s' accepted up
    rw [Monitor.watch_cons, Option.bind_eq_some_iff] at accepted
    obtain ⟨middle, first, onward⟩ := accepted
    rcases ih onward up with already | opens
    · rcases isUp_of_step first already with before | opens
      · exact .inl before
      · obtain ⟨script, opened⟩ := Option.isSome_iff_exists.mp opens
        exact .inr (by simp [List.filterMap_cons_some opened])
    · refine .inr fun none => opens ?_
      rw [List.filterMap_eq_nil_iff] at none ⊢
      exact fun x inside => none x (List.mem_cons_of_mem a inside)

end Stage

namespace Probe

variable {c : Client} {script : Script} {timer : Trace} {p : Probe}

theorem Going.handshakes_eq (h : p.Going c script timer) :
    p.trace.handshakes = timer.handshakes := by
  obtain ⟨begun, w, all, stage, trace, woven, accepted⟩ := h.session_watched
  rw [trace]
  apply woven.filterMap_eq
  intro x inside
  have own : x.2.ofShutdown = false :=
    Monitor.forall_of_watch (fun _ _ _ => Stage.not_ofShutdown_of_step) _ _ _ accepted x.2
      (List.mem_map_of_mem inside)
  rw [Act.closeCall?_of_own own]
  rfl

/-- An open connection is the first and only one. -/
theorem Going.socket?_of_open (h : p.Going c script timer) (closes : ∀ x ∈ timer, Closes x.2)
    (isOpen : p.state = .open) : ∃ s, p.trace.socket? = some (0, s) := by
  have few := h.length_sockets_le closes
  obtain ⟨begun, w, all, stage, trace, woven, accepted⟩ := h.session_watched
  have tells : stage.Tells (Trace.story ((begun, .becomes .connecting) :: all)) :=
    tells_of_woven woven closes accepted
  have told := tells.state_eq
  rw [← trace, Trace.state_story] at told
  have up := Stage.isUp_of_state (told.symm.trans isOpen)
  have opens : p.trace.opened ≠ [] := by
    rw [trace, opened_of_woven woven closes]
    exact (Stage.opened_of_isUp _ accepted up).resolve_left (by decide)
  have some : p.trace.sockets.length ≠ 0 := by
    rw [Trace.length_sockets]
    exact fun none => opens (List.length_eq_zero_iff.mp none)
  have one : p.trace.sockets.length = 1 := by omega
  obtain ⟨s, sockets⟩ := List.length_eq_one_iff.mp one
  exact ⟨s, by simp [Trace.socket?, sockets]⟩

/-- A shutdown that finds an open connection calls `close` at once and never again, if the deadline
is not reached, and does not call it otherwise. -/
theorem Going.closeHandshake_calls {D : Time} (h : p.Going c script timer)
    (closes : ∀ x ∈ timer, Closes x.2) (isOpen : p.state = .open)
    (limited : p.deadline = some (.exact D)) :
    ∃ (q : Probe) (more : Trace), p.closeHandshake = .ok q ∧ q.Going c script (timer ++ more) ∧
      q.deadline = p.deadline ∧ more.handshakes = if p.now < D then [(p.now, 0)] else [] := by
  obtain ⟨s, inUse⟩ := h.socket?_of_open closes isOpen
  have left : p.timeLeft = .ofLength (D + -p.now) := timeLeft_of_deadline limited
  unfold Probe.closeHandshake
  simp only [inUse, left]
  by_cases early : p.now < D
  · have nonneg : 0 ≤ D + -p.now := by linarith
    have positive : ¬ D + -p.now ≤ 0 := by linarith
    have called : Onward c script (timer ++ [(p.now, .closeCalled 0)]) [] (p.act (.closeCalled 0))
        (p.act (.closeCalled 0)) :=
      .refl (h.act (.closeCalled 0))
    have soon : ∀ l, some (p.now + (D + -p.now)) = some l → p.now ≤ l := by
      rintro l same
      rw [← Option.some.inj same]
      linarith
    have within := called.handshakeCalled soon s.script.close
    simp only [Wait.ofLength, nonneg, dite_true, positive, if_false, early, if_true]
    cases closed : p.handshakeUntil (some (p.now + (D + -p.now))) 0 s.script.close with
    | error q =>
      rw [closed] at within
      cases within.2
    | ok q =>
      rw [closed] at within
      obtain ⟨⟨more, going, -, none, -, deadline⟩, -⟩ := within
      rw [List.append_assoc] at going
      refine ⟨q, [(p.now, .closeCalled 0)] ++ more, rfl, going, deadline, ?_⟩
      rw [Trace.handshakes_append, Trace.handshakes_eq_nil none]
      rfl
  · have late : Wait.ofLength (D + -p.now) = .zero ∨
        ∃ nonneg, Wait.ofLength (D + -p.now) = .seconds (D + -p.now) nonneg := by
      unfold Wait.ofLength
      split
      next nonneg => exact .inr ⟨nonneg, rfl⟩
      next => exact .inl rfl
    have gone : D + -p.now ≤ 0 := by linarith
    refine ⟨p.log .handshakeUnfinished, [(p.now, .notice .handshakeUnfinished)], ?_,
      h.act (.notice .handshakeUnfinished), rfl, ?_⟩
    · rcases late with zero | ⟨nonneg, same⟩
      · rw [zero]
        rfl
      · rw [same]
        simp [gone]
    · rw [if_neg early]
      rfl

theorem Going.handshakes_conclude (h : p.Going c script timer) :
    p.conclude.trace.handshakes = p.trace.handshakes := by
  obtain ⟨-, stops, all, trace⟩ := h.conclude
  have silent : stops.handshakes = [] := by
    apply List.filterMap_eq_nil_iff.mpr
    intro x inside
    have stop := all x inside
    cases a : x.2 <;> simp_all [Stops, Act.closeCall?]
  rw [trace, Trace.handshakes_append, Trace.handshakes_append, silent, List.append_nil]
  exact List.append_nil _

/-- A run whose shutdown is due calls `close` exactly once, at that instant, if its connection is
open and the deadline is still to come, and does not call it otherwise. -/
theorem Going.lastPart_calls {D : Time} (h : p.Going c script [])
    (unasked : p.shutdownStarted = false) (limited : p.deadline = some (.exact D)) :
    ∃ q, p.lastPart = .ok (exitSuccess, q) ∧
      q.trace.handshakes = if p.state = .open ∧ p.now < D then [(p.now, 0)] else [] := by
  let begun : Probe := { p with shutdownStarted := true }.log (.shuttingDown p.state)
  have asked : { p with shutdownStarted := true }.Going c script [] := ⟨h.client_eq, h.session⟩
  have going : begun.Going c script [(p.now, .notice (.shuttingDown p.state))] :=
    asked.act (.notice (.shuttingDown p.state))
  have closes : ∀ x ∈ [(p.now, Act.notice (.shuttingDown p.state))], Closes x.2 := by
    simp [Closes]
  obtain ⟨r, timer, ended, onward, deadline, calls⟩ : ∃ (r : Probe) (timer : Trace),
      p.ending = .ok (exitSuccess, r.conclude) ∧ r.Going c script timer ∧
        r.deadline = p.deadline ∧
        timer.handshakes = if p.state = .open ∧ p.now < D then [(p.now, 0)] else [] := by
    by_cases isOpen : p.state = .open
    · have isOpen' : begun.state = .open := by
        have same : begun.state = p.state :=
          Trace.state_append_of_quiet (w := [(p.now, .notice (.shuttingDown p.state))])
            (by simp [Act.Quiet])
        rw [same, isOpen]
      obtain ⟨r, more, closed, onward, deadline, calls⟩ :=
        going.closeHandshake_calls closes isOpen' limited
      refine ⟨r, _, ?_, onward, deadline, ?_⟩
      · unfold Probe.ending
        rw [unasked, if_neg Bool.false_ne_true, if_pos isOpen, closed]
        rfl
      · rw [Trace.handshakes_append, calls]
        simp only [isOpen, true_and]
        rfl
    · refine ⟨begun, _, ?_, going, rfl, ?_⟩
      · unfold Probe.ending
        rw [unasked, if_neg Bool.false_ne_true, if_neg isOpen]
        rfl
      · rw [if_neg fun both => isOpen both.1]
        rfl
  have left : r.conclude.timeLeft.ends r.conclude.now = some (max r.now D) := by
    rw [timeLeft_of_deadline (by rw [conclude_deadline, deadline, limited]), Span.ends_timeLeft,
      conclude_now]
  refine ⟨{ r.conclude with now := max r.now D }, ?_, ?_⟩
  · unfold Probe.lastPart
    rw [ended]
    simp only [bind, Except.bind]
    rw [await_ok left, advance_of_finished onward.conclude.1]
    rfl
  · rw [← calls, ← onward.handshakes_eq]
    exact onward.handshakes_conclude

/-! ### The run -/

/-- Where a run stands when its timer first wakes. -/
def awake (p : Probe) (script : Script) : Awaited Probe :=
  (p.start script).await (p.start script).firstWait

/-- Where a run stands when its shutdown begins. -/
def due (p : Probe) (script : Script) : Awaited Probe := do
  (← p.awake script).untilDue

theorem course_eq (p : Probe) (script : Script) :
    p.course script = (p.due script).bind lastPart := by
  simp only [course, due, awake, bind, Except.bind]
  split <;> rfl

/-- A probe whose timer is awake begins its shutdown before an exact deadline only if its connection
is open, and then at once. -/
theorem Going.untilDue_exact {D : Time} (h : p.Going c script timer)
    (limited : p.deadline = some (.exact D)) :
    ∃ d, p.untilDue = .ok d ∧ d.Going c script timer ∧ d.deadline = some (.exact D) ∧
      d.shutdownStarted = p.shutdownStarted ∧ (d.now < D ↔ p.state = .open ∧ p.now < D) := by
  by_cases isOpen : p.state = .open
  · exact ⟨p, by simp [Probe.untilDue, isOpen], h, limited, rfl, by simp [isOpen]⟩
  · have ends : p.timeLeft.ends p.now = some (max p.now D) := by
      rw [timeLeft_of_deadline limited, Span.ends_timeLeft]
    refine ⟨p.advance (max p.now D), ?_, h.advance (le_max_left _ _), limited, rfl, ?_⟩
    · rw [Probe.untilDue, if_neg isOpen, await_ok ends]
    · simp [isOpen]

/-- A run with settings that nothing is found wrong with, and that are finite, calls `close` exactly
once, when its shutdown begins and before the deadline, if its connection is open then and was open
already when the timer woke at a margin before the deadline.  In all other runs `close` is never
called: that is so, too, if the connection has opened after the timer woke, or if there is no
margin. -/
theorem handshake_iff {L C : Time} (s : Settings) (usable : s.shortcomings = [])
    (lifetime : s.probe.lifetime.toRat? = some L)
    (closeTimeout : s.probe.closeTimeout.toRat? = some C)
    (handlers : Handlers) (registry : Registry) (now : Time) (script : Script) :
    let p := fresh { settings := s.probe, handlers, registry } now
    ∃ (margin : Time) (woken begun returned : Probe),
      p.grace.toRat? = some margin ∧ p.awake script = .ok woken ∧ p.due script = .ok begun ∧
        p.course script = .ok (0, returned) ∧
        (begun.now < now + L ↔ woken.state = .open ∧ 0 < margin) ∧
        returned.trace.handshakes =
          if begun.state = .open ∧ begun.now < now + L then [(begun.now, 0)] else [] := by
  intro p
  let c : Client := { settings := s.probe, handlers, registry }
  have positive : s.probe.lifetime.isNonpositive = false := by
    by_contra nonpositive
    simp [Settings.shortcomings, nonpositive] at usable
  have pos : 0 < L := Double.pos_of_not_nonpositive lifetime positive
  obtain ⟨g, grace, -⟩ := grace_exact (c := c) now lifetime pos closeTimeout
  obtain ⟨going, still⟩ := start_going c now script
  have limited : (p.start script).deadline = some (.exact (now + L)) :=
    congrArg some (deadlineOf_exact (c := c) lifetime)
  have wakes : (p.start script).firstWait.ends (p.start script).now =
      some (now + max 0 (L - g)) := by
    have margin : Span.ofDouble (p.start script).grace = .exact g := Span.ofDouble_exact grace
    rw [firstWait, limited, margin, still, Span.ends_untilMargin, add_sub_cancel_left,
      max_eq_right (le_of_lt pos)]
  let woken := (p.start script).advance (now + max 0 (L - g))
  have awake : p.awake script = .ok woken := await_ok wakes
  have going' : woken.Going c script [] := going.advance (Wait.le_of_ends wakes)
  have early : woken.now < now + L ↔ 0 < g := by
    have at' : woken.now = now + max 0 (L - g) := advance_now _ _
    rw [at']
    constructor
    · intro before
      have := le_max_right 0 (L - g)
      linarith
    · intro margin
      have : max 0 (L - g) < L := max_lt pos (by linarith)
      linarith
  obtain ⟨begun, reached, onward, limited', asked, before⟩ := going'.untilDue_exact limited
  have due : p.due script = .ok begun := by
    simp only [Probe.due, awake]
    exact reached
  obtain ⟨returned, ended, calls⟩ := onward.lastPart_calls asked limited'
  refine ⟨g, woken, begun, returned, grace, awake, due, ?_, ?_, calls⟩
  · rw [course_eq, due]
    exact ended
  · rw [before, early]

/-- The default settings on a connection that opens at once. -/
theorem handshake_iff_prompt :
    let p := fresh { settings := ({} : Settings).probe, handlers := [], registry := [] } 0
    ∃ (margin : Time) (woken begun returned : Probe),
      p.grace.toRat? = some margin ∧ p.awake {} = .ok woken ∧ p.due {} = .ok begun ∧
        p.course {} = .ok (0, returned) ∧
        (begun.now < 0 + 5 ↔ woken.state = .open ∧ 0 < margin) ∧
        returned.trace.handshakes =
          if begun.state = .open ∧ begun.now < 0 + 5 then [(begun.now, 0)] else [] :=
  handshake_iff (C := 1) {} (by decide +kernel) (by decide +kernel) (by decide +kernel) [] [] 0 {}

/-- A connection that opens half a second before the default deadline. -/
def lateOpening : Script :=
  { connectWait := .seconds (9 / 2) (by norm_num) }

/-- With the default settings, the shutdown of a run whose connection has opened within the margin
begins in the open state, and never calls `close`. -/
theorem no_handshake_of_lateOpening :
    ({} : Settings).shortcomings = [] ∧
      ((fresh {} 0).due lateOpening).toOption.map (fun p => (p.now, p.state)) = some (5, .open) ∧
      ((fresh {} 0).course lateOpening).toOption.map (fun r => r.2.trace.handshakes) = some [] := by
  decide +kernel

end Probe

end BoxProbe
