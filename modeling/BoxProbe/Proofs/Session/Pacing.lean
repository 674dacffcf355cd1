/-
Module: BoxProbe.Proofs.Session.Pacing
Purpose: When a run that nobody else shuts down closes its connection or cancels its session.
Trusted boundary: none
Main exports: Timing, Act.isParting, Probe.Ripe, Probe.Paced, TaskState.Timely, SharedRun.Paced,
  SharedRun.Paced.follow
-/
import BoxProbe.Proofs.Number.Half
import BoxProbe.Proofs.Session.Deadline
import BoxProbe.Proofs.Session.Moments

namespace BoxProbe

/-!
Nothing but its timer shuts such a run down.  The timer sleeps until the margin before the deadline,
and from there until the deadline if the connection is not open by then; so the shutdown begins
behind the margin, and on a pending connection behind the deadline, in whichever order the tasks go.
-/

/-- The instants that the settings of a run fix: its margin and its deadline. -/
structure Timing (c : Client) (now margin deadline : Time) : Prop where
  deadline_eq : Probe.deadlineOf c now = .exact deadline
  grace_eq : Span.ofDouble (Probe.fresh c now).grace = .exact (deadline - margin)

/-- The acts of a shutdown that close a connection or cancel its session. -/
def Act.isParting : Act → Bool
  | .closeCalled _ | .closeCompleted _ | .cancelled => true
  | _ => false

theorem Act.not_isParting_of_own {a : Act} (h : a.ofShutdown = false) : a.isParting = false := by
  cases a <;> first | rfl | cases h

namespace Trace

theorem unclosed_socketsAfter {sockets : List Socket} (h : ∀ s ∈ sockets, s.closedAt = none)
    (instant : Time) {a : Act} (stays : a.isParting = false) :
    ∀ s ∈ socketsAfter sockets instant a, s.closedAt = none := by
  have changed (i : Nat) (f : Socket → Socket) (still : ∀ s, (f s).closedAt = s.closedAt) :
      ∀ s ∈ sockets.modify i f, s.closedAt = none := by
    intro s inside
    obtain ⟨j, inside, rfl⟩ := List.mem_iff_getElem.mp inside
    rw [List.getElem_modify]
    split
    next => rw [still, h _ (List.getElem_mem _)]
    next => rw [h _ (List.getElem_mem _)]
  cases a with
  | opened script =>
    intro s inside
    rcases List.mem_append.mp inside with old | new
    · exact h s old
    · rw [List.mem_singleton.mp new]
  | sent i request => exact changed i _ fun _ => rfl
  | left i frame => exact changed i _ fun _ => rfl
  | aborted i => exact changed i _ fun _ => rfl
  | closeCalled i => cases stays
  | closeCompleted i => cases stays
  | _ => exact h

/-- A connection that is closed has been closed by a shutdown. -/
theorem parting_of_isClosed {t : Trace} {socket : Option Nat} (h : t.isClosed socket = true) :
    ∃ x ∈ t, x.2.isParting = true := by
  by_contra none
  have stays : ∀ x ∈ t, x.2.isParting = false := by simpa using none
  have unclosed : ∀ s ∈ t.sockets, s.closedAt = .none := by
    clear h none
    induction t using List.reverseRecOn with
    | nil => exact fun s inside => nomatch inside
    | append_singleton t x ih =>
      rw [sockets_append]
      apply unclosed_socketsAfter _ x.1 (stays x (by simp))
      exact ih fun y inside => stays y (List.mem_append_left _ inside)
  obtain ⟨number, -, s, found, closed⟩ := isClosed_iff.mp h
  rw [unclosed s (List.mem_of_getElem? found)] at closed
  cases closed

theorem stateFrom_ne_connecting {w : Trace} (turns : ∀ x ∈ w, x.2 ≠ .becomes .connecting) :
    ∀ {state : ConnectionState}, state ≠ .connecting → w.stateFrom state ≠ .connecting := by
  induction w with
  | nil =>
    intro state connected
    exact connected
  | cons x rest ih =>
    intro state connected
    obtain ⟨instant, a⟩ := x
    have onward := @ih fun y inside => turns y (List.mem_cons_of_mem _ inside)
    cases a with
    | becomes state' =>
      apply onward
      rintro rfl
      exact turns _ List.mem_cons_self rfl
    | _ => exact onward connected

/-- Where one history ends in another one, an act stands in the first part or in the second. -/
theorem split_append {t more before after : Trace} {x : Time × Act}
    (h : t ++ more = before ++ x :: after) :
    (∃ rest, t = before ++ x :: rest) ∨
      ∃ first, before = t ++ first ∧ more = first ++ x :: after := by
  rcases List.append_eq_append_iff.mp h with ⟨first, same, rest⟩ | ⟨rest, same, tail⟩
  · exact .inr ⟨first, same, rest⟩
  · match rest with
    | [] => exact .inr ⟨[], by simpa using same.symm, by simpa using tail.symm⟩
    | y :: rest =>
      obtain ⟨rfl, -⟩ := List.cons.inj tail
      exact .inl ⟨rest, same⟩

end Trace

namespace Probe

variable {margin deadline : Time} {p p' : Probe}

/-- A shutdown may be due: the margin has begun, and the deadline is over if the connection is still
pending. -/
structure Ripe (margin deadline : Time) (p : Probe) : Prop where
  begun : margin ≤ p.now
  settled : deadline ≤ p.now ∨ p.state ≠ .connecting

/-- What parts a connection is done behind the margin, and a session with a pending connection is
cancelled behind the deadline. -/
structure Paced (margin deadline : Time) (p : Probe) : Prop where
  partings : ∀ x ∈ p.trace, x.2.isParting = true → margin ≤ x.1 ∧ x.1 ≤ p.now
  pending : ∀ (before : Trace) t after, p.trace = before ++ (t, .cancelled) :: after →
    before.state = .connecting → deadline ≤ t

/-- Some acts more, of which none begins to connect. -/
structure Grows (p p' : Probe) (more : Trace) : Prop where
  now_le : p.now ≤ p'.now
  trace : p'.trace = p.trace ++ more
  turns : ∀ x ∈ more, x.2 ≠ .becomes .connecting

namespace Grows

variable {more : Trace}

theorem refl (p : Probe) : p.Grows p [] :=
  ⟨le_rfl, by simp, by simp⟩

theorem ripe (h : p.Grows p' more) (ripe : p.Ripe margin deadline) : p'.Ripe margin deadline := by
  refine ⟨ripe.begun.trans h.now_le, ?_⟩
  rcases ripe.settled with late | connected
  · exact .inl (late.trans h.now_le)
  · right
    unfold Probe.state Trace.state Trace.stateFrom
    rw [h.trace, List.foldl_append]
    exact Trace.stateFrom_ne_connecting h.turns connected

/-- A session parts nothing. -/
theorem paced_of_own (h : p.Grows p' more) (paced : p.Paced margin deadline)
    (own : ∀ x ∈ more, x.2.isParting = false) : p'.Paced margin deadline := by
  constructor
  · rw [h.trace]
    intro x inside parting
    rcases List.mem_append.mp inside with old | new
    · obtain ⟨late, past⟩ := paced.partings x old parting
      exact ⟨late, past.trans h.now_le⟩
    · rw [own x new] at parting
      cases parting
  · rw [h.trace]
    intro before t after split pending
    rcases Trace.split_append split with ⟨rest, old⟩ | ⟨first, -, new⟩
    · exact paced.pending before t rest old pending
    · have cancels := own (t, .cancelled) (by simp [new])
      cases cancels

/-- A shutdown that is due parts in time. -/
theorem paced_of_ripe (h : p.Grows p' more) (paced : p.Paced margin deadline)
    (ripe : p.Ripe margin deadline) (present : ∀ x ∈ more, x.1 = p.now) :
    p'.Paced margin deadline := by
  constructor
  · rw [h.trace]
    intro x inside parting
    rcases List.mem_append.mp inside with old | new
    · obtain ⟨late, past⟩ := paced.partings x old parting
      exact ⟨late, past.trans h.now_le⟩
    · rw [present x new]
      exact ⟨ripe.begun, h.now_le⟩
  · rw [h.trace]
    intro before t after split pending
    rcases Trace.split_append split with ⟨rest, old⟩ | ⟨first, rfl, new⟩
    · exact paced.pending before t rest old pending
    · have instant : t = p.now := present (t, .cancelled) (by simp [new])
      rw [instant]
      rcases ripe.settled with late | connected
      · exact late
      · have turns : ∀ x ∈ first, x.2 ≠ .becomes .connecting := by
          intro x inside
          exact h.turns x (by simp [new, inside])
        unfold Trace.state Trace.stateFrom at pending
        rw [List.foldl_append] at pending
        exact absurd pending (Trace.stateFrom_ne_connecting turns connected)

end Grows

theorem Asides.grows (h : p.Asides p') :
    ∃ more, p.Grows p' more ∧ ∀ x ∈ more, x.1 = p.now := by
  obtain ⟨more, trace, all⟩ := h.trace
  refine ⟨more, ⟨h.now.ge, trace, ?_⟩, fun x inside => (all x inside).1⟩
  rintro x inside same
  have aside := (all x inside).2
  rw [same] at aside
  cases aside

theorem Adds.grows (h : p.Adds p') : ∃ more, p.Grows p' more ∧ ∀ x ∈ more, x.1 = p.now := by
  rcases h with asides | ⟨q, asides, -, rfl⟩
  · exact asides.grows
  · obtain ⟨more, grows, present⟩ := asides.grows
    refine ⟨more ++ [(q.now, .cancelled)], ⟨grows.now_le, ?_, ?_⟩, ?_⟩
    · rw [← List.append_assoc, ← grows.trace]
      rfl
    · intro x inside
      rcases List.mem_append.mp inside with early | last
      · exact grows.turns x early
      · rw [List.mem_singleton.mp last]
        exact fun same => by cases same
    · intro x inside
      rcases List.mem_append.mp inside with early | last
      · exact present x early
      · rw [List.mem_singleton.mp last]
        exact asides.now

/-- A session that goes on does acts of its own. -/
theorem grows_session (attended : p.Attended) (goes : p.sessionStep? = some p') :
    ∃ more, p.Grows p' more ∧ ∀ x ∈ more, x.2.isParting = false := by
  obtain ⟨a, stage, obeys, rfl, -⟩ := sessionStep?_eq attended goes
  let progress := a.run (Scene.elapse 0) (some p.now) (p.scene, [])
  have followed : progress.Follows p.scene [] (some p.now) a := Activity.run_follows a p.scene
  obtain ⟨acts, b, reached⟩ := followed
  obtain ⟨stage', accepted, -⟩ := reached.path.obeys obeys
  have own := Monitor.forall_of_watch (m := Stage.monitor)
    (P := fun a => a.ofShutdown = false ∧ a ≠ .becomes .connecting) ?_ _ _ _ accepted
  · refine ⟨acts, ⟨reached.leadsTo.now_le, reached.leadsTo.trace, ?_⟩, ?_⟩
    · exact fun x inside => (own x.2 (List.mem_map_of_mem inside)).2
    · exact fun x inside => Act.not_isParting_of_own (own x.2 (List.mem_map_of_mem inside)).1
  · intro s a s' step
    refine ⟨Stage.not_ofShutdown_of_step step, ?_⟩
    rintro rfl
    cases s <;> cases step

end Probe

/-! ### The timer -/

namespace TaskState

variable {margin deadline : Time} {p p' : Probe} {task : TaskState}

/-- A timer sleeps long enough, and once it has begun to shut its probe down that is due. -/
def Timely (margin deadline : Time) (p : Probe) : TaskState → Prop
  | .starting => True
  | .untilMargin wake => ∀ w, wake = some w → margin ≤ w
  | .untilDeadline wake => ∀ w, wake = some w → margin ≤ w ∧ deadline ≤ w
  | .before _ => False
  | .calling _ _ | .resting _ _ | .returned _ => p.Ripe margin deadline

theorem Timely.grows {more : Trace} (h : task.Timely margin deadline p) (grows : p.Grows p' more) :
    task.Timely margin deadline p' := by
  cases task with
  | calling timer s => exact grows.ripe h
  | resting status wake => exact grows.ripe h
  | returned status => exact grows.ripe h
  | _ => exact h

theorem timely_ofResult {timer : Bool} {y : ShutdownResult × Probe}
    (ripe : y.2.Ripe margin deadline) :
    (ofResult timer y).1.Timely margin deadline (ofResult timer y).2 := by
  obtain ⟨result, q⟩ := y
  cases result with
  | waits s => exact ripe
  | returns status => cases timer <;> exact ripe

/-- What a shutdown comes to that is due. -/
theorem timely_of_adds {timer : Bool} {y : ShutdownResult × Probe} (ripe : p.Ripe margin deadline)
    (adds : p.Adds y.2) : (ofResult timer y).1.Timely margin deadline (ofResult timer y).2 ∧
      ((ofResult timer y).2 = p ∨ p.Ripe margin deadline ∧ p.Adds (ofResult timer y).2) := by
  obtain ⟨more, grows, -⟩ := adds.grows
  refine ⟨timely_ofResult (grows.ripe ripe), .inr ⟨ripe, ?_⟩⟩
  rw [ofResult_snd]
  exact adds

theorem of_reached {now : Time} {wake : Option Time} (h : reached now wake = true) :
    ∃ w, wake = some w ∧ w ≤ now := by
  simpa [reached, Option.any_eq_true] using h

/-- A timer that goes on stays timely, and acts only when a shutdown is due. -/
theorem Timely.step {c : Client} {now : Time} {x : TaskState × Probe}
    (h : task.Timely margin deadline p) (timing : Timing c now margin deadline)
    (client : p.client = c) (limited : p.deadline = some (Probe.deadlineOf c now))
    (step : task.step? p = some x) :
    x.1.Timely margin deadline x.2 ∧ (x.2 = p ∨ p.Ripe margin deadline ∧ p.Adds x.2) := by
  rw [timing.deadline_eq] at limited
  cases task with
  | starting =>
    cases step
    refine ⟨?_, .inl rfl⟩
    intro w ends
    have grace : p.grace = (Probe.fresh c now).grace := by rw [← client]; rfl
    have sleeps : p.firstWait =
        (Span.exact deadline).untilMargin (.exact (deadline - margin)) p.now := by
      simp only [Probe.firstWait, limited, grace, timing.grace_eq]
    rw [sleeps, Span.ends_untilMargin, Option.some.injEq] at ends
    have left := le_max_right 0 (deadline - p.now)
    have waits := le_max_right 0 (max 0 (deadline - p.now) - (deadline - margin))
    linarith
  | untilMargin wake =>
    simp only [step?, Option.ite_none_right_eq_some] at step
    obtain ⟨elapsed, step⟩ := step
    obtain ⟨w, rfl, past⟩ := of_reached elapsed
    have begun : margin ≤ p.now := (h w rfl).trans past
    split at step
    next isOpen =>
      cases step
      have ripe : p.Ripe margin deadline := ⟨begun, .inr (by simp [isOpen])⟩
      exact timely_of_adds ripe (Probe.adds_call p)
    next =>
      cases step
      refine ⟨?_, .inl rfl⟩
      intro w' ends
      simp only [Probe.timeLeft, limited, Span.ends_timeLeft, Option.some.injEq] at ends
      rw [← ends]
      exact ⟨begun.trans (le_max_left _ _), le_max_right _ _⟩
  | untilDeadline wake =>
    simp only [step?, Option.ite_none_right_eq_some, Option.some.injEq] at step
    obtain ⟨elapsed, rfl⟩ := step
    obtain ⟨w, rfl, past⟩ := of_reached elapsed
    obtain ⟨begun, late⟩ := h w rfl
    have ripe : p.Ripe margin deadline := ⟨begun.trans past, .inl (late.trans past)⟩
    exact timely_of_adds ripe (Probe.adds_call p)
  | before instant => exact h.elim
  | calling timer s =>
    simp only [step?, Option.map_eq_some_iff] at step
    obtain ⟨y, onward, rfl⟩ := step
    exact timely_of_adds h (Probe.adds_goOn onward)
  | resting status wake =>
    simp only [step?, Option.ite_none_right_eq_some, Option.some.injEq] at step
    obtain ⟨-, rfl⟩ := step
    exact ⟨h, .inl rfl⟩
  | returned status => cases step

theorem Timely.cutOff {x : TaskState × Probe} (h : task.Timely margin deadline p)
    (step : task.cutOff? p = some x) : x.1.Timely margin deadline x.2 := by
  cases task with
  | calling timer s =>
    simp only [cutOff?, Option.map_eq_some_iff] at step
    obtain ⟨y, cut, rfl⟩ := step
    apply timely_ofResult
    rw [Probe.cutOff?_eq cut]
    exact h
  | _ => cases step

end TaskState

/-! ### Runs -/

namespace SharedRun

variable {c : Client} {now margin deadline : Time} {r r' : SharedRun}

/-- A run whose tasks are timely has parted in time, if at all. -/
structure Paced (c : Client) (now margin deadline : Time) (r : SharedRun) : Prop where
  sound : r.Sound c (Probe.deadlineOf c now)
  probe : r.probe.Paced margin deadline
  tasks : ∀ task ∈ r.tasks, task.Timely margin deadline r.probe

namespace Paced

/-- A task has gone on, and with it the probe. -/
theorem put (h : r.Paced c now margin deadline) {i : Nat} {x : TaskState × Probe} {more : Trace}
    (sound : (r.put i x).Sound c (Probe.deadlineOf c now)) (grows : r.probe.Grows x.2 more)
    (paced : x.2.Paced margin deadline) (timely : x.1.Timely margin deadline x.2) :
    (r.put i x).Paced c now margin deadline := by
  refine ⟨sound, paced, ?_⟩
  intro task inside
  rcases List.mem_or_eq_of_mem_set inside with old | rfl
  · exact (h.tasks task old).grows grows
  · exact timely

/-- A task has gone on, and the probe is as it was. -/
theorem put_same (h : r.Paced c now margin deadline) {i : Nat} {x : TaskState × Probe}
    (sound : (r.put i x).Sound c (Probe.deadlineOf c now)) (same : x.2 = r.probe)
    (timely : x.1.Timely margin deadline x.2) : (r.put i x).Paced c now margin deadline := by
  have grows : r.probe.Grows x.2 [] := by
    rw [same]
    exact .refl r.probe
  have paced : x.2.Paced margin deadline := by
    rw [same]
    exact h.probe
  exact h.put sound grows paced timely

/-- Whatever happens next, a run stays paced. -/
theorem step (h : r.Paced c now margin deadline) (timing : Timing c now margin deadline)
    {choice : Choice} (step : r.step? choice = some r') : r'.Paced c now margin deadline := by
  have sound := h.sound.step step
  rcases step_cases step with
    ⟨p, goes, rfl⟩ | ⟨i, task, x, found, goes | cut, rfl⟩ | ⟨t, idle, earliest, rfl⟩
  · obtain ⟨more, grows, own⟩ := Probe.grows_session h.sound.attended goes
    refine ⟨sound, grows.paced_of_own h.probe own, ?_⟩
    exact fun task inside => (h.tasks task inside).grows grows
  · have timely := h.tasks task (List.mem_of_getElem? found)
    obtain ⟨onward, same | ⟨ripe, adds⟩⟩ :=
      timely.step timing h.sound.client h.sound.deadline goes
    · exact h.put_same sound same onward
    · obtain ⟨more, grows, present⟩ := adds.grows
      exact h.put sound grows (grows.paced_of_ripe h.probe ripe present) onward
  · have timely := h.tasks task (List.mem_of_getElem? found)
    exact h.put_same sound (TaskState.cutOff?_eq cut) (timely.cutOff cut)
  · have later : r.probe.now ≤ t := (lt_of_idle idle (List.min?_mem earliest)).le
    have grows : r.probe.Grows { r.probe with now := t } [] := ⟨later, by simp, by simp⟩
    refine ⟨sound, grows.paced_of_own h.probe (by simp), ?_⟩
    exact fun task inside => (h.tasks task inside).grows grows

theorem follow (h : r.Paced c now margin deadline) (timing : Timing c now margin deadline)
    {choices : List Choice} (followed : r.follow choices = some r') :
    r'.Paced c now margin deadline :=
  follow_induct (fun _ _ _ paced step => paced.step timing step) choices h followed

end Paced

/-- A run that nobody else shuts down starts paced. -/
theorem paced_share (c : Client) (now margin deadline : Time) (script : Script) :
    ((Probe.fresh c now).share script []).Paced c now margin deadline := by
  refine ⟨sound_share c now script [], ⟨?_, ?_⟩, ?_⟩
  · intro x inside parting
    obtain rfl := List.mem_singleton.mp inside
    cases parting
  · intro before t after split _
    have inside : (t, .cancelled) ∈ [(now, Act.becomes .connecting)] := by
      have whole : [(now, Act.becomes .connecting)] = before ++ (t, .cancelled) :: after := split
      simp [whole]
    simp at inside
  · intro task inside
    obtain rfl := List.mem_singleton.mp inside
    trivial

end SharedRun

end BoxProbe
