/-
Module: BoxProbe.Proofs.Session.Stretch
Purpose: A long stretch of a session is a row of short ones.
Trusted boundary: none
Main exports: Activity.run_split, Stop.Still, Stop.resume_still
-/
import BoxProbe.Proofs.Session.Path
import BoxProbe.Session.Shared

namespace BoxProbe

/-!
A session that is run up to a limit waits for every instant before it.  It can as well be run to its
next wait, and be resumed there up to the limit: the acts are the same, and so is the place where it
stops.  There it stays: nothing that it waits for happens before the limit.
-/

@[simp]
theorem Scene.called_now (s : Scene) (c : Callback) : (s.called c).now = s.now := by
  unfold Scene.called
  split <;> rfl

namespace Activity

variable {others : List Stop}

/-- What is left of an event is what calling its handlers goes on with. -/
theorem run_afterCall {e : Event} {number : Nat} {c : Callback} {next : Activity}
    {rest : List Callback} (limit : Option Time) (s : Scene)
    (behind : rest = (s.handlers.callbacks e.kind).drop (number + 1)) :
    (afterCall e number c next).run (Scene.elapse 0) limit (s, others) =
      serve (Scene.elapse 0) limit e next (next.run (Scene.elapse 0) limit) (number + 1) rest
        (s.called c, others) := by
  unfold afterCall Scene.called
  cases c.failure with
  | none => simp only [run, behind]
  | some f =>
    simp only [run, behind]
    rfl

theorem serve_split {e : Event} {next : Activity} (limit : Option Time)
    (split : ∀ s : Scene, next.run (Scene.elapse 0) limit (s, others) =
      let r := next.run (Scene.elapse 0) (some s.now) (s, others)
      r.stop.resume (Scene.elapse 0) limit (r.scene, r.others))
    (callbacks : List Callback) :
    ∀ (number : Nat) (s : Scene), callbacks = (s.handlers.callbacks e.kind).drop number →
      serve (Scene.elapse 0) limit e next (next.run (Scene.elapse 0) limit) number callbacks
          (s, others) =
        let r := serve (Scene.elapse 0) (some s.now) e next
          (next.run (Scene.elapse 0) (some s.now)) number callbacks (s, others)
        r.stop.resume (Scene.elapse 0) limit (r.scene, r.others) := by
  induction callbacks with
  | nil =>
    intro number s _
    exact split s
  | cons c rest ih =>
    intro number s left
    have behind := (turn_of_left left).2
    simp only [serve]
    generalize c.onCall s.trace.calls e.arguments = c
    cases c.pause with
    | none =>
      have onward := ih (number + 1) ((s.call e c).called c) (by
        rw [Scene.called_handlers]
        exact behind)
      have now : ((s.call e c).called c).now = s.now := Scene.called_now _ _
      rw [now] at onward
      exact onward
    | seconds length nonneg =>
      have late : isBefore ((s.call e c).now + length) (some s.now) = false :=
        not_isBefore_add s.now nonneg
      simp only [late, Bool.false_eq_true, if_false, Stop.resume, Scene.elapse_zero]
      split
      next =>
        exact (run_afterCall limit { s.call e c with now := (s.call e c).now + length }
          behind).symm
      next => rfl
    | forever => rfl

/-- A session that goes on up to a limit goes on to its next wait first. -/
theorem run_split (limit : Option Time) (a : Activity) :
    ∀ s : Scene, a.run (Scene.elapse 0) limit (s, others) =
      let r := a.run (Scene.elapse 0) (some s.now) (s, others)
      r.stop.resume (Scene.elapse 0) limit (r.scene, r.others) := by
  induction a with
  | done =>
    intro s
    rfl
  | act x next ih =>
    intro s
    exact ih (s.act x)
  | look next ih =>
    intro s
    exact ih s.trace s
  | dispatch e served next ih =>
    intro s
    exact serve_split limit ih _ served s rfl
  | pause wait next ih =>
    intro s
    cases wait with
    | none => exact ih s
    | seconds length nonneg =>
      simp only [run, not_isBefore_add s.now nonneg, Bool.false_eq_true, if_false, Stop.resume]
    | forever => rfl
  | listen socket wait arrived closed arrivedIh closedIh =>
    intro s
    cases isClosed : s.trace.isClosed socket with
    | true =>
      simp only [run, isClosed, if_true]
      exact closedIh s
    | false =>
      cases wait with
      | none =>
        simp only [run, isClosed, Bool.false_eq_true, if_false]
        exact arrivedIh s
      | seconds length nonneg =>
        have late : isBefore (s.now + length) (some s.now) = false := not_isBefore_add s.now nonneg
        simp only [run, late, isClosed, Bool.false_eq_true, if_false, Stop.resume]
      | forever => simp [run, isClosed, Stop.resume]

end Activity

theorem Stop.wake?_of_mem {stop : Stop} {t : Time} (h : t ∈ stop.wakes) :
    stop.wake? = some t := by
  cases stop with
  | finished => cases h
  | asleep wake next => simpa [wakes, wake?] using h
  | listening socket wake arrived closed => simpa [wakes, wake?] using h

/-- A stop at which a task stays up to a limit. -/
structure Stop.Still (limit : Option Time) (trace : Trace) (stop : Stop) : Prop where
  wakes : ∀ wake, stop.wake? = some wake → isBefore wake limit = false
  unclosed : ∀ socket wake arrived closed, stop = .listening socket wake arrived closed →
    trace.isClosed socket = false

namespace Stop.Still

variable {limit : Option Time} {t : Time} {s : Scene} {stop : Stop}

theorem finished (limit : Option Time) (trace : Trace) : Stop.finished.Still limit trace := by
  constructor
  · intro wake woken
    cases woken
  · intro socket wake arrived closed same
    cases same

theorem asleep {wake : Option Time} (late : ∀ w, wake = some w → isBefore w limit = false)
    (trace : Trace) (next : Activity) : (Stop.asleep wake next).Still limit trace := by
  refine ⟨late, ?_⟩
  intro socket wake arrived closed same
  cases same

theorem next?_eq (h : stop.Still (some t) s.trace) (early : s.now < t) : stop.next? s = none := by
  have unreached (wake : Option Time) (late : ∀ w, wake = some w → isBefore w (some t) = false) :
      reached s.now wake = false := by
    cases wake with
    | none => rfl
    | some w =>
      have after : t ≤ w := not_isBefore_some_iff.mp (late w rfl)
      simpa [reached] using lt_of_lt_of_le early after
  cases stop with
  | finished => rfl
  | asleep wake next =>
    have late := unreached wake h.wakes
    simp [next?, late]
  | listening socket wake arrived closed =>
    have late := unreached wake h.wakes
    simp [next?, h.unclosed _ _ _ _ rfl, late]

theorem resume_eq (h : stop.Still limit s.trace) (others : List Stop) :
    stop.resume (Scene.elapse 0) limit (s, others) = ⟨s, others, stop⟩ := by
  cases stop with
  | finished => rfl
  | asleep wake next =>
    cases wake with
    | none => rfl
    | some wake => simp [resume, h.wakes wake rfl]
  | listening socket wake arrived closed =>
    have unclosed := h.unclosed _ _ _ _ rfl
    cases wake with
    | none => simp [resume, unclosed]
    | some wake => simp [resume, unclosed, h.wakes wake rfl]

end Stop.Still

/-- Where a task listens, the connection is not closed. -/
def Progress.Unclosed (p : Progress (List Stop)) : Prop :=
  ∀ socket wake arrived closed, p.stop = .listening socket wake arrived closed →
    p.scene.trace.isClosed socket = false

theorem Progress.unclosed_finished (s : Scene) (others : List Stop) :
    (⟨s, others, .finished⟩ : Progress (List Stop)).Unclosed := by
  intro socket wake arrived closed same
  cases same

theorem Progress.unclosed_asleep (s : Scene) (others : List Stop) (wake : Option Time)
    (next : Activity) : (⟨s, others, .asleep wake next⟩ : Progress (List Stop)).Unclosed := by
  intro socket wake arrived closed same
  cases same

namespace Activity

variable {others : List Stop} {limit : Option Time}

theorem serve_unclosed {e : Event} {next : Activity}
    {finish : Scene × List Stop → Progress (List Stop)}
    (finished : ∀ s, (finish (s, others)).Unclosed) (callbacks : List Callback) :
    ∀ (number : Nat) (s : Scene),
      (serve (Scene.elapse 0) limit e next finish number callbacks (s, others)).Unclosed := by
  induction callbacks with
  | nil =>
    intro number s
    exact finished s
  | cons c rest ih =>
    intro number s
    simp only [serve]
    generalize c.onCall s.trace.calls e.arguments = c
    cases c.pause with
    | none => exact ih _ _
    | seconds length nonneg =>
      simp only [Scene.elapse_zero]
      split
      next => exact ih _ _
      next => exact Progress.unclosed_asleep _ _ _ _
    | forever => exact Progress.unclosed_asleep _ _ _ _

theorem run_unclosed (a : Activity) :
    ∀ s : Scene, (a.run (Scene.elapse 0) limit (s, others)).Unclosed := by
  induction a with
  | done =>
    intro s
    exact Progress.unclosed_finished s others
  | act x next ih =>
    intro s
    exact ih (s.act x)
  | look next ih =>
    intro s
    exact ih s.trace s
  | dispatch e served next ih =>
    intro s
    exact serve_unclosed ih _ served s
  | pause wait next ih =>
    intro s
    cases wait with
    | none => exact ih s
    | seconds length nonneg =>
      simp only [run, Scene.elapse_zero]
      split
      next => exact ih _
      next => exact Progress.unclosed_asleep _ _ _ _
    | forever => exact Progress.unclosed_asleep _ _ _ _
  | listen socket wait arrived closed arrivedIh closedIh =>
    intro s
    cases isClosed : s.trace.isClosed socket with
    | true =>
      simp only [run, isClosed, if_true]
      exact closedIh s
    | false =>
      have here (wake : Option Time) : (⟨s, others, .listening socket wake arrived closed⟩ :
          Progress (List Stop)).Unclosed := by
        rintro _ _ _ _ same
        cases same
        exact isClosed
      cases wait with
      | none =>
        simp only [run, isClosed, Bool.false_eq_true, if_false]
        exact arrivedIh s
      | seconds length nonneg =>
        simp only [run, isClosed, Bool.false_eq_true, if_false, Scene.elapse_zero]
        split
        next => exact arrivedIh _
        next => exact here _
      | forever =>
        simp only [run, isClosed, Bool.false_eq_true, if_false]
        exact here none

/-- A task that has been run up to a limit stays where it stopped. -/
theorem run_still (limit : Option Time) (a : Activity) (s : Scene) :
    let r := a.run (Scene.elapse 0) limit (s, others)
    r.stop.Still limit r.scene.trace := by
  intro r
  have followed : r.Follows s others limit a := run_follows a s
  obtain ⟨acts, b, reached⟩ := followed
  exact ⟨reached.wakes, run_unclosed a s⟩

end Activity

/-- A task that has gone on up to a limit stays where it stopped. -/
theorem Stop.resume_still (limit : Option Time) (stop : Stop) (s : Scene) (others : List Stop) :
    let r := stop.resume (Scene.elapse 0) limit (s, others)
    r.stop.Still limit r.scene.trace := by
  cases stop with
  | finished => exact .finished limit s.trace
  | asleep wake next =>
    cases wake with
    | none => exact .asleep (by simp) s.trace next
    | some wake =>
      by_cases soon : isBefore wake limit = true
      · simp only [resume, soon, if_true]
        exact Activity.run_still limit next _
      · simp only [resume, soon]
        apply Stop.Still.asleep
        rintro _ ⟨⟩
        simpa using soon
  | listening socket wake arrived closed =>
    cases isClosed : s.trace.isClosed socket with
    | true =>
      simp only [resume, isClosed, if_true]
      exact Activity.run_still limit closed s
    | false =>
      have here (late : ∀ w, wake = some w → isBefore w limit = false) :
          (Stop.listening socket wake arrived closed).Still limit s.trace := by
        refine ⟨late, ?_⟩
        rintro _ _ _ _ same
        cases same
        exact isClosed
      cases wake with
      | none =>
        simp only [resume, isClosed, Bool.false_eq_true, if_false]
        exact here (by simp)
      | some wake =>
        by_cases soon : isBefore wake limit = true
        · simp only [resume, isClosed, soon, Bool.false_eq_true, if_false, if_true]
          exact Activity.run_still limit arrived _
        · simp only [resume, isClosed, soon, Bool.false_eq_true, if_false]
          apply here
          rintro _ ⟨⟩
          simpa using soon

end BoxProbe
