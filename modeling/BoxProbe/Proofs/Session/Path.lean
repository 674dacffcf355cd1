/-
Module: BoxProbe.Proofs.Session.Path
Purpose: The steps that an activity can take, and that a task which is run goes along them.
Trusted boundary: none
Main exports: isBefore_of_le, not_isBefore_add, Activity.Step, Activity.Path, Stop.Leaves,
  Progress.Reaches, Progress.Follows, Activity.run_follows, Stop.resume_follows
-/
import BoxProbe.Session.Activity
import Mathlib.Algebra.Order.Ring.Rat
import Mathlib.Tactic.Linarith

namespace BoxProbe

/-!
A step forgets the clock and what the task can see: it may wait for any time, look at any history,
and find its connection closed whenever it listens.  So whatever holds of all paths through an
activity holds of a task that is run at any times, beside anything else.
-/

/-! ### Limits -/

section Limits

variable {t t' : Time} {limit : Option Time}

theorem isBefore_some_iff {l : Time} : isBefore t (some l) = true ↔ t < l :=
  decide_eq_true_iff

theorem not_isBefore_some_iff {l : Time} : isBefore t (some l) = false ↔ l ≤ t := by
  simp [isBefore]

theorem le_of_isBefore (soon : isBefore t limit = true) : ∀ l, limit = some l → t ≤ l := by
  rintro l rfl
  exact (isBefore_some_iff.mp soon).le

/-- What does not lie behind an instant before a limit is before the limit as well. -/
theorem isBefore_of_le (h : t ≤ t') (soon : isBefore t' limit = true) :
    isBefore t limit = true := by
  cases limit with
  | none => rfl
  | some l => exact isBefore_some_iff.mpr (h.trans_lt (isBefore_some_iff.mp soon))

/-- No wait ends before the instant at which it begins. -/
theorem not_isBefore_add (t : Time) {length : Time} (nonneg : 0 ≤ length) :
    isBefore (t + length) (some t) = false :=
  not_isBefore_some_iff.mpr (le_add_of_nonneg_right nonneg)

end Limits

/-! ### Steps and paths -/

namespace Activity

/-- One step of an activity under some handlers: the acts it does, and what is left of it. -/
inductive Step (h : Handlers) : Activity → List Act → Activity → Prop where
  | act (a : Act) (next : Activity) : Step h (.act a next) [a] next
  | pause (wait : Wait) (next : Activity) : Step h (.pause wait next) [] next
  | look (next : Trace → Activity) (t : Trace) : Step h (.look next) [] (next t)
  | call {e : Event} {number : Nat} {next : Activity} {c : Callback}
      (turn : (h.callbacks e.kind)[number]? = some c) (earlier : List (Time × Call)) :
      Step h (.dispatch e number next) [.called ⟨c.label, e.arguments⟩]
        (.pause (c.onCall earlier e.arguments).pause
          (afterCall e number (c.onCall earlier e.arguments) next))
  | served {e : Event} {number : Nat} {next : Activity}
      (past : (h.callbacks e.kind)[number]? = none) : Step h (.dispatch e number next) [] next
  | arrived (socket : Option Nat) (wait : Wait) (arrived closed : Activity) :
      Step h (.listen socket wait arrived closed) [] arrived
  | closed (socket : Option Nat) (wait : Wait) (arrived closed : Activity) :
      Step h (.listen socket wait arrived closed) [] closed

/-- A path through an activity: the acts on it, and what is left at its end. -/
inductive Path (h : Handlers) : Activity → List Act → Activity → Prop where
  | refl (a : Activity) : Path h a [] a
  | step {a b c : Activity} {u w : List Act} (first : Step h a u b) (rest : Path h b w c) :
      Path h a (u ++ w) c

namespace Path

variable {h : Handlers} {a b c : Activity} {u w : List Act}

theorem trans (one : Path h a u b) (two : Path h b w c) : Path h a (u ++ w) c := by
  induction one with
  | refl _ => exact two
  | step first _ ih =>
    rw [List.append_assoc]
    exact .step first (ih two)

theorem silent (first : Step h a [] b) (rest : Path h b w c) : Path h a w c :=
  .step first rest

end Path

end Activity

namespace Stop

open Activity

/-- What is left of a task at a stop. -/
inductive Leaves : Stop → Activity → Prop where
  | finished : Leaves .finished .done
  | asleep (wake : Option Time) (next : Activity) : Leaves (.asleep wake next) next
  | listening (socket : Option Nat) (wake : Option Time) (wait : Wait) (arrived closed : Activity) :
      Leaves (.listening socket wake arrived closed) (.listen socket wait arrived closed)

/-- When a stopped task wakes, if it does so by itself. -/
def wake? : Stop → Option Time
  | .finished => none
  | .asleep wake _ => wake
  | .listening _ wake _ _ => wake

end Stop

/-- Acts that lead from one scene to a later one. -/
structure Scene.LeadsTo (s : Scene) (acts : Trace) (s' : Scene) : Prop where
  handlers : s'.handlers = s.handlers
  trace : s'.trace = s.trace ++ acts
  now_le : s.now ≤ s'.now

namespace Scene.LeadsTo

variable {s s' s'' : Scene} {u w : Trace}

theorem refl (s : Scene) : s.LeadsTo [] s :=
  ⟨rfl, by simp, le_refl _⟩

theorem trans (one : s.LeadsTo u s') (two : s'.LeadsTo w s'') : s.LeadsTo (u ++ w) s'' :=
  ⟨two.handlers.trans one.handlers, by rw [two.trace, one.trace, List.append_assoc],
    le_trans one.now_le two.now_le⟩

theorem act (s : Scene) (a : Act) : s.LeadsTo [(s.now, a)] (s.act a) :=
  ⟨rfl, rfl, le_refl _⟩

theorem wait (s : Scene) {t : Time} (h : s.now ≤ t) : s.LeadsTo [] { s with now := t } :=
  ⟨rfl, by simp, h⟩

end Scene.LeadsTo

@[simp]
theorem Scene.called_handlers (s : Scene) (c : Callback) :
    (s.called c).handlers = s.handlers := by
  unfold Scene.called
  split <;> rfl

/-- Without other tasks only the clock moves. -/
@[simp]
theorem Scene.elapse_zero (t : Time) (s : Scene) (others : List Stop) :
    Scene.elapse 0 t (s, others) = ({ s with now := t }, others) := by
  rfl

/-- How far a task got from a scene, with no other task beside it: along a path, and up to a wait
that does not end before the limit. -/
structure Progress.Reaches (p : Progress (List Stop)) (s : Scene) (others : List Stop)
    (limit : Option Time) (a : Activity) (acts : Trace) (b : Activity) : Prop where
  path : a.Path s.handlers (acts.map (·.2)) b
  leaves : p.stop.Leaves b
  leadsTo : s.LeadsTo acts p.scene
  others_eq : p.others = others
  wakes : ∀ wake, p.stop.wake? = some wake → isBefore wake limit = false
  inTime : ∀ t, limit = some t → s.now ≤ t → p.scene.now ≤ t

/-- A task got along some path. -/
def Progress.Follows (p : Progress (List Stop)) (s : Scene) (others : List Stop)
    (limit : Option Time) (a : Activity) : Prop :=
  ∃ acts b, p.Reaches s others limit a acts b

namespace Progress.Follows

variable {p : Progress (List Stop)} {s s' : Scene} {others : List Stop} {limit : Option Time}
  {a b : Activity} {u : Trace}

/-- A task that goes on along a path from a later scene goes along one from an earlier scene. -/
theorem after (path : a.Path s.handlers (u.map (·.2)) b) (led : s.LeadsTo u s')
    (inTime : ∀ t, limit = some t → s.now ≤ t → s'.now ≤ t) (h : p.Follows s' others limit b) :
    p.Follows s others limit a := by
  obtain ⟨w, c, reached⟩ := h
  refine ⟨u ++ w, c, ?_, reached.leaves, led.trans reached.leadsTo, reached.others_eq,
    reached.wakes, ?_⟩
  · rw [List.map_append]
    have rest := reached.path
    rw [led.handlers] at rest
    exact path.trans rest
  · intro t limited early
    exact reached.inTime t limited (inTime t limited early)

theorem silent (first : a.Step s.handlers [] b) (h : p.Follows s others limit b) :
    p.Follows s others limit a :=
  after (u := []) (.silent first (.refl b)) (.refl s) (fun _ _ early => early) h

theorem act {x : Act} (first : a.Step s.handlers [x] b) (h : p.Follows (s.act x) others limit b) :
    p.Follows s others limit a :=
  after (u := [(s.now, x)]) (.step first (.refl b)) (.act s x) (fun _ _ early => early) h

theorem later {t : Time} (later : s.now ≤ t) (soon : isBefore t limit = true)
    (h : p.Follows { s with now := t } others limit a) : p.Follows s others limit a := by
  refine after (u := []) (.refl a) (.wait s later) ?_ h
  exact fun l limited _ => le_of_isBefore soon l limited

theorem wait {t : Time} (first : a.Step s.handlers [] b) (later : s.now ≤ t)
    (soon : isBefore t limit = true) (h : p.Follows { s with now := t } others limit b) :
    p.Follows s others limit a :=
  silent first (h.later later soon)

theorem here {stop : Stop} (leaves : stop.Leaves a)
    (wakes : ∀ wake, stop.wake? = some wake → isBefore wake limit = false) :
    (⟨s, others, stop⟩ : Progress (List Stop)).Follows s others limit a :=
  ⟨[], a, .refl a, leaves, .refl s, rfl, wakes, fun _ _ early => early⟩

end Progress.Follows

namespace Activity

variable {others : List Stop} {limit : Option Time}

theorem called_follows {p : Progress (List Stop)} {s : Scene} {e : Event} {number : Nat}
    {c : Callback} {next : Activity}
    (h : p.Follows (s.called c) others limit (.dispatch e (number + 1) next)) :
    p.Follows s others limit (afterCall e number c next) := by
  unfold Scene.called at h
  unfold afterCall
  cases failing : c.failure with
  | none =>
    rw [failing] at h
    exact h
  | some f =>
    rw [failing] at h
    exact h.act (.act _ _)

/-- Of the handlers that are left from a number on, the first has that number, and the others are
left after it. -/
theorem turn_of_left {callbacks rest : List Callback} {number : Nat} {c : Callback}
    (left : c :: rest = callbacks.drop number) :
    callbacks[number]? = some c ∧ rest = callbacks.drop (number + 1) := by
  constructor
  · rw [← List.head?_drop, ← left]
    rfl
  · rw [← List.tail_drop, ← left]
    rfl

/-- Calling the handlers of an event goes along the activity that calls them. -/
theorem serve_follows {e : Event} {next : Activity}
    {finish : Scene × List Stop → Progress (List Stop)}
    (finished : ∀ s, (finish (s, others)).Follows s others limit next) (callbacks : List Callback) :
    ∀ (number : Nat) (s : Scene), callbacks = (s.handlers.callbacks e.kind).drop number →
      (serve (Scene.elapse 0) limit e next finish number callbacks (s, others)).Follows s others
        limit (.dispatch e number next) := by
  induction callbacks with
  | nil =>
    intro number s left
    have past : (s.handlers.callbacks e.kind)[number]? = none := by
      rw [List.getElem?_eq_none_iff]
      exact List.drop_eq_nil_iff.mp left.symm
    exact (finished s).silent (.served past)
  | cons c rest ih =>
    intro number s left
    obtain ⟨turn, behind⟩ := turn_of_left left
    apply Progress.Follows.act (.call turn s.trace.calls)
    simp only [serve]
    rw [← Callback.label_onCall c s.trace.calls e.arguments]
    generalize c.onCall s.trace.calls e.arguments = c
    have onward (s' : Scene) (same : s'.handlers = s.handlers) :
        (serve (Scene.elapse 0) limit e next finish (number + 1) rest
          (s'.called c, others)).Follows s' others limit (afterCall e number c next) := by
      apply called_follows
      apply ih
      rw [Scene.called_handlers, same]
      exact behind
    have asleep (wake : Option Time) (late : ∀ t, wake = some t → isBefore t limit = false) :
        (⟨s.call e c, others, .asleep wake (afterCall e number c next)⟩ :
          Progress (List Stop)).Follows (s.call e c) others limit (afterCall e number c next) :=
      .here (.asleep _ _) late
    cases c.pause with
    | none => exact (onward (s.call e c) rfl).silent (.pause _ _)
    | seconds length nonneg =>
      have later : (s.call e c).now ≤ (s.call e c).now + length := by linarith
      by_cases soon : isBefore ((s.call e c).now + length) limit = true
      · simp only [soon, if_true, Scene.elapse_zero]
        have rest := onward { s.call e c with now := (s.call e c).now + length } rfl
        exact rest.wait (.pause _ _) later soon
      · simp only [soon]
        refine (asleep _ ?_).silent (.pause _ _)
        intro t woken
        rw [← Option.some.inj woken]
        simpa using soon
    | forever => exact (asleep none (by simp)).silent (.pause _ _)

/-- A task that is run goes along its activity. -/
theorem run_follows (a : Activity) :
    ∀ s : Scene, (a.run (Scene.elapse 0) limit (s, others)).Follows s others limit a := by
  induction a with
  | done =>
    intro s
    exact .here .finished (by simp [Stop.wake?])
  | act x next ih =>
    intro s
    exact (ih (s.act x)).act (.act x next)
  | look next ih =>
    intro s
    exact (ih s.trace s).silent (.look next s.trace)
  | dispatch e served next ih =>
    intro s
    exact serve_follows ih _ served s rfl
  | pause wait next ih =>
    intro s
    cases wait with
    | none => exact (ih s).silent (.pause _ _)
    | seconds length nonneg =>
      have later : s.now ≤ s.now + length := by linarith
      simp only [run, Scene.elapse_zero]
      split
      next soon => exact (ih _).wait (.pause _ _) later soon
      next late =>
        exact .silent (.pause _ _) (.here (.asleep _ _) (by simpa [Stop.wake?] using late))
    | forever => exact .silent (.pause _ _) (.here (.asleep _ _) (by simp [Stop.wake?]))
  | listen socket wait arrived closed arrivedFollows closedFollows =>
    intro s
    simp only [run, Scene.elapse_zero]
    split
    next => exact (closedFollows s).silent (.closed ..)
    next =>
      cases wait with
      | none => exact (arrivedFollows s).silent (.arrived ..)
      | seconds length nonneg =>
        have later : s.now ≤ s.now + length := by linarith
        simp only
        split
        next soon => exact (arrivedFollows _).wait (.arrived ..) later soon
        next late => exact .here (.listening ..) (by simpa [Stop.wake?] using late)
      | forever => exact .here (.listening ..) (by simp [Stop.wake?])

end Activity

/-- A stopped task that goes on goes along what is left of it.  It does not wake before now. -/
theorem Stop.resume_follows {stop : Stop} {a : Activity} (leaves : stop.Leaves a)
    {limit : Option Time} {others : List Stop} {s : Scene}
    (wakes : ∀ wake, stop.wake? = some wake → s.now ≤ wake) :
    (stop.resume (Scene.elapse 0) limit (s, others)).Follows s others limit a := by
  cases leaves with
  | finished => exact .here .finished (by simp [wake?])
  | asleep wake =>
    cases wake with
    | none => exact .here (.asleep _ _) (by simp [wake?])
    | some wake =>
      simp only [resume, Scene.elapse_zero]
      split
      next soon => exact (Activity.run_follows a _).later (wakes wake rfl) soon
      next late => exact .here (.asleep _ _) (by simpa [wake?] using late)
  | listening socket wake wait arrived closed =>
    simp only [resume, Scene.elapse_zero]
    split
    next => exact (Activity.run_follows closed s).silent (.closed ..)
    next =>
      cases wake with
      | none => exact .here (.listening ..) (by simp [wake?])
      | some wake =>
        simp only
        split
        next soon =>
          exact (Activity.run_follows arrived _).wait (.arrived ..) (wakes wake rfl) soon
        next late => exact .here (.listening ..) (by simpa [wake?] using late)

end BoxProbe
