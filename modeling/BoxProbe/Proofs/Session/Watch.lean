/-
Module: BoxProbe.Proofs.Session.Watch
Purpose: Watches over timed acts that also know where a task may rest, and tasks that heed them.
Trusted boundary: none
Main exports: Rest, Act.isAside, Watch, Watch.after?, Activity.Heeds, Stop.Heeds, Progress.Rests,
  Activity.run_rests, Stop.Heeds.next
-/
import BoxProbe.Proofs.Session.Connections
import BoxProbe.Proofs.Session.Course
import BoxProbe.Proofs.Session.Stage
import BoxProbe.Proofs.Session.Stretch
import Mathlib.Data.List.Induction

namespace BoxProbe

/-!
A monitor knows the order of acts, but not when they are done, and not where a task stands that has
been cut off.  A watch sees the instant of each act, and says in which of its states a task may
rest, and until when.  It looks at no act that other tasks do as well, so its state can be read off
the whole history.

A task that heeds a watch is followed from one wait to the next; what it does there depends on the
history only through the state of the watch.
-/

namespace Trace

theorem isClosed_iff {t : Trace} {socket : Option Nat} :
    t.isClosed socket = true ↔
      ∃ number, socket = some number ∧
        ∃ s, t.sockets[number]? = some s ∧ s.closedAt.isSome = true := by
  unfold isClosed
  cases socket with
  | none => simp
  | some number => simp [Option.any_eq_true]

/-- Only the end of its close handshake closes a connection. -/
theorem closed_socketsAfter {sockets : List Socket} {socket : Nat} {s : Socket}
    (h : sockets[socket]? = some s) (closed : s.closedAt.isSome = true) (instant : Time) (a : Act) :
    ∃ s', (socketsAfter sockets instant a)[socket]? = some s' ∧ s'.closedAt.isSome = true := by
  have inside := (List.getElem?_eq_some_iff.mp h).1
  have changed (i : Nat) (f : Socket → Socket) (still : (f s).closedAt.isSome = true) :
      ∃ s', (sockets.modify i f)[socket]? = some s' ∧ s'.closedAt.isSome = true := by
    rw [List.getElem?_modify, h]
    by_cases here : i = socket
    · exact ⟨f s, by simp [here], still⟩
    · exact ⟨s, by simp [here], closed⟩
  cases a with
  | opened script => exact ⟨s, by simp [socketsAfter, List.getElem?_append_left inside, h], closed⟩
  | sent i request => exact changed i _ closed
  | left i frame => exact changed i _ closed
  | closeCalled i => exact changed i _ closed
  | closeCompleted i => exact changed i _ rfl
  | aborted i => exact changed i _ closed
  | _ => exact ⟨s, h, closed⟩

/-- A connection that is closed stays so. -/
theorem isClosed_append {t : Trace} {socket : Option Nat} (h : t.isClosed socket = true)
    (w : Trace) : Trace.isClosed (t ++ w) socket = true := by
  induction w using List.reverseRecOn with
  | nil => simpa using h
  | append_singleton w x ih =>
    obtain ⟨number, rfl, s, found, closed⟩ := isClosed_iff.mp ih
    rw [← List.append_assoc, isClosed_iff, sockets_append]
    exact ⟨number, rfl, closed_socketsAfter found closed x.1 x.2⟩

end Trace

/-- Where a task rests. -/
inductive Rest where
  | ended
  | asleep (wake : Option Time)
  /-- A handler of an event sleeps. -/
  | serving (kind : EventKind) (wake : Option Time)
  | listening (wake : Option Time)

/-- When a task that rests wakes, if it does so by itself. -/
def Rest.wake? : Rest → Option Time
  | .ended => none
  | .asleep wake | .serving _ wake | .listening wake => wake

/-- Where a stopped task rests. -/
inductive Stop.RestsAt : Stop → Rest → Prop where
  | ended : RestsAt .finished .ended
  | asleep (wake : Option Time) (next : Activity) : RestsAt (.asleep wake next) (.asleep wake)
  | serving (kind : EventKind) (wake : Option Time) (next : Activity) :
      RestsAt (.asleep wake next) (.serving kind wake)
  | listening (socket : Option Nat) (wake : Option Time) (arrived closed : Activity) :
      RestsAt (.listening socket wake arrived closed) (.listening wake)

theorem Stop.RestsAt.wake?_eq {stop : Stop} {rest : Rest} (h : stop.RestsAt rest) :
    rest.wake? = stop.wake? := by
  cases h <;> rfl

/-- The acts that no watch looks at: changes of the state, and what a shutdown does. -/
def Act.isAside : Act → Bool
  | .becomes _ => true
  | a => a.ofShutdown

/-- A watch: an act leads from a state to the next one, or is refused, and in a state a task may
rest at some places.  It may count on connections not being found closed at some instants. -/
structure Watch (σ : Type) where
  start : σ
  step : σ → Time → Act → Option σ
  rests : σ → Rest → Prop
  aside : ∀ q t a, a.isAside = true → step q t a = some q
  /-- The instants at which a connection may be found closed. -/
  closes : Time → Prop := fun _ => True

/-- A watch does not count on what is not so: a connection is closed only when it may be found
so. -/
def Watch.Allows {σ : Type} (m : Watch σ) (t : Trace) (now : Time) : Prop :=
  ∀ socket, t.isClosed socket = true → m.closes now

namespace Watch

variable {σ : Type} {m : Watch σ} {q q' : σ}

/-- The state after more acts, if none of them is refused. -/
def watch (m : Watch σ) (q : σ) (t : Trace) : Option σ :=
  t.foldlM (fun q x => m.step q x.1 x.2) q

/-- The state after a history, if no act of it is refused. -/
def after? (m : Watch σ) (t : Trace) : Option σ :=
  m.watch m.start t

@[simp]
theorem watch_nil (m : Watch σ) (q : σ) : m.watch q [] = some q := rfl

@[simp]
theorem watch_cons (m : Watch σ) (q : σ) (x : Time × Act) (t : Trace) :
    m.watch q (x :: t) = (m.step q x.1 x.2).bind fun q' => m.watch q' t := rfl

theorem watch_append (m : Watch σ) (q : σ) (t u : Trace) :
    m.watch q (t ++ u) = (m.watch q t).bind fun q' => m.watch q' u := by
  simp [watch, List.foldlM_append]

theorem after?_append (m : Watch σ) (t u : Trace) :
    m.after? (t ++ u) = (m.after? t).bind fun q => m.watch q u :=
  m.watch_append m.start t u

theorem after?_act {t : Trace} (h : m.after? t = some q) (instant : Time) {a : Act}
    (step : m.step q instant a = some q') : m.after? (t ++ [(instant, a)]) = some q' := by
  simp [after?_append, h, step]

/-- A watch that in a state looks at no call with some arguments, and at no report that one
failed. -/
structure Overlooks (m : Watch σ) (q : σ) (arguments : List Argument) (failed : Failure → Notice) :
    Prop where
  calls : ∀ t label, m.step q t (.called ⟨label, arguments⟩) = some q
  failures : ∀ t f, m.step q t (.notice (failed f)) = some q

theorem watch_aside {more : Trace} (aside : ∀ x ∈ more, x.2.isAside = true) :
    m.watch q more = some q := by
  induction more with
  | nil => rfl
  | cons x rest ih =>
    rw [watch_cons, m.aside _ _ _ (aside x List.mem_cons_self)]
    exact ih fun y inside => aside y (List.mem_cons_of_mem x inside)

/-- What holds before any act, and is kept by each act that is not refused, holds after all of
them. -/
theorem watch_induct {P : Trace → σ → Prop} {start : σ} (nil : P [] start)
    (kept : ∀ t q x q', m.watch start t = some q → P t q → m.step q x.1 x.2 = some q' →
      P (t ++ [x]) q') (t : Trace) :
    ∀ {q : σ}, m.watch start t = some q → P t q := by
  induction t using List.reverseRecOn with
  | nil =>
    intro q accepted
    cases accepted
    exact nil
  | append_singleton t x ih =>
    intro q accepted
    rw [watch_append, Option.bind_eq_some_iff] at accepted
    obtain ⟨middle, before, last⟩ := accepted
    rw [watch_cons, Option.bind_eq_some_iff] at last
    obtain ⟨q', step, same⟩ := last
    cases same
    exact kept t middle x _ before (ih before) step

/-- What holds of the empty history, and is kept by every act, holds of all histories. -/
theorem after?_induct {P : Trace → σ → Prop} (nil : P [] m.start)
    (kept : ∀ t q x q', P t q → m.step q x.1 x.2 = some q' → P (t ++ [x]) q') (t : Trace) :
    ∀ {q : σ}, m.after? t = some q → P t q :=
  watch_induct nil (fun t q x q' _ => kept t q x q') t

end Watch

/-- A callback that sleeps in no call. -/
def Callback.AtOnce (c : Callback) : Prop :=
  ∀ earlier arguments, (c.onCall earlier arguments).pause = .none

/-- Whether no callback for a context sleeps. -/
def Registry.AtOnce (r : Registry) (context : ErrorContext) : Prop :=
  ∀ c ∈ r.callbacks context, c.AtOnce

/-- Whether no handler of a kind of events sleeps. -/
def Handlers.AtOnce (h : Handlers) (kind : EventKind) : Prop :=
  ∀ c ∈ h.callbacks kind, c.AtOnce

namespace Activity

variable {σ : Type} {m : Watch σ} {h : Handlers}

/-- From an instant and a state on, a watch refuses no act of an activity, and lets it rest wherever
it may stop.  A connection may be found closed only before the next frame arrives. -/
def Heeds (m : Watch σ) (h : Handlers) : Activity → Time → σ → Prop
  | .done, _, q => m.rests q .ended
  | .act a next, t, q => ∃ q', m.step q t a = some q' ∧ Heeds m h next t q'
  | .pause wait next, t, q =>
    (wait ≠ .none → m.rests q (.asleep (wait.ends t))) ∧
      ∀ t', wait.ends t = some t' → Heeds m h next t' q
  | .look next, t, q => ∀ seen, m.after? seen = some q → Heeds m h (next seen) t q
  | .dispatch e _ next, t, q =>
    m.Overlooks q e.arguments .handlerFailed ∧
      (¬ h.AtOnce e.kind → ∀ wake, m.rests q (.serving e.kind wake)) ∧
      ∀ t', (h.AtOnce e.kind → t' = t) → Heeds m h next t' q
  | .listen _ wait arrived closed, t, q =>
    m.rests q (.listening (wait.ends t)) ∧
      (∀ t', wait.ends t = some t' → Heeds m h arrived t' q) ∧
      ∀ t', m.closes t' → (∀ w, wait.ends t = some w → t' ≤ w) → Heeds m h closed t' q

variable {t : Time} {q : σ} {next : Activity}

theorem heeds_aside {a : Act} (aside : a.isAside = true) (heeds : next.Heeds m h t q) :
    (Activity.act a next).Heeds m h t q :=
  ⟨q, m.aside q t a aside, heeds⟩

/-- What is left of an event heeds a watch if the event does. -/
theorem heeds_afterCall {e : Event} {number : Nat} {c : Callback}
    (overlooks : m.Overlooks q e.arguments .handlerFailed)
    (heeds : ∀ number, (Activity.dispatch e number next).Heeds m h t q) :
    (afterCall e number c next).Heeds m h t q := by
  unfold afterCall
  cases c.failure with
  | none => exact heeds _
  | some f => exact ⟨q, overlooks.failures t f, heeds _⟩

/-- Callbacks are called one after another, and each of them may sleep.  The watch stays in some of
its states meanwhile, and rests where the call has led that sleeps. -/
theorem heeds_invokeAll {arguments : List Argument} {failed : Failure → Notice} {Q : σ → Prop}
    (failures : ∀ q t f, Q q → ∃ r, m.step q t (.notice (failed f)) = some r ∧ Q r)
    (callbacks : List Callback)
    (calls : ∀ c ∈ callbacks, ∀ q t, Q q → ∃ r,
      m.step q t (.called ⟨c.label, arguments⟩) = some r ∧ Q r ∧
        (c.pause ≠ .none → m.rests r (.asleep (c.pause.ends t)))) :
    ∀ {t : Time} {q : σ}, Q q →
      (∀ t' r, Q r → ((∀ c ∈ callbacks, c.pause = .none) → t' = t) → next.Heeds m h t' r) →
      (invokeAll callbacks arguments failed next).Heeds m h t q := by
  induction callbacks with
  | nil =>
    intro t q inside heeds
    exact heeds t q inside fun _ => rfl
  | cons c rest ih =>
    intro t q inside heeds
    obtain ⟨r, called, inside', sleeps⟩ := calls c List.mem_cons_self q t inside
    refine ⟨r, called, sleeps, ?_⟩
    intro t' ends
    have prompt : c.pause = .none → t' = t := by
      intro none
      rw [none] at ends
      exact (Option.some.inj ends).symm
    have others {r : σ} (inside : Q r) : (invokeAll rest arguments failed next).Heeds m h t' r := by
      apply ih (fun c' member => calls c' (List.mem_cons_of_mem c member)) inside
      intro t'' s inside'' soon
      apply heeds t'' s inside''
      intro all
      rw [← prompt (all c List.mem_cons_self)]
      exact soon fun c' member => all c' (List.mem_cons_of_mem c member)
    cases c.failure with
    | none => exact others inside'
    | some f =>
      obtain ⟨s, reported, inside''⟩ := failures r t' f inside'
      exact ⟨s, reported, others inside''⟩

/-- An event is told to its handlers, each of which may sleep. -/
theorem heeds_dispatchAll {e : Event} {r : σ} (told : m.step q t (.dispatched e) = some r)
    (overlooks : m.Overlooks r e.arguments .handlerFailed)
    (sleeps : ¬ h.AtOnce e.kind → ∀ wake, m.rests r (.serving e.kind wake))
    (heeds : ∀ t', (h.AtOnce e.kind → t' = t) → next.Heeds m h t' r) :
    (dispatchAll e next).Heeds m h t q :=
  ⟨r, told, overlooks, sleeps, heeds⟩

end Activity

/-- A failure is counted and logged, and given to callbacks, each of which may sleep; the watch does
not look at their calls. -/
theorem Registry.heeds_handle {σ : Type} {m : Watch σ} {h : Handlers} {r : Registry} {i : Incident}
    {next : Activity} {t : Time} {q s : σ} (counted : m.step q t (.counted i.context) = some s)
    (logged : m.step s t (.notice (.incident i)) = some s)
    (overlooks : m.Overlooks s [.incident i] .callbackFailed)
    (sleeps : ¬ r.AtOnce i.context → ∀ wake, m.rests s (.asleep wake))
    (heeds : ∀ t', (r.AtOnce i.context → t' = t) → next.Heeds m h t' s) :
    (r.handle i next).Heeds m h t q := by
  intro seen _
  refine ⟨s, counted, s, logged, ?_⟩
  apply Activity.heeds_invokeAll (Q := fun q => q = s)
  · intro q t f same
    exact ⟨s, same ▸ overlooks.failures t f, rfl⟩
  · rw [callbacks_onReport, List.forall_mem_map]
    intro c inside q t same
    refine ⟨s, same ▸ overlooks.calls t _, rfl, fun slow => sleeps ?_ _⟩
    exact fun prompt => slow (prompt c inside _ _)
  · rfl
  · intro t' q same soon
    rw [same]
    apply heeds
    intro prompt
    apply soon
    rw [callbacks_onReport, List.forall_mem_map]
    exact fun c inside => prompt c inside _ _

/-- A stopped task heeds a watch when it goes on: not later than it wakes. -/
def Stop.Heeds {σ : Type} (m : Watch σ) (h : Handlers) : Stop → σ → Prop
  | .finished, _ => True
  | .asleep wake next, q => ∀ t, wake = some t → next.Heeds m h t q
  | .listening _ wake arrived closed, q =>
    (∀ t, wake = some t → arrived.Heeds m h t q) ∧
      ∀ t, m.closes t → (∀ w, wake = some w → t ≤ w) → closed.Heeds m h t q

/-- A task that has come to a stop rests where the watch lets it, and heeds the watch from there. -/
def Progress.Rests {σ : Type} (m : Watch σ) (h : Handlers) (p : Progress (List Stop)) : Prop :=
  ∃ q rest, m.after? p.scene.trace = some q ∧ m.rests q rest ∧ p.stop.RestsAt rest ∧
    p.stop.Heeds m h q

namespace Activity

variable {σ : Type} {m : Watch σ} {others : List Stop}

theorem rests_asleep {s : Scene} {q : σ} {wake : Option Time} {rest : Rest} {next : Activity}
    (seen : m.after? s.trace = some q) (rests : m.rests q rest)
    (place : (Stop.asleep wake next).RestsAt rest)
    (heeds : ∀ t, wake = some t → next.Heeds m s.handlers t q) :
    (⟨s, others, .asleep wake next⟩ : Progress (List Stop)).Rests m s.handlers :=
  ⟨q, rest, seen, rests, place, heeds⟩

theorem after?_called {s : Scene} {q : σ} {e : Event} (seen : m.after? s.trace = some q)
    (overlooks : m.Overlooks q e.arguments .handlerFailed) (c : Callback) :
    m.after? (s.called c).trace = some q := by
  unfold Scene.called
  cases c.failure with
  | none => exact seen
  | some f => exact Watch.after?_act seen s.now (overlooks.failures s.now f)

/-- The handlers of an event are called up to the first one that sleeps. -/
theorem serve_rests {e : Event} {next : Activity}
    {finish : Scene × List Stop → Progress (List Stop)} {h : Handlers} {now : Time} {q : σ}
    (finished : ∀ s : Scene, s.handlers = h → s.now = now → m.after? s.trace = some q →
      m.Allows (finish (s, others)).scene.trace now → (finish (s, others)).Rests m h)
    (callbacks : List Callback) :
    ∀ (number : Nat) (s : Scene), s.handlers = h → s.now = now → m.after? s.trace = some q →
      callbacks = (h.callbacks e.kind).drop number →
      (Activity.dispatch e number next).Heeds m h now q →
      m.Allows (serve (Scene.elapse 0) (some now) e next finish number callbacks
        (s, others)).scene.trace now →
      (serve (Scene.elapse 0) (some now) e next finish number callbacks (s, others)).Rests m h := by
  induction callbacks with
  | nil =>
    intro number s handlers still seen _ _ allows
    exact finished s handlers still seen allows
  | cons c rest ih =>
    intro number s handlers still seen left heeds allows
    obtain ⟨turn, behind⟩ := turn_of_left left
    have prompt (all : h.AtOnce e.kind) :=
      all c (List.mem_of_getElem? turn) s.trace.calls e.arguments
    obtain ⟨overlooks, sleeps, onward⟩ := heeds
    simp only [serve] at allows ⊢
    generalize c.onCall s.trace.calls e.arguments = c at prompt allows ⊢
    have seen' : m.after? (s.call e c).trace = some q :=
      Watch.after?_act seen s.now (overlooks.calls s.now c.label)
    have asleep (slow : c.pause ≠ .none) (wake : Option Time) :
        (⟨s.call e c, others, .asleep wake (afterCall e number c next)⟩ :
          Progress (List Stop)).Rests m h := by
      have late : ¬ h.AtOnce e.kind := fun all => slow (prompt all)
      refine ⟨q, .serving e.kind wake, seen', sleeps late wake, .serving _ _ _, ?_⟩
      intro t _
      apply heeds_afterCall overlooks
      intro number
      exact ⟨overlooks, sleeps, fun t' _ => onward t' fun all => absurd all late⟩
    cases pausing : c.pause with
    | none =>
      simp only [pausing] at allows
      apply ih (number + 1) _ _ _ (after?_called seen' overlooks c) behind _ allows
      · rw [Scene.called_handlers]
        exact handlers
      · rw [Scene.called_now]
        exact still
      · exact ⟨overlooks, sleeps, onward⟩
    | seconds length nonneg =>
      have late : isBefore ((s.call e c).now + length) (some now) = false :=
        still ▸ not_isBefore_add s.now nonneg
      simp only [late, Bool.false_eq_true, if_false]
      exact asleep (by simp [pausing]) _
    | forever => exact asleep (by simp [pausing]) none

/-- A task that heeds a watch and is run to its next wait rests there. -/
theorem run_rests (a : Activity) : ∀ (s : Scene) (q : σ), m.after? s.trace = some q →
    a.Heeds m s.handlers s.now q →
    m.Allows (a.run (Scene.elapse 0) (some s.now) (s, others)).scene.trace s.now →
    (a.run (Scene.elapse 0) (some s.now) (s, others)).Rests m s.handlers := by
  induction a with
  | done =>
    intro s q seen heeds _
    exact ⟨q, .ended, seen, heeds, .ended, trivial⟩
  | act x next ih =>
    intro s q seen heeds allows
    obtain ⟨q', step, rest⟩ := heeds
    exact ih (s.act x) q' (Watch.after?_act seen s.now step) rest allows
  | look next ih =>
    intro s q seen heeds allows
    exact ih s.trace s q seen (heeds s.trace seen) allows
  | dispatch e served next ih =>
    intro s q seen heeds allows
    refine serve_rests ?_ _ served s rfl rfl seen rfl heeds allows
    intro s' handlers still seen' allows'
    have onward := ih s' q seen'
    rw [handlers, still] at onward
    exact onward (heeds.2.2 s.now fun _ => rfl) allows'
  | pause wait next ih =>
    intro s q seen heeds allows
    cases wait with
    | none => exact ih s q seen (heeds.2 s.now rfl) allows
    | seconds length nonneg =>
      simp only [run, not_isBefore_add s.now nonneg, Bool.false_eq_true, if_false]
      exact rests_asleep seen (heeds.1 (by simp)) (.asleep _ _) heeds.2
    | forever => exact rests_asleep seen (heeds.1 (by simp)) (.asleep _ _) heeds.2
  | listen socket wait arrived closed arrivedIh closedIh =>
    intro s q seen heeds allows
    obtain ⟨rests, comes, ends⟩ := heeds
    have listens (wake : Option Time) (same : wait.ends s.now = wake) :
        (⟨s, others, .listening socket wake arrived closed⟩ : Progress (List Stop)).Rests m
          s.handlers := by
      subst same
      exact ⟨q, _, seen, rests, .listening _ _ _ _, comes, ends⟩
    simp only [run] at allows ⊢
    cases isClosed : s.trace.isClosed socket with
    | true =>
      simp only [isClosed, if_true] at allows ⊢
      -- What is closed stays closed, so the instant is one at which that may be found.
      have followed : (closed.run (Scene.elapse 0) (some s.now) (s, others)).Follows s others
        (some s.now) closed := run_follows closed s
      obtain ⟨acts, b, reached⟩ := followed
      have found : m.closes s.now := by
        apply allows socket
        rw [reached.leadsTo.trace]
        exact Trace.isClosed_append isClosed acts
      apply closedIh s q seen _ allows
      apply ends s.now found
      intro w
      exact Wait.le_of_ends
    | false =>
      simp only [isClosed, Bool.false_eq_true, if_false] at allows ⊢
      cases wait with
      | none => exact arrivedIh s q seen (comes s.now rfl) allows
      | seconds length nonneg =>
        simp only [not_isBefore_add s.now nonneg, Bool.false_eq_true, if_false]
        exact listens _ rfl
      | forever => exact listens _ rfl

end Activity

/-- A task that heeds a watch and goes on when its time has come heeds the watch from then on. -/
theorem Stop.Heeds.next {σ : Type} {m : Watch σ} {s : Scene} {stop : Stop} {q : σ} {a : Activity}
    (heeds : stop.Heeds m s.handlers q) (allows : m.Allows s.trace s.now)
    (wakes : ∀ w, stop.wake? = some w → s.now ≤ w)
    (goes : stop.next? s = some a) : a.Heeds m s.handlers s.now q := by
  have due {wake : Option Time} (same : stop.wake? = wake) (past : reached s.now wake = true) :
      wake = some s.now := by
    cases wake with
    | none => cases past
    | some w =>
      have before : w ≤ s.now := by simpa [reached] using past
      rw [le_antisymm before (wakes w same)]
  cases stop with
  | finished => cases goes
  | asleep wake next =>
    simp only [next?, Option.ite_none_right_eq_some, Option.some.injEq] at goes
    obtain ⟨past, rfl⟩ := goes
    exact heeds s.now (due rfl past)
  | listening socket wake arrived closed =>
    simp only [next?] at goes
    split at goes
    next isClosed =>
      cases goes
      exact heeds.2 s.now (allows socket isClosed) wakes
    next =>
      simp only [Option.ite_none_right_eq_some, Option.some.injEq] at goes
      obtain ⟨past, rfl⟩ := goes
      exact heeds.1 s.now (due rfl past)

end BoxProbe
