/-
Module: BoxProbe.Proofs.Session.Lapse
Purpose: Tasks that do the same up to reports of failed callbacks, whatever runs beside them.
Trusted boundary: none
Main exports: Act.isLapse, Trace.calmed, Trace.Alike, Callback.Alike, Activity.Alike, Stop.Alike,
  Scene.Alike, Progress.Alike, Activity.run_alike, Stop.resume_alike, Scene.elapse_alike
-/
import BoxProbe.Session.Activity
import Mathlib.Data.List.Forall2

namespace BoxProbe

/-!
A callback that fails leaves one trace, a report of its failure, which is called a lapse here.  Two
tasks are alike if their trees differ in lapses only, and look at no lapse.  Side by side with tasks
that are alike they then wait at the same instants, do the same acts and stop at the same places.
-/

/-! ### Histories -/

/-- Whether an act reports that a handler or an error callback has failed. -/
def Act.isLapse : Act → Bool
  | .notice (.handlerFailed _) | .notice (.callbackFailed _) => true
  | _ => false

namespace Trace

/-- A history without its lapses. -/
def calmed (t : Trace) : Trace :=
  t.filter fun x => !x.2.isLapse

/-- Two histories with the same acts at the same instants, up to lapses. -/
def Alike (t t' : Trace) : Prop :=
  t.calmed = t'.calmed

namespace Alike

variable {t t' : Trace}

theorem act (h : t.Alike t') (instant : Time) (a : Act) :
    Trace.Alike (t ++ [(instant, a)]) (t' ++ [(instant, a)]) := by
  unfold Alike calmed at *
  rw [List.filter_append, List.filter_append, h]

theorem lapse_left (h : t.Alike t') (instant : Time) {a : Act} (lapse : a.isLapse = true) :
    Trace.Alike (t ++ [(instant, a)]) t' := by
  unfold Alike calmed at *
  simp [List.filter_append, h, lapse]

theorem symm (h : t.Alike t') : t'.Alike t :=
  Eq.symm h

/-- A view that shows no lapses shows the same. -/
theorem filterMap_eq {α : Type} {f : Time × Act → Option α} (h : t.Alike t')
    (blind : ∀ x, x.2.isLapse = true → f x = none) : t.filterMap f = t'.filterMap f := by
  have shown : ∀ t : Trace, t.calmed.filterMap f = t.filterMap f := by
    intro t
    unfold calmed
    rw [List.filterMap_filter]
    congr 1
    funext x
    cases lapse : x.2.isLapse with
    | false => rfl
    | true => simp [blind x lapse]
  rw [← shown t, ← shown t', h]

/-- A fold that ignores lapses comes to the same. -/
theorem foldl_eq {β : Type} {f : β → Time × Act → β} (h : t.Alike t')
    (ignored : ∀ b x, x.2.isLapse = true → f b x = b) (b : β) : t.foldl f b = t'.foldl f b := by
  have folded : ∀ t : Trace, t.calmed.foldl f b = t.foldl f b := by
    intro t
    unfold calmed
    rw [List.foldl_filter]
    congr 1
    funext b x
    cases lapse : x.2.isLapse with
    | false => rfl
    | true => simp [ignored b x lapse]
  rw [← folded t, ← folded t', h]

/-- A count that leaves lapses out is the same. -/
theorem countP_eq {f : Time × Act → Bool} (h : t.Alike t')
    (blind : ∀ x, x.2.isLapse = true → f x = false) : t.countP f = t'.countP f := by
  have counted : ∀ t : Trace, t.calmed.countP f = t.countP f := by
    intro t
    unfold calmed
    rw [List.countP_filter]
    congr 1
    funext x
    cases lapse : x.2.isLapse with
    | false => simp
    | true => simp [blind x lapse]
  rw [← counted t, ← counted t', h]

end Alike

end Trace

/-- What is left out of a history is a report of a handler's or of a callback's failure. -/
theorem Act.eq_of_isLapse {a : Act} (h : a.isLapse = true) :
    ∃ f, a = .notice (.handlerFailed f) ∨ a = .notice (.callbackFailed f) := by
  cases a with
  | notice n =>
    cases n with
    | handlerFailed f => exact ⟨f, .inl rfl⟩
    | callbackFailed f => exact ⟨f, .inr rfl⟩
    | _ => cases h
  | _ => cases h

namespace Trace.Alike

variable {t t' : Trace}

theorem sockets_eq (h : t.Alike t') : t.sockets = t'.sockets := by
  apply h.foldl_eq
  rintro sockets ⟨instant, a⟩ lapse
  obtain ⟨f, rfl | rfl⟩ := Act.eq_of_isLapse lapse <;> rfl

theorem socket?_eq (h : t.Alike t') : t.socket? = t'.socket? := by
  unfold socket?
  rw [h.sockets_eq]

theorem isClosed_eq (h : t.Alike t') (socket : Option Nat) :
    t.isClosed socket = t'.isClosed socket := by
  unfold isClosed
  rw [h.sockets_eq]

theorem closeFrame?_eq (h : t.Alike t') : t.closeFrame? = t'.closeFrame? := by
  unfold closeFrame?
  rw [h.socket?_eq]

theorem calls_eq (h : t.Alike t') : t.calls = t'.calls := by
  apply h.filterMap_eq
  rintro ⟨instant, a⟩ lapse
  obtain ⟨f, rfl | rfl⟩ := Act.eq_of_isLapse lapse <;> rfl

theorem state_eq (h : t.Alike t') : t.state = t'.state := by
  apply h.foldl_eq
  rintro state ⟨instant, a⟩ lapse
  obtain ⟨f, rfl | rfl⟩ := Act.eq_of_isLapse lapse <;> rfl

end Trace.Alike

/-! ### Callbacks -/

/-- Two callbacks that go by the same label and take the same time in a call.  Whether and how they
fail in it may differ. -/
structure Callback.SamePace (c c' : Callback) : Prop where
  label : c.label = c'.label
  pause : c.pause = c'.pause

/-- Two callbacks of the same pace in every call. -/
def Callback.Alike (c c' : Callback) : Prop :=
  ∀ earlier arguments, (c.onCall earlier arguments).SamePace (c'.onCall earlier arguments)

/-- Two lists of registrations that differ at most in whether and how the callbacks fail. -/
def RegisteredAlike {κ : Type} : List (κ × Callback) → List (κ × Callback) → Prop :=
  List.Forall₂ fun x x' => x.1 = x'.1 ∧ x.2.Alike x'.2

/-- Callbacks that are alike are chosen alike. -/
theorem RegisteredAlike.chosen {κ : Type} {r r' : List (κ × Callback)} (h : RegisteredAlike r r')
    (P : κ → Bool) :
    List.Forall₂ Callback.Alike ((r.filter fun x => P x.1).map (·.2))
      ((r'.filter fun x => P x.1).map (·.2)) := by
  induction h with
  | nil => exact .nil
  | @cons x x' rest rest' same _ ih =>
    obtain ⟨key, callback⟩ := same
    simp only [List.filter_cons, ← key]
    split
    next => exact .cons callback ih
    next => exact ih

theorem Handlers.callbacks_alike {h h' : Handlers} (same : RegisteredAlike h h')
    (kind : EventKind) :
    List.Forall₂ Callback.Alike (h.callbacks kind) (h'.callbacks kind) :=
  same.chosen fun k => k == kind

theorem Registry.callbacks_alike {r r' : Registry} (same : RegisteredAlike r r')
    (context : ErrorContext) :
    List.Forall₂ Callback.Alike (r.callbacks context) (r'.callbacks context) :=
  List.rel_append (same.chosen fun k => k == some context) (same.chosen fun k => k == none)

/-- Callbacks that are alike have the same pace in a report. -/
theorem Registry.callbacks_samePace {r r' : Registry} (same : RegisteredAlike r r')
    (earlier : List (Time × Call)) (i : Incident) (context : ErrorContext) :
    List.Forall₂ Callback.SamePace ((r.onReport earlier i).callbacks context)
      ((r'.onReport earlier i).callbacks context) := by
  rw [callbacks_onReport, callbacks_onReport, List.forall₂_map_left_iff, List.forall₂_map_right_iff]
  exact (callbacks_alike same context).imp fun _ _ alike => alike earlier [.incident i]

/-! ### Tasks -/

/-- Two activities whose trees differ in lapses only.  Where they look at the history they see no
lapses. -/
inductive Activity.Alike : Activity → Activity → Prop where
  | done : Alike .done .done
  | act (a : Act) {n n' : Activity} (h : Alike n n') : Alike (.act a n) (.act a n')
  | lapse_left {a : Act} (lapse : a.isLapse = true) {n n' : Activity} (h : Alike n n') :
      Alike (.act a n) n'
  | lapse_right {a : Act} (lapse : a.isLapse = true) {n n' : Activity} (h : Alike n n') :
      Alike n (.act a n')
  | pause (wait : Wait) {n n' : Activity} (h : Alike n n') : Alike (.pause wait n) (.pause wait n')
  | look {n n' : Trace → Activity} (h : ∀ t t', t.Alike t' → Alike (n t) (n' t')) :
      Alike (.look n) (.look n')
  | dispatch (e : Event) (served : Nat) {n n' : Activity} (h : Alike n n') :
      Alike (.dispatch e served n) (.dispatch e served n')
  | listen (socket : Option Nat) (wait : Wait) {n n' m m' : Activity} (arrived : Alike n n')
      (closed : Alike m m') : Alike (.listen socket wait n m) (.listen socket wait n' m')

/-- Two tasks that have stopped at the same place. -/
inductive Stop.Alike : Stop → Stop → Prop where
  | finished : Alike .finished .finished
  | asleep (wake : Option Time) {n n' : Activity} (h : n.Alike n') :
      Alike (.asleep wake n) (.asleep wake n')
  | listening (socket : Option Nat) (wake : Option Time) {n n' m m' : Activity}
      (arrived : n.Alike n') (closed : m.Alike m') :
      Alike (.listening socket wake n m) (.listening socket wake n' m')

theorem Stop.Alike.isFinished_eq {s s' : Stop} (h : s.Alike s') : s.isFinished = s'.isFinished := by
  cases h <;> rfl

/-- Two scenes at one instant, with handlers and histories that are alike. -/
structure Scene.Alike (s s' : Scene) : Prop where
  handlers : RegisteredAlike s.handlers s'.handlers
  now : s.now = s'.now
  trace : s.trace.Alike s'.trace

namespace Scene.Alike

variable {s s' : Scene} {c c' : Callback}

theorem act (h : s.Alike s') (a : Act) : (s.act a).Alike (s'.act a) := by
  refine ⟨h.handlers, h.now, ?_⟩
  unfold Scene.act
  rw [h.now]
  exact h.trace.act _ a

theorem lapse_left (h : s.Alike s') {a : Act} (lapse : a.isLapse = true) : (s.act a).Alike s' :=
  ⟨h.handlers, h.now, h.trace.lapse_left _ lapse⟩

theorem lapse_right (h : s.Alike s') {a : Act} (lapse : a.isLapse = true) : s.Alike (s'.act a) :=
  ⟨h.handlers, h.now, (h.trace.symm.lapse_left _ lapse).symm⟩

theorem at_instant (h : s.Alike s') (t : Time) :
    Scene.Alike { s with now := t } { s' with now := t } :=
  ⟨h.handlers, rfl, h.trace⟩

theorem call (h : s.Alike s') (e : Event) (same : c.SamePace c') :
    (s.call e c).Alike (s'.call e c') := by
  unfold Scene.call
  rw [same.label]
  exact h.act _

/-- A handler that fails leaves nothing but a lapse. -/
theorem called (h : s.Alike s') (c c' : Callback) : (s.called c).Alike (s'.called c') := by
  have left : (s.called c).Alike s' := by
    unfold Scene.called
    cases c.failure with
    | none => exact h
    | some f => exact h.lapse_left rfl
  unfold Scene.called at left ⊢
  cases c'.failure with
  | none => exact left
  | some f => exact left.lapse_right rfl

end Scene.Alike

/-- What tasks that are alike see, and the tasks beside them. -/
structure SideAlike (x x' : Scene × List Stop) : Prop where
  scene : x.1.Alike x'.1
  others : List.Forall₂ Stop.Alike x.2 x'.2

/-- Two tasks that got equally far. -/
structure Progress.Alike (p p' : Progress (List Stop)) : Prop where
  scene : p.scene.Alike p'.scene
  others : List.Forall₂ Stop.Alike p.others p'.others
  stop : p.stop.Alike p'.stop

/-- A way to let other tasks go on that keeps what is alike. -/
def KeepsAlike (elapse : Elapse (List Stop)) : Prop :=
  ∀ t x x', SideAlike x x' → SideAlike (elapse t x) (elapse t x')

namespace Activity

variable {elapse : Elapse (List Stop)} {a a' : Activity}

theorem afterCall_alike {e : Event} {number : Nat} (c c' : Callback) (h : a.Alike a') :
    (afterCall e number c a).Alike (afterCall e number c' a') := by
  have next : Activity.Alike (.dispatch e (number + 1) a) (.dispatch e (number + 1) a') :=
    .dispatch e (number + 1) h
  unfold afterCall
  cases c.failure with
  | none =>
    cases c'.failure with
    | none => exact next
    | some f' => exact .lapse_right rfl next
  | some f =>
    cases c'.failure with
    | none => exact .lapse_left rfl next
    | some f' => exact .lapse_left rfl (.lapse_right rfl next)

/-- Handlers of an event that are alike are served alike. -/
theorem serve_alike (keeps : KeepsAlike elapse) (limit : Option Time) {e : Event} (h : a.Alike a')
    {finish finish' : Scene × List Stop → Progress (List Stop)}
    (finished : ∀ x x', SideAlike x x' → (finish x).Alike (finish' x')) {callbacks callbacks'}
    (same : List.Forall₂ Callback.Alike callbacks callbacks') :
    ∀ (number : Nat) (x x' : Scene × List Stop), SideAlike x x' →
      (serve elapse limit e a finish number callbacks x).Alike
        (serve elapse limit e a' finish' number callbacks' x') := by
  induction same with
  | nil =>
    intro number x x' side
    exact finished x x' side
  | @cons c c' rest rest' first _ ih =>
    rintro number ⟨scene, others⟩ ⟨scene', others'⟩ ⟨seen, beside⟩
    simp only [serve, ← seen.trace.calls_eq]
    have pace := first scene.trace.calls e.arguments
    generalize c.onCall scene.trace.calls e.arguments = c at pace ⊢
    generalize c'.onCall scene.trace.calls e.arguments = c' at pace ⊢
    have called := seen.call e pace
    simp only [← pace.pause]
    cases c.pause with
    | none => exact ih _ _ _ ⟨called.called c c', beside⟩
    | seconds length nonneg =>
      simp only [← called.now]
      split
      next =>
        have slept := keeps ((scene.call e c).now + length) (scene.call e c, others)
          (scene'.call e c', others') ⟨called, beside⟩
        exact ih _ _ _ ⟨slept.scene.called c c', slept.others⟩
      next => exact ⟨called, beside, .asleep _ (afterCall_alike c c' h)⟩
    | forever => exact ⟨called, beside, .asleep none (afterCall_alike c c' h)⟩

/-- Activities that are alike get equally far. -/
theorem run_alike (keeps : KeepsAlike elapse) (limit : Option Time) (h : a.Alike a') :
    ∀ x x', SideAlike x x' → (a.run elapse limit x).Alike (a'.run elapse limit x') := by
  induction h with
  | done =>
    rintro x x' ⟨seen, beside⟩
    exact ⟨seen, beside, .finished⟩
  | act a _ ih =>
    rintro x x' ⟨seen, beside⟩
    exact ih _ _ ⟨seen.act a, beside⟩
  | lapse_left lapse _ ih =>
    rintro x x' ⟨seen, beside⟩
    exact ih _ _ ⟨seen.lapse_left lapse, beside⟩
  | lapse_right lapse _ ih =>
    rintro x x' ⟨seen, beside⟩
    exact ih _ _ ⟨seen.lapse_right lapse, beside⟩
  | look _ ih =>
    rintro x x' ⟨seen, beside⟩
    exact ih _ _ seen.trace _ _ ⟨seen, beside⟩
  | dispatch e served h ih =>
    rintro ⟨scene, others⟩ ⟨scene', others'⟩ ⟨seen, beside⟩
    have same := Handlers.callbacks_alike seen.handlers e.kind
    exact serve_alike keeps limit h ih (List.forall₂_drop served same) served _ _ ⟨seen, beside⟩
  | pause wait h ih =>
    rintro ⟨scene, others⟩ ⟨scene', others'⟩ ⟨seen, beside⟩
    have now : scene.now = scene'.now := seen.now
    cases wait with
    | none => exact ih _ _ ⟨seen, beside⟩
    | seconds length nonneg =>
      simp only [run, ← now]
      split
      next => exact ih _ _ (keeps _ _ _ ⟨seen, beside⟩)
      next => exact ⟨seen, beside, .asleep _ h⟩
    | forever => exact ⟨seen, beside, .asleep none h⟩
  | listen socket wait arrived closed arrivedIh closedIh =>
    rintro ⟨scene, others⟩ ⟨scene', others'⟩ ⟨seen, beside⟩
    have now : scene.now = scene'.now := seen.now
    have same : scene.trace.isClosed socket = scene'.trace.isClosed socket :=
      seen.trace.isClosed_eq socket
    simp only [run, ← same, ← now]
    split
    next => exact closedIh _ _ ⟨seen, beside⟩
    next =>
      cases wait with
      | none => exact arrivedIh _ _ ⟨seen, beside⟩
      | seconds length nonneg =>
        simp only
        split
        next => exact arrivedIh _ _ (keeps _ _ _ ⟨seen, beside⟩)
        next => exact ⟨seen, beside, .listening socket _ arrived closed⟩
      | forever => exact ⟨seen, beside, .listening socket none arrived closed⟩

end Activity

/-- Stopped tasks that are alike go on equally far. -/
theorem Stop.resume_alike {elapse : Elapse (List Stop)} {stop stop' : Stop}
    (keeps : KeepsAlike elapse) (h : stop.Alike stop') (limit : Option Time)
    (x x' : Scene × List Stop) (side : SideAlike x x') :
    (stop.resume elapse limit x).Alike (stop'.resume elapse limit x') := by
  cases h with
  | finished => exact ⟨side.scene, side.others, .finished⟩
  | asleep wake next =>
    cases wake with
    | none => exact ⟨side.scene, side.others, .asleep none next⟩
    | some wake =>
      simp only [resume]
      split
      next => exact Activity.run_alike keeps limit next _ _ (keeps wake _ _ side)
      next => exact ⟨side.scene, side.others, .asleep (some wake) next⟩
  | listening socket wake arrived closed =>
    have same : x.1.trace.isClosed socket = x'.1.trace.isClosed socket :=
      side.scene.trace.isClosed_eq socket
    simp only [resume, ← same]
    split
    next => exact Activity.run_alike keeps limit closed _ _ side
    next =>
      cases wake with
      | none => exact ⟨side.scene, side.others, .listening socket none arrived closed⟩
      | some wake =>
        simp only
        split
        next => exact Activity.run_alike keeps limit arrived _ _ (keeps wake _ _ side)
        next => exact ⟨side.scene, side.others, .listening socket (some wake) arrived closed⟩

/-- However many tasks go on side by side, they go on alike. -/
theorem Scene.elapse_alike (tasks : Nat) : KeepsAlike (Scene.elapse tasks) := by
  induction tasks with
  | zero =>
    rintro t ⟨scene, stops⟩ ⟨scene', stops'⟩ ⟨seen, beside⟩
    exact ⟨seen.at_instant t, beside⟩
  | succ tasks ih =>
    rintro t ⟨scene, stops⟩ ⟨scene', stops'⟩ ⟨seen, beside⟩
    cases beside with
    | nil => exact ⟨seen.at_instant t, .nil⟩
    | @cons first first' rest rest' same beside =>
      have progress := Stop.resume_alike ih same (some t) (scene, rest) (scene', rest')
        ⟨seen, beside⟩
      have later := ih t (_, _) (_, _) ⟨progress.scene, progress.others⟩
      exact ⟨later.scene, .cons progress.stop later.others⟩

end BoxProbe
