/-
Module: BoxProbe.Proofs.Session.Monitor
Purpose: Monitors that watch the acts of a task, and activities that obey them.
Trusted boundary: none
Main exports: Monitor, Monitor.watch, Activity.Obeys, Activity.Path.obeys, Woven,
  Woven.filterMap_eq, Woven.foldl_eq
-/
import BoxProbe.Failure.Reporter
import BoxProbe.Proofs.Session.Path

namespace BoxProbe

/-!
A property of the acts of a task, in their order, is a monitor: a state that every act moves, or
else refuses.  An activity obeys a monitor when no path through it is refused, and that is read
off its tree.  What handlers and callbacks do is nothing a monitor looks at.
-/

/-- A watch over acts: an act leads from a state to the next one, or is refused. -/
structure Monitor (σ : Type) where
  step : σ → Act → Option σ
  called : ∀ q call, step q (.called call) = some q
  handlerFailed : ∀ q f, step q (.notice (.handlerFailed f)) = some q
  callbackFailed : ∀ q f, step q (.notice (.callbackFailed f)) = some q

namespace Monitor

variable {σ : Type}

attribute [simp] called handlerFailed callbackFailed

/-- The state after acts, if none of them is refused. -/
def watch (m : Monitor σ) (q : σ) (acts : List Act) : Option σ :=
  acts.foldlM m.step q

@[simp]
theorem watch_nil (m : Monitor σ) (q : σ) : m.watch q [] = some q := rfl

@[simp]
theorem watch_cons (m : Monitor σ) (q : σ) (a : Act) (acts : List Act) :
    m.watch q (a :: acts) = (m.step q a).bind fun q' => m.watch q' acts := rfl

theorem watch_append (m : Monitor σ) (q : σ) (u w : List Act) :
    m.watch q (u ++ w) = (m.watch q u).bind fun q' => m.watch q' w := by
  simp [watch, List.foldlM_append]

/-- What every accepted step has, all acts of an accepted run have. -/
theorem forall_of_watch {m : Monitor σ} {P : Act → Prop}
    (step : ∀ q a q', m.step q a = some q' → P a) :
    ∀ (acts : List Act) (q q' : σ), m.watch q acts = some q' → ∀ a ∈ acts, P a := by
  intro acts
  induction acts with
  | nil =>
    intro q q' _ a inside
    cases inside
  | cons x rest ih =>
    intro q q' accepted a inside
    rw [watch_cons, Option.bind_eq_some_iff] at accepted
    obtain ⟨middle, first, onward⟩ := accepted
    rcases List.mem_cons.mp inside with rfl | inside
    · exact step q a middle first
    · exact ih middle q' onward a inside

end Monitor

namespace Activity

variable {σ : Type} {m : Monitor σ}

/-- A monitor in a state refuses no act of an activity, whatever path it takes. -/
def Obeys (m : Monitor σ) : Activity → σ → Prop
  | .done, _ => True
  | .act a next, q => ∃ q', m.step q a = some q' ∧ Obeys m next q'
  | .pause _ next, q => Obeys m next q
  | .look next, q => ∀ t, Obeys m (next t) q
  | .dispatch _ _ next, q => Obeys m next q
  | .listen _ _ arrived closed, q => Obeys m arrived q ∧ Obeys m closed q

theorem obeys_afterCall {e : Event} {number : Nat} {c : Callback} {next : Activity} {q : σ}
    (h : next.Obeys m q) : (afterCall e number c next).Obeys m q := by
  unfold afterCall
  cases c.failure with
  | none => exact h
  | some f => exact ⟨q, m.handlerFailed q f, h⟩

/-- A step of an activity that obeys is accepted, and what is left of it obeys. -/
theorem Step.obeys {h : Handlers} {a b : Activity} {u : List Act} (step : Step h a u b) {q : σ}
    (obeys : a.Obeys m q) : ∃ q', m.watch q u = some q' ∧ b.Obeys m q' := by
  cases step with
  | act x next =>
    obtain ⟨q', accepted, rest⟩ := obeys
    exact ⟨q', by simp [accepted], rest⟩
  | pause => exact ⟨q, rfl, obeys⟩
  | look next t => exact ⟨q, rfl, obeys t⟩
  | call => exact ⟨q, by simp, obeys_afterCall obeys⟩
  | served => exact ⟨q, rfl, obeys⟩
  | arrived => exact ⟨q, rfl, obeys.1⟩
  | closed => exact ⟨q, rfl, obeys.2⟩

/-- A path through an activity that obeys is accepted, and what is left at its end obeys. -/
theorem Path.obeys {h : Handlers} {a b : Activity} {w : List Act} (path : Path h a w b) :
    ∀ {q : σ}, a.Obeys m q → ∃ q', m.watch q w = some q' ∧ b.Obeys m q' := by
  induction path with
  | refl a =>
    intro q obeys
    exact ⟨q, rfl, obeys⟩
  | step first rest ih =>
    intro q obeys
    obtain ⟨q₁, accepted₁, obeys₁⟩ := first.obeys obeys
    obtain ⟨q₂, accepted₂, obeys₂⟩ := ih obeys₁
    exact ⟨q₂, by simp [Monitor.watch_append, accepted₁, accepted₂], obeys₂⟩

/-! ### Activities that are built from callbacks -/

theorem obeys_invokeAll {arguments : List Argument} {failed : Failure → Notice} {next : Activity}
    {q : σ} (ignored : ∀ f, m.step q (.notice (failed f)) = some q) (h : next.Obeys m q)
    (callbacks : List Callback) : (invokeAll callbacks arguments failed next).Obeys m q := by
  unfold invokeAll
  induction callbacks with
  | nil => exact h
  | cons c rest ih =>
    refine ⟨q, m.called q _, ?_⟩
    cases failing : c.failure with
    | none => simpa [Obeys, failing] using ih
    | some f => simpa [Obeys, failing, ignored f] using ih

end Activity

/-- A report obeys if counting, logging and what follows do. -/
theorem Registry.obeys_handle {σ : Type} {m : Monitor σ} {r : Registry} {i : Incident}
    {next : Activity} {q : σ} (counted : m.step q (.counted i.context) = some q)
    (logged : m.step q (.notice (.incident i)) = some q) (h : next.Obeys m q) :
    (r.handle i next).Obeys m q :=
  fun _ => ⟨q, counted, q, logged, Activity.obeys_invokeAll (m.callbackFailed q) h _⟩

/-! ### Two tasks side by side -/

/-- What two tasks did, in the order in which it was done. -/
inductive Woven {α : Type} : List α → List α → List α → Prop where
  | nil : Woven [] [] []
  | left {u w all : List α} (a : α) (h : Woven u w all) : Woven (u ++ [a]) w (all ++ [a])
  | right {u w all : List α} (a : α) (h : Woven u w all) : Woven u (w ++ [a]) (all ++ [a])

namespace Woven

variable {α β : Type} {u w all : List α}

theorem append_left (h : Woven u w all) (more : List α) :
    Woven (u ++ more) w (all ++ more) := by
  induction more generalizing u all with
  | nil => simpa using h
  | cons a rest ih => simpa using ih (h.left a)

theorem symm (h : Woven u w all) : Woven w u all := by
  induction h with
  | nil => exact .nil
  | left a _ ih => exact ih.right a
  | right a _ ih => exact ih.left a

theorem map (h : Woven u w all) (f : α → β) : Woven (u.map f) (w.map f) (all.map f) := by
  induction h with
  | nil => exact .nil
  | left a h ih => simpa using ih.left (f a)
  | right a h ih => simpa using ih.right (f a)

/-- A view that shows nothing of the first task shows the second one. -/
theorem filterMap_eq {f : α → Option β} (h : Woven u w all) (hidden : ∀ a ∈ u, f a = none) :
    all.filterMap f = w.filterMap f := by
  induction h with
  | nil => rfl
  | left a h ih =>
    rw [List.filterMap_append, ih fun x inside => hidden x (by simp [inside])]
    simp [hidden a (by simp)]
  | right a h ih => rw [List.filterMap_append, List.filterMap_append, ih hidden]

/-- A fold that ignores the second task is one over the first one alone. -/
theorem foldl_eq {f : β → α → β} (h : Woven u w all) (ignored : ∀ a ∈ w, ∀ b, f b a = b) (b : β) :
    all.foldl f b = u.foldl f b := by
  induction h with
  | nil => rfl
  | left a h ih => rw [List.foldl_append, List.foldl_append, ih ignored]
  | right a h ih =>
    rw [List.foldl_append, ih fun x inside => ignored x (by simp [inside])]
    exact ignored a (by simp) _

end Woven

end BoxProbe
