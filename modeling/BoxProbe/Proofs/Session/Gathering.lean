/-
Module: BoxProbe.Proofs.Session.Gathering
Purpose: What a task that runs alone gathers on its way through callbacks and handlers.
Trusted boundary: none
Main exports: Callback.Ends, Haul, Trace.haul, Scene.Gathers, Scene.gathers_handle,
  Scene.gathers_dispatchAll
-/
import BoxProbe.Failure.Reporter
import BoxProbe.Proofs.Session.Connections
import BoxProbe.Proofs.Session.Path

namespace BoxProbe

/-!
Running a task up to a limit gives the same as running what is left of it from a later scene, if
that scene lies before the limit.  `Gathers` keeps that equation together with what the acts in
between add to the lists of a probe, so the pieces of a task are put together without looking at
its run again.  Callbacks and handlers may take their time and may fail, and add nothing.
-/

/-- Every call of a callback comes to its end. -/
def Callback.Ends (c : Callback) : Prop :=
  ∀ earlier arguments, (c.onCall earlier arguments).pause ≠ .forever

/-- A callback that does the same in every call and comes to its end does so in every call. -/
theorem Callback.ends_of_steady {c : Callback} (steady : ∀ earlier arguments,
    c.apart earlier arguments = none) (ends : c.pause ≠ .forever) : c.Ends := by
  intro earlier arguments
  rwa [onCall, steady]

/-- What acts add to the lists of a probe, and the events that they dispatch. -/
structure Haul where
  received : List String := []
  errors : List Incident := []
  qrCodes : List Json := []
  events : List Event := []

namespace Haul

/-- One haul after another. -/
def append (x y : Haul) : Haul :=
  { received := x.received ++ y.received
    errors := x.errors ++ y.errors
    qrCodes := x.qrCodes ++ y.qrCodes
    events := x.events ++ y.events }

instance : Append Haul := ⟨append⟩

theorem append_def (x y : Haul) : x ++ y = x.append y := rfl

@[simp]
theorem empty_append (x : Haul) : ({} : Haul) ++ x = x := rfl

end Haul

namespace Trace

/-- The events that were dispatched. -/
def events (t : Trace) : List Event :=
  t.filterMap fun (_, a) =>
    match a with
    | .dispatched event => some event
    | _ => none

/-- What acts add to the lists of a probe. -/
def haul (t : Trace) : Haul :=
  { received := t.received, errors := t.errors, qrCodes := t.qrCodes, events := t.events }

theorem haul_append (t u : Trace) : Trace.haul (t ++ u) = t.haul ++ u.haul := by
  simp [haul, received, errors, qrCodes, events, Haul.append_def, Haul.append]

/-- Events alone add nothing to the lists of a probe. -/
theorem lists_of_haul {t : Trace} {events : List Event} {x : Haul}
    (h : t.haul = ({ events } : Haul) ++ x) :
    t.received = x.received ∧ t.qrCodes = x.qrCodes ∧ t.errors = x.errors :=
  ⟨congrArg Haul.received h, congrArg Haul.qrCodes h, congrArg Haul.errors h⟩

end Trace

namespace Scene

/-- Quiet acts that add a haul lead from one scene to a later one. -/
def Brings (s : Scene) (haul : Haul) (s' : Scene) : Prop :=
  ∃ w, s.LeadsTo w s' ∧ (∀ x ∈ w, x.2.Quiet) ∧ Trace.haul w = haul

namespace Brings

variable {s s' s'' : Scene} {x y : Haul}

theorem refl (s : Scene) : s.Brings {} s :=
  ⟨[], .refl s, by simp, rfl⟩

theorem trans (one : s.Brings x s') (two : s'.Brings y s'') : s.Brings (x ++ y) s'' := by
  obtain ⟨u, led, quiet, rfl⟩ := one
  obtain ⟨w, led', quiet', rfl⟩ := two
  refine ⟨u ++ w, led.trans led', ?_, Trace.haul_append u w⟩
  intro z inside
  exact (List.mem_append.mp inside).elim (quiet z) (quiet' z)

theorem act (s : Scene) {a : Act} (quiet : a.Quiet) :
    s.Brings (Trace.haul [(s.now, a)]) (s.act a) :=
  ⟨_, .act s a, by simpa using quiet, rfl⟩

theorem wait (s : Scene) {t : Time} (later : s.now ≤ t) : s.Brings {} { s with now := t } :=
  ⟨[], .wait s later, by simp, rfl⟩

theorem now_le (h : s.Brings x s') : s.now ≤ s'.now := by
  obtain ⟨w, led, -⟩ := h
  exact led.now_le

theorem handlers_eq (h : s.Brings x s') : s'.handlers = s.handlers := by
  obtain ⟨w, led, -⟩ := h
  exact led.handlers

/-- No connection is closed on the way. -/
theorem isClosed_eq (h : s.Brings x s') (socket : Option Nat) :
    s'.trace.isClosed socket = s.trace.isClosed socket := by
  obtain ⟨w, led, quiet, -⟩ := h
  rw [led.trace, Trace.isClosed_append_of_quiet quiet]

theorem state_eq (h : s.Brings x s') : s'.trace.state = s.trace.state := by
  obtain ⟨w, led, quiet, -⟩ := h
  rw [led.trace, Trace.state_append_of_quiet quiet]

theorem called (s : Scene) (c : Callback) : s.Brings {} (s.called c) := by
  unfold Scene.called
  cases c.failure with
  | none => exact refl s
  | some f => exact act s trivial

end Brings

/-- A task that runs alone gets from an activity to what is left of it, in a later scene, and
gathers a haul on its way, whatever limit lies behind. -/
def Gathers (s : Scene) (a : Activity) (haul : Haul) (s' : Scene) (b : Activity) : Prop :=
  s.Brings haul s' ∧ ∀ (limit : Option Time) (others : List Stop), isBefore s'.now limit = true →
    a.run (elapse 0) limit (s, others) = b.run (elapse 0) limit (s', others)

namespace Gathers

variable {s s' s'' : Scene} {a b c : Activity} {x y : Haul}

theorem refl (s : Scene) (a : Activity) : s.Gathers a {} s a :=
  ⟨.refl s, fun _ _ _ => rfl⟩

theorem trans (one : s.Gathers a x s' b) (two : s'.Gathers b y s'' c) :
    s.Gathers a (x ++ y) s'' c := by
  refine ⟨one.1.trans two.1, ?_⟩
  intro limit others soon
  rw [one.2 limit others (isBefore_of_le two.1.now_le soon)]
  exact two.2 limit others soon

theorem act (z : Act) (quiet : z.Quiet) (rest : (s.act z).Gathers a x s' b) :
    s.Gathers (.act z a) (Trace.haul [(s.now, z)] ++ x) s' b :=
  ⟨(Brings.act s quiet).trans rest.1, rest.2⟩

/-- An act that adds nothing, and then the rest. -/
theorem silent (z : Act) (quiet : z.Quiet) (nothing : Trace.haul [(s.now, z)] = {})
    (rest : (s.act z).Gathers a x s' b) : s.Gathers (.act z a) x s' b := by
  have gathered := act z quiet rest
  rwa [nothing, Haul.empty_append] at gathered

theorem look {next : Trace → Activity} (rest : s.Gathers (next s.trace) x s' b) :
    s.Gathers (.look next) x s' b :=
  rest

end Gathers

theorem gathers_pause {wait : Wait} (ends : wait ≠ .forever) (s : Scene) :
    ∃ s', ∀ b, s.Gathers (.pause wait b) {} s' b := by
  cases wait with
  | none => exact ⟨s, fun _ => ⟨.refl s, fun _ _ _ => rfl⟩⟩
  | seconds length nonneg =>
    refine ⟨{ s with now := s.now + length }, fun b => ⟨.wait s (by linarith), ?_⟩⟩
    intro limit others soon
    simp only [Activity.run, elapse_zero]
    rw [if_pos soon]
  | forever => exact absurd rfl ends

/-- Callbacks that end add nothing, whether they fail or not. -/
theorem gathers_invokeAll {arguments : List Argument} {failed : Failure → Notice}
    (callbacks : List Callback) (b : Activity) :
    ∀ s : Scene, (∀ c ∈ callbacks, c.pause ≠ .forever) →
      ∃ s', s.Gathers (.invokeAll callbacks arguments failed b) {} s' b := by
  induction callbacks with
  | nil =>
    intro s _
    exact ⟨s, .refl s b⟩
  | cons c rest ih =>
    intro s ends
    have ends' : ∀ c ∈ rest, c.pause ≠ .forever := fun c inside =>
      ends c (List.mem_cons_of_mem _ inside)
    obtain ⟨s₁, waited⟩ := gathers_pause (ends c List.mem_cons_self)
      (s.act (.called ⟨c.label, arguments⟩))
    simp only [Activity.invokeAll, List.foldr_cons, Activity.invoke]
    cases c.failure with
    | none =>
      obtain ⟨s₂, others⟩ := ih s₁ ends'
      exact ⟨s₂, ((waited _).trans others).silent (.called _) trivial rfl⟩
    | some f =>
      obtain ⟨s₂, others⟩ := ih (s₁.act (.notice (failed f))) ends'
      have onward := others.silent (.notice _) trivial rfl
      exact ⟨s₂, ((waited _).trans onward).silent (.called _) trivial rfl⟩

/-- Reporting an incident adds nothing before the incident is put on record. -/
theorem gathers_handle {r : Registry} {i : Incident}
    (ends : ∀ c ∈ r.callbacks i.context, c.Ends) (s : Scene) (b : Activity) :
    ∃ s', s.Gathers (r.handle i b) {} s' b := by
  have ends' : ∀ c ∈ (r.onReport s.trace.calls i).callbacks i.context, c.pause ≠ .forever := by
    rw [Registry.callbacks_onReport, List.forall_mem_map]
    exact fun c inside => ends c inside _ _
  obtain ⟨s', called⟩ := gathers_invokeAll _ b
    ((s.act (.counted i.context)).act (.notice (.incident i))) ends'
  exact ⟨s', .look ((called.silent (.notice _) trivial rfl).silent (.counted _) trivial rfl)⟩

/-- Handlers that end add nothing, whether they fail or not. -/
theorem serve_brings (e : Event) (callbacks : List Callback) :
    ∀ s : Scene, (∀ c ∈ callbacks, c.Ends) →
      ∃ s', s.Brings {} s' ∧ ∀ limit others next finish number, isBefore s'.now limit = true →
        Activity.serve (elapse 0) limit e next finish number callbacks (s, others) =
          finish (s', others) := by
  induction callbacks with
  | nil =>
    intro s _
    exact ⟨s, .refl s, fun _ _ _ _ _ _ => rfl⟩
  | cons c rest ih =>
    intro s ends
    have ends' : ∀ c ∈ rest, c.Ends := fun c inside => ends c (List.mem_cons_of_mem _ inside)
    have ends := ends c List.mem_cons_self s.trace.calls e.arguments
    simp only [Activity.serve]
    generalize c.onCall s.trace.calls e.arguments = c at ends ⊢
    have start : s.Brings {} (s.call e c) := Brings.act s trivial
    cases pausing : c.pause with
    | none =>
      obtain ⟨s', others, served⟩ := ih ((s.call e c).called c) ends'
      refine ⟨s', (start.trans (.called _ c)).trans others, ?_⟩
      intro limit others next finish number soon
      exact served limit others next finish (number + 1) soon
    | seconds length nonneg =>
      have waited : (s.call e c).Brings {} { s.call e c with now := (s.call e c).now + length } :=
        .wait _ (by linarith)
      obtain ⟨s', others, served⟩ := ih
        (Scene.called { s.call e c with now := (s.call e c).now + length } c) ends'
      refine ⟨s', ((start.trans waited).trans (.called _ c)).trans others, ?_⟩
      intro limit others' next finish number soon
      have early : isBefore ((s.call e c).now + length) limit = true :=
        isBefore_of_le ((Brings.called _ c).now_le.trans others.now_le) soon
      simp only [early, if_true, elapse_zero]
      exact served limit others' next finish (number + 1) soon
    | forever => exact absurd pausing ends

/-- Dispatching an event adds the event. -/
theorem gathers_dispatchAll {e : Event} (s : Scene)
    (ends : ∀ c ∈ s.handlers.callbacks e.kind, c.Ends) (b : Activity) :
    ∃ s', s.Gathers (.dispatchAll e b) { events := [e] } s' b := by
  obtain ⟨s', brings, served⟩ := serve_brings e _ (s.act (.dispatched e)) ends
  have handlers : (s.act (.dispatched e)).Gathers (.dispatch e 0 b) {} s' b := by
    refine ⟨brings, ?_⟩
    intro limit others soon
    exact served limit others _ _ _ soon
  exact ⟨s', handlers.act (.dispatched e) trivial⟩

end Scene

end BoxProbe
