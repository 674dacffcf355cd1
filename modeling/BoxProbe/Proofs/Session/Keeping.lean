/-
Module: BoxProbe.Proofs.Session.Keeping
Purpose: Activities that leave a watch in its state, whenever and wherever they rest.
Trusted boundary: none
Main exports: Activity.Keeps, Act.isRoutine, Watch.Permits, Client.keeps_onError,
  Client.keeps_receive
-/
import BoxProbe.Proofs.Session.Watch

namespace BoxProbe

/-!
A watch is mostly in a state in which a session may do its routine at any time: it may take frames,
report failures and tell events.  That the session stays in such a state until its end is shown once
for all watches.
-/

variable {σ : Type} {m : Watch σ} {h : Handlers} {q : σ}

/-- An activity heeds a watch from a state on, whenever it begins. -/
def Activity.Keeps (m : Watch σ) (h : Handlers) (q : σ) (a : Activity) : Prop :=
  ∀ t, a.Heeds m h t q

namespace Activity.Keeps

variable {next : Activity}

theorem act {a : Act} (step : ∀ t, m.step q t a = some q) (rest : next.Keeps m h q) :
    (Activity.act a next).Keeps m h q :=
  fun t => ⟨q, step t, rest t⟩

theorem look {next : Trace → Activity} (rest : ∀ seen, (next seen).Keeps m h q) :
    (Activity.look next).Keeps m h q :=
  fun t seen _ => rest seen t

theorem pause (free : ∀ rest, m.rests q rest) (wait : Wait) (rest : next.Keeps m h q) :
    (Activity.pause wait next).Keeps m h q :=
  fun _ => ⟨fun _ => free _, fun t' _ => rest t'⟩

theorem dispatchAll (free : ∀ rest, m.rests q rest) {e : Event}
    (step : ∀ t, m.step q t (.dispatched e) = some q)
    (overlooks : m.Overlooks q e.arguments .handlerFailed) (rest : next.Keeps m h q) :
    (Activity.dispatchAll e next).Keeps m h q :=
  fun t => heeds_dispatchAll (step t) overlooks (fun _ _ => free _) fun t' _ => rest t'

theorem listen (free : ∀ rest, m.rests q rest) {socket : Option Nat} {wait : Wait}
    {arrived closed : Activity} (comes : arrived.Keeps m h q) (ends : closed.Keeps m h q) :
    (Activity.listen socket wait arrived closed).Keeps m h q :=
  fun _ => ⟨free _, fun t' _ => comes t', fun t' _ _ => ends t'⟩

end Activity.Keeps

/-- The acts of a session that takes frames, apart from records of failures. -/
def Act.isRoutine : Act → Bool
  | .notice (.sending _ _) | .dispatched .open => false
  | .notice _ | .becomes _ | .received _ | .qrCode _ | .left _ _ | .dispatched _ | .called _ => true
  | _ => false

/-- A state in which a watch permits a probe's routine, and all rest. -/
structure Watch.Permits (m : Watch σ) (r : Registry) (h : Handlers) (q : σ) : Prop where
  free : ∀ rest, m.rests q rest
  routine : ∀ t a, a.isRoutine = true → m.step q t a = some q
  report : ∀ i next, next.Keeps m h q → (r.handle i (.act (.recorded i) next)).Keeps m h q

namespace Watch.Permits

variable {c : Client} {next : Activity} (permits : m.Permits c.registry h q)
include permits

theorem overlooks {arguments : List Argument} {failed : Failure → Notice}
    (routine : ∀ f, (Act.notice (failed f)).isRoutine = true) : m.Overlooks q arguments failed where
  calls t _ := permits.routine t _ rfl
  failures t f := permits.routine t _ (routine f)

theorem act {a : Act} (routine : a.isRoutine = true) (rest : next.Keeps m h q) :
    (Activity.act a next).Keeps m h q :=
  .act (fun t => permits.routine t a routine) rest

theorem dispatchAll {e : Event} (routine : (Act.dispatched e).isRoutine = true)
    (rest : next.Keeps m h q) : (Activity.dispatchAll e next).Keeps m h q :=
  .dispatchAll permits.free (fun t => permits.routine t _ routine)
    (permits.overlooks fun _ => rfl) rest

end Watch.Permits

namespace Client

open Activity (Keeps)

variable {c : Client} {next : Activity} (permits : m.Permits c.registry h q)
include permits

theorem keeps_onError (f : Failure) (context : ErrorContext) (rest : next.Keeps m h q) :
    (c.onError f context next).Keeps m h q := by
  apply permits.act rfl
  apply permits.report
  exact permits.dispatchAll rfl rest

theorem keeps_onClose (code : Option Int) (reason : Option String) :
    (onClose code reason .done).Keeps m h q := by
  apply permits.act rfl
  apply permits.dispatchAll rfl
  exact fun _ => permits.free .ended

theorem keeps_ending : ending.Keeps m h q := by
  apply permits.act rfl
  apply Keeps.look
  intro seen
  exact keeps_onClose permits _ _

theorem keeps_onPayload (payload : Json) (rest : next.Keeps m h q) :
    (onPayload payload next).Keeps m h q := by
  have told : (Activity.dispatchAll (.message payload) next).Keeps m h q :=
    permits.dispatchAll rfl rest
  apply permits.act rfl
  simp only
  split
  next =>
    apply permits.act rfl
    apply permits.act rfl
    exact permits.dispatchAll rfl told
  next => exact told

theorem keeps_onMessage (frame : Frame) (rest : next.Keeps m h q) :
    (c.onMessage frame next).Keeps m h q := by
  apply permits.act rfl
  apply permits.act rfl
  split
  next payload _ => exact keeps_onPayload permits payload rest
  next fault _ =>
    apply permits.act rfl
    exact permits.report _ _ rest

theorem keeps_receiveFrom (socket : Nat) (server : List ServerStep) :
    (c.receiveFrom socket server).Keeps m h q := by
  have ends : ending.Keeps m h q := keeps_ending permits
  induction server with
  | nil => exact .listen permits.free (fun _ => permits.free .ended) ends
  | cons step rest ih =>
    refine .listen permits.free ?_ ends
    cases step.act with
    | frame f => exact keeps_onMessage permits f ih
    | fail f left =>
      have failed : (Activity.act (.becomes .closed)
          (c.onError f (receiveContext f) ending)).Keeps m h q :=
        permits.act rfl (keeps_onError permits f _ ends)
      cases left with
      | none => exact failed
      | some frame => exact permits.act rfl failed
    | close frame => exact permits.act rfl ends

/-- A session that takes frames leaves the watch in its state. -/
theorem keeps_receive : c.receive.Keeps m h q := by
  apply Keeps.look
  intro seen
  split
  next => exact keeps_receiveFrom permits _ _
  next => exact keeps_ending permits

end Client

end BoxProbe
