/-
Module: BoxProbe.Proofs.Session.Stage
Purpose: The stages that a session goes through, whatever its connection and its handlers do.
Trusted boundary: none
Main exports: Stage, Stage.step, Stage.monitor, Client.session_obeys
-/
import BoxProbe.Proofs.Session.Monitor
import BoxProbe.Session.Client

namespace BoxProbe

/-!
A session keeps nothing but its place in its own text: which states, incidents and events may come
next.  `Stage` names the places, and `Stage.step` says which act leads from one to the next; every
act that belongs to the shutdown of a probe is refused.  That a session obeys is shown once,
function by function, and everything about the order of its acts is read off the stages.
-/

/-- Whether a notice is one of a shutdown. -/
def Notice.ofShutdown : Notice → Bool
  | .shuttingDown _ | .handshakeUnfinished | .closeFailed _ | .finished _ => true
  | _ => false

/-- A stage of a session. -/
inductive Stage where
  | connecting
  /-- There is a connection, but its state is not open yet. -/
  | opened
  /-- Connecting failed. -/
  | refused
  | denied
  | turnedAway
  /-- The connection is open, and requests are being sent. -/
  | greeting
  /-- The failure of a send is on record. -/
  | faulted
  | excused
  | receiving
  /-- The QR code of a frame has been told, its message has not. -/
  | scanned
  /-- The connection is lost. -/
  | broken
  /-- That the connection was closed with an error is on record. -/
  | severed
  /-- That the connection has failed is on record. -/
  | failed
  | mourned
  | ended
deriving DecidableEq, Repr

namespace Stage

/-- The stage after a change of state. -/
def turn : Stage → ConnectionState → Option Stage
  | .connecting, .closed => some .refused
  | .opened, .open => some .greeting
  | .receiving, .closed | .broken, .closed => some .broken
  | .mourned, .closed => some .mourned
  | _, _ => none

/-- The stage after an incident is put on record. -/
def record : Stage → ErrorContext → Option Stage
  | .refused, .connection => some .denied
  | .greeting, .transport => some .faulted
  | .receiving, .payload => some .receiving
  | .broken, .close => some .severed
  | .broken, .transport => some .failed
  | _, _ => none

/-- The stage after an event. -/
def tell : Stage → Event → Option Stage
  | .denied, .error _ => some .turnedAway
  | .faulted, .error _ => some .excused
  | .greeting, .open | .excused, .open => some .receiving
  | .receiving, .qrCode _ => some .scanned
  | .receiving, .message _ | .scanned, .message _ => some .receiving
  | .severed, .error _ | .failed, .error _ => some .mourned
  | .turnedAway, .close _ _ | .broken, .close _ _ | .mourned, .close _ _ => some .ended
  | _, _ => none

/-- The stage after an act. -/
def step (s : Stage) : Act → Option Stage
  | .opened _ => if s = .connecting then some .opened else none
  | .becomes state => s.turn state
  | .recorded incident => s.record incident.context
  | .dispatched event => s.tell event
  | .notice n => if n.ofShutdown then none else some s
  | .closeCalled _ | .closeCompleted _ | .cancelled | .aborted _ => none
  | _ => some s

/-- The watch over a session. -/
def monitor : Monitor Stage where
  step := step
  called := fun _ _ => rfl
  handlerFailed := fun _ _ => rfl
  callbackFailed := fun _ _ => rfl

end Stage

open Stage (monitor)

namespace Activity

variable {s s' : Stage} {next : Activity}

theorem obeys_dispatchAll {e : Event} (told : s.tell e = some s') (h : next.Obeys monitor s') :
    (dispatchAll e next).Obeys monitor s :=
  ⟨s', told, h⟩

theorem obeys_notice {n : Notice} (own : n.ofShutdown = false) (h : next.Obeys monitor s) :
    (Activity.act (.notice n) next).Obeys monitor s := by
  refine ⟨s, ?_, h⟩
  simp [monitor, Stage.step, own]

end Activity

namespace Client

open Activity

variable {c : Client} {s s' s'' : Stage} {next : Activity}

/-- Reporting a failure puts it on record and then tells it. -/
theorem obeys_onError {f : Failure} {context : ErrorContext} (recorded : s.record context = some s')
    (told : s'.tell (.error f) = some s'') (h : next.Obeys monitor s'') :
    (c.onError f context next).Obeys monitor s := by
  apply obeys_notice rfl
  apply Registry.obeys_handle rfl rfl
  refine ⟨s', recorded, ?_⟩
  exact obeys_dispatchAll told h

theorem obeys_onClose {code : Option Int} {reason : Option String}
    (told : s.tell (.close code reason) = some .ended) :
    (onClose code reason .done).Obeys monitor s :=
  obeys_notice rfl (obeys_dispatchAll told trivial)

/-- The end of a session is the same whether its connection has failed or not. -/
theorem obeys_ending (turned : s.turn .closed = some s')
    (told : ∀ code reason, s'.tell (.close code reason) = some .ended) :
    ending.Obeys monitor s :=
  ⟨s', turned, fun _ => obeys_onClose (told _ _)⟩

/-- Requests are sent until one fails, which is told. -/
theorem obeys_sendAll {types : List MessageType} (greeted : next.Obeys monitor .greeting)
    (excused : next.Obeys monitor .excused) : (c.sendAll types next).Obeys monitor .greeting := by
  induction types with
  | nil => exact greeted
  | cons type rest ih =>
    apply obeys_notice rfl
    intro t
    simp only [nextSend]
    split
    all_goals
      simp only [Obeys]
      split
      next => exact ⟨_, rfl, ih⟩
      next f _ => exact ⟨_, rfl, obeys_onError rfl rfl excused⟩

theorem obeys_onPayload {payload : Json} (h : next.Obeys monitor .receiving) :
    (onPayload payload next).Obeys monitor .receiving := by
  apply obeys_notice rfl
  simp only
  split
  next => exact ⟨_, rfl, obeys_notice rfl (obeys_dispatchAll rfl (obeys_dispatchAll rfl h))⟩
  next => exact obeys_dispatchAll rfl h

theorem obeys_onMessage {frame : Frame} (h : next.Obeys monitor .receiving) :
    (c.onMessage frame next).Obeys monitor .receiving := by
  refine ⟨_, rfl, obeys_notice rfl ?_⟩
  simp only
  split
  next payload _ => exact obeys_onPayload h
  next fault _ =>
    apply obeys_notice rfl
    exact Registry.obeys_handle rfl rfl ⟨_, rfl, h⟩

/-- Frames are received until the connection ends. -/
theorem obeys_receiveFrom {socket : Nat} (server : List ServerStep) :
    (c.receiveFrom socket server).Obeys monitor .receiving := by
  have ended : ending.Obeys monitor .receiving := obeys_ending rfl fun _ _ => rfl
  induction server with
  | nil => exact ⟨trivial, ended⟩
  | cons step rest ih =>
    refine ⟨?_, ended⟩
    cases step.act with
    | frame f => exact obeys_onMessage ih
    | fail f left =>
      have told : ∃ s, Stage.record .broken (receiveContext f) = some s ∧
          s.tell (.error f) = some .mourned := by
        unfold receiveContext
        split
        next => exact ⟨_, rfl, rfl⟩
        next => exact ⟨_, rfl, rfl⟩
      obtain ⟨blamed, recorded, told⟩ := told
      have failed : (Activity.act (.becomes .closed)
          (c.onError f (receiveContext f) ending)).Obeys monitor .receiving :=
        ⟨_, rfl, obeys_onError recorded told (obeys_ending rfl fun _ _ => rfl)⟩
      cases left with
      | none => exact failed
      | some frame => exact ⟨_, rfl, failed⟩
    | close frame => exact ⟨_, rfl, ended⟩

theorem obeys_receive : c.receive.Obeys monitor .receiving := by
  intro t
  simp only
  split
  next => exact obeys_receiveFrom _
  next => exact obeys_ending rfl fun _ _ => rfl

/-- A session goes through its stages, on every connection and with all handlers and callbacks. -/
theorem session_obeys (url : String) (script : Script) :
    (c.session url script).Obeys monitor .connecting := by
  refine ⟨_, rfl, _, rfl, ?_⟩
  simp only [Obeys]
  split
  next f _ => exact ⟨_, rfl, obeys_onError rfl rfl (obeys_onClose rfl)⟩
  next =>
    refine ⟨_, rfl, _, rfl, _, rfl, ?_⟩
    have received := obeys_receive (c := c)
    exact obeys_sendAll (obeys_dispatchAll rfl received) (obeys_dispatchAll rfl received)

end Client

/-! ### What a stage says of the acts before it -/

/-- The acts that only a shutdown does. -/
def Act.ofShutdown : Act → Bool
  | .notice n => n.ofShutdown
  | .closeCalled _ | .closeCompleted _ | .cancelled | .aborted _ => true
  | _ => false

namespace Stage

variable {s s' : Stage}

theorem not_ofShutdown_of_step {a : Act} (h : s.step a = some s') : a.ofShutdown = false := by
  cases a <;> simp_all [step, Act.ofShutdown]

theorem ne_connecting_of_turn {state : ConnectionState} (h : s.turn state = some s') :
    s' ≠ .connecting := by
  rintro rfl
  cases s <;> cases state <;> simp [turn] at h

theorem ne_connecting_of_record {context : ErrorContext} (h : s.record context = some s') :
    s' ≠ .connecting := by
  rintro rfl
  cases s <;> cases context <;> simp [record] at h

theorem ne_connecting_of_tell {event : Event} (h : s.tell event = some s') :
    s' ≠ .connecting := by
  rintro rfl
  cases s <;> cases event <;> simp [tell] at h

end Stage

end BoxProbe
