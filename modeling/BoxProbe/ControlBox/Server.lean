/-
Module: BoxProbe.ControlBox.Server
Purpose: A control box that serves connections, and its listener.
Main exports: ControlBox, BoxStep.perform, BoxReport.texts, ControlBox.connect,
  ControlBox.request, ControlBox.start, ControlBox.stop
-/
import BoxProbe.ControlBox.State

/-!
A connection to the box is served step by step until a send fails or its frames end.  A message with
an integer of too many digits fails before it is sent.  A failure that says that the connection is
closed ends the service quietly, any other one leaves it.
-/

namespace BoxProbe

/-- The QR code text of a box that is given none. -/
def demoQrText : String :=
  "SHIP;SKI:0000000000000000000000000000000000000000;ID:Demo-ControlBox-123456789;BRAND:Demo;" ++
    "TYPE:EnergyManagementSystem;MODEL:ControlBox;SERIAL:123456789;CAT:1;ENDSHIP;"

/-- The settings of a control box. -/
structure BoxSettings where
  host : String := "localhost"
  port : Int := 7071
  qrText : String := demoQrText
deriving DecidableEq, Repr

/-- A connection to the box: its frames, the failure after them, and the number of sends after which
every further one fails. -/
structure BoxClient where
  frames : List Frame := []
  failure : Option Failure := none
  sendFailure : Option (Nat × Failure) := none

namespace BoxStep

/-- The failure of a message with an integer that is too long to be written. -/
def unwritable : Failure :=
  .ofMessage .value Numeral.unwritableMessage

/-- Why a message is not sent after a number of successful sends: it cannot be written, or from then
on every send fails. -/
def refusal? (failing : Option (Nat × Failure)) (succeeded : Nat) (m : Message) : Option Failure :=
  if m.isWritable then
    match failing with
    | some (limit, f) => if succeeded < limit then none else some f
    | none => none
  else some unwritable

/-- The steps that are done before a send is refused, and the failure if it came to that; every send
after a number of successful ones fails. -/
def perform (failing : Option (Nat × Failure)) :
    (succeeded : Nat) → List BoxStep → List BoxStep × Option Failure
  | _, [] => ([], none)
  | succeeded, .send m :: rest =>
    match refusal? failing succeeded m with
    | some f => ([], some f)
    | none =>
      let p := perform failing (succeeded + 1) rest
      (.send m :: p.1, p.2)
  | succeeded, step :: rest =>
    let p := perform failing succeeded rest
    (step :: p.1, p.2)

/-- The messages sent. -/
def sent (steps : List BoxStep) : List Message :=
  steps.filterMap fun
    | .send m => some m
    | _ => none

/-- The frames received. -/
def received (steps : List BoxStep) : List String :=
  steps.filterMap fun
    | .receive raw => some raw
    | _ => none

/-- The notices logged. -/
def notices (steps : List BoxStep) : List BoxNotice :=
  steps.filterMap fun
    | .log n => some n
    | _ => none

/-- The values held after the steps. -/
def held (s : BoxState) (steps : List BoxStep) : BoxState :=
  steps.foldl (fun s step =>
    match step with
    | .hold s' => s'
    | _ => s) s

end BoxStep

/-- A control box. -/
structure ControlBox where
  host : String := "localhost"
  port : Int := 0
  path : String := "/ws"
  qrText : String := demoQrText
  state : BoxState := {}
  received : List String := []
  connections : Nat := 0
  /-- Whether the listener that was started last, if there was one, is open. -/
  listener : Option Bool := none

/-- What a box did in one operation, and the failure that left it. -/
structure BoxReport where
  box : ControlBox
  sent : List Message := []
  notices : List BoxNotice := []
  failure : Option Failure := none

/-- The texts of the frames that a box sent. -/
def BoxReport.texts (r : BoxReport) : List String :=
  r.sent.map Message.wire

namespace ControlBox

/-- A box with settings. -/
def ofSettings (s : BoxSettings) : ControlBox :=
  { host := s.host, port := s.port, qrText := s.qrText }

/-- The address of a box. -/
def url (b : ControlBox) : String :=
  s!"ws://{b.host}:{b.port}{b.path}"

/-- Does steps that no failing send cuts off, or that one does. -/
def performing (b : ControlBox) (failing : Option (Nat × Failure)) (steps : List BoxStep) :
    BoxReport :=
  let (performed, failure) := BoxStep.perform failing 0 steps
  { box := { b with
      state := BoxStep.held b.state performed
      received := b.received ++ BoxStep.received performed }
    sent := BoxStep.sent performed
    notices := BoxStep.notices performed
    failure }

/-- A failure that says that the connection is closed is logged and goes no further. -/
def closeQuietly (r : BoxReport) : BoxReport :=
  match r.failure with
  | some f =>
    if f.isClosed then { r with notices := r.notices ++ [.readError f], failure := none } else r
  | none => r

/-- Serves a connection. -/
def connect (b : ControlBox) (client : BoxClient) : BoxReport :=
  let counted := { b with connections := b.connections + 1 }
  let served := counted.performing client.sendFailure (b.state.converse b.qrText client.frames)
  closeQuietly { served with failure := served.failure.or client.failure }

/-- Answers a single request. -/
def request (b : ControlBox) (raw : String) : BoxReport :=
  b.performing none (b.state.answer b.qrText raw)

/-- Sends the QR code and all values. -/
def sendData (b : ControlBox) : BoxReport :=
  b.performing none (b.state.sendData b.qrText)

/-- Starts to listen; `bound` is the port of the listener, if it has a socket. -/
def start (b : ControlBox) (bound : Option Int) : BoxReport :=
  let started := { b with port := bound.getD b.port, listener := some true }
  { box := started, notices := [.listening started.url] }

/-- Stops to listen. -/
def stop (b : ControlBox) : BoxReport :=
  if b.listener = some true then
    { box := { b with listener := some false }, notices := [.stopped] }
  else { box := b }

/-- Starts and stops. -/
def visit (b : ControlBox) (bound : Option Int) : BoxReport :=
  let started := b.start bound
  let stopped := started.box.stop
  { stopped with notices := started.notices ++ stopped.notices }

/-- The refusal of a request for a path: none for the box's own path. -/
def checkPath (b : ControlBox) (path : String) : Option (Nat × String) :=
  if path = b.path then none else some (404, "Not Found\n")

end ControlBox

end BoxProbe
