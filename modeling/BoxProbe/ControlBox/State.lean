/-
Module: BoxProbe.ControlBox.State
Purpose: The values that a control box holds, and how it answers one request.
Main exports: BoxState, BoxState.burst, BoxState.answer, BoxStep, BoxNotice
-/
import BoxProbe.Failure.Incident

/-!
A control box holds two limits, four failsafe settings and the list of remote entities.  A request
to set one of the first six replaces it, and the two limits are echoed back; requests for the entity
list and for all data are answered; every other frame changes nothing and gets no answer of its own.
-/

namespace BoxProbe

/-- The entity that a control box knows from the start. -/
def demoEntity : Entity :=
  { name := "d:_i:Demo_EVSE-0001:[1]"
    ski := "f7ac1b4d9e2c3a5b6d7e8f9a0b1c2d3e4f5a6b7c"
    useCases := ["LPC", "LPP"] }

/-- The values that a control box holds. -/
structure BoxState where
  consumptionLimit : LoadLimit := { value := Double.ofInt 4200 }
  productionLimit : LoadLimit := { value := Double.ofInt 5000 }
  consumptionFailsafeValue : Double := Double.ofInt 4200
  consumptionFailsafeDuration : Double := Double.ofInt 7200
  productionFailsafeValue : Double := Double.ofInt 5000
  productionFailsafeDuration : Double := Double.ofInt 7200
  entities : List Entity := [demoEntity]
deriving DecidableEq, Repr

/-- What a control box logs. -/
inductive BoxNotice where
  | listening (url : String)
  | stopped
  | clientConnected
  | sendingQrCode (text : String)
  | frontendSent (raw : String)
  | unsupported (type : MessageType)
  | readError (failure : Failure)

namespace BoxNotice

/-- The level of a notice. -/
def level : BoxNotice → LogLevel
  | .unsupported _ => .warning
  | _ => .info

/-- The line of a notice. -/
def message : BoxNotice → Text
  | .listening url => s!"Mock control box listening on {url}"
  | .stopped => "Mock control box stopped"
  | .clientConnected => "Client Connected"
  | .sendingQrCode text => s!"Sending QR code: {text}"
  | .frontendSent raw => s!"Frontend sent: {raw}"
  | .unsupported type => s!"{type.name} is not supported by the mock control box"
  | .readError failure => ("WebSocket read error: " : Text) ++ failure.message

/-- The record of a notice. -/
def toRecord (n : BoxNotice) : LogRecord :=
  { level := n.level, source := "mock.control_box", message := n.message }

end BoxNotice

/-- What a control box does on a connection. -/
inductive BoxStep where
  | log (notice : BoxNotice)
  /-- A frame has arrived. -/
  | receive (raw : String)
  /-- The box holds new values. -/
  | hold (state : BoxState)
  | send (message : Message)

namespace BoxState

/-- The use case of consumption. -/
def consumption : Text := "LPC"

/-- The use case of production. -/
def production : Text := "LPP"

/-- The message that shows a limit. -/
def limitMessage (type : MessageType) (useCase : Text) (limit : LoadLimit) : Message :=
  { Message.ofType type with useCase, limit }

/-- The message that shows a failsafe setting. -/
def valueMessage (type : MessageType) (useCase : Text) (value : Double) : Message :=
  { Message.ofType type with useCase, value }

/-- The limit on consumption, as a message. -/
def consumptionLimitMessage (s : BoxState) : Message :=
  limitMessage .getConsumptionLimit consumption s.consumptionLimit

/-- The limit on production, as a message. -/
def productionLimitMessage (s : BoxState) : Message :=
  limitMessage .getProductionLimit production s.productionLimit

/-- The QR code and all values. -/
def burst (s : BoxState) (qrText : String) : List Message :=
  [{ Message.ofType .qrCode with text := qrText },
    s.consumptionLimitMessage,
    s.productionLimitMessage,
    valueMessage .getConsumptionFailsafeValue consumption s.consumptionFailsafeValue,
    valueMessage .getConsumptionFailsafeDuration consumption s.consumptionFailsafeDuration,
    valueMessage .getProductionFailsafeValue production s.productionFailsafeValue,
    valueMessage .getProductionFailsafeDuration production s.productionFailsafeDuration]

/-- Sends the QR code and all values. -/
def sendData (s : BoxState) (qrText : String) : List BoxStep :=
  .log (.sendingQrCode qrText) :: (s.burst qrText).map .send

/-- The entity list, as a message. -/
def entitiesMessage (s : BoxState) : Message :=
  { Message.ofType .getEntityList with entities := some s.entities }

/-- The values that a box holds after a message. -/
def after (s : BoxState) (m : Message) : BoxState :=
  match m.messageType? with
  | some .setConsumptionLimit => { s with consumptionLimit := m.limit }
  | some .setProductionLimit => { s with productionLimit := m.limit }
  | some .setConsumptionFailsafeValue => { s with consumptionFailsafeValue := m.value }
  | some .setConsumptionFailsafeDuration => { s with consumptionFailsafeDuration := m.value }
  | some .setProductionFailsafeValue => { s with productionFailsafeValue := m.value }
  | some .setProductionFailsafeDuration => { s with productionFailsafeDuration := m.value }
  | _ => s

/-- What a box that holds `s` sends and logs in answer to a message that it has applied. -/
def reply (s : BoxState) (qrText : String) (m : Message) : List BoxStep :=
  match m.messageType? with
  | some .getEntityList => [.send s.entitiesMessage]
  | some .getAllData => s.sendData qrText
  | some .setConsumptionLimit => [.send s.consumptionLimitMessage]
  | some .setProductionLimit => [.send s.productionLimitMessage]
  | some .stopConsumptionHeartbeat => [.log (.unsupported .stopConsumptionHeartbeat)]
  | some .startConsumptionHeartbeat => [.log (.unsupported .startConsumptionHeartbeat)]
  | _ => []

/-- The message that a frame stands for: one of type text, if it reads as none. -/
def requestOf (raw : String) : Message :=
  match Message.parse raw with
  | .ok (some m) => m
  | _ => Message.ofType .text

/-- Applies a request and answers it. -/
def answer (s : BoxState) (qrText : String) (raw : String) : List BoxStep :=
  let m := requestOf raw
  let held := s.after m
  .hold held :: held.reply qrText m

/-- Takes frames, one after another; each is answered and then acknowledged. -/
def serve (qrText : String) : BoxState → List Frame → List BoxStep
  | _, [] => []
  | s, frame :: rest =>
    let raw := frame.content
    .receive raw :: .log (.frontendSent raw) :: (s.answer qrText raw ++
      .send (Message.ofType .acknowledge) :: serve qrText (s.after (requestOf raw)) rest)

/-- A whole connection: the greeting, and the frames. -/
def converse (s : BoxState) (qrText : String) (frames : List Frame) : List BoxStep :=
  .log .clientConnected :: (s.sendData qrText ++ serve qrText s frames)

end BoxState

end BoxProbe
