/-
Module: BoxProbe.Session.Client
Purpose: What a probe does on the events of its connection.
Main exports: ProbeSettings, Client, Client.onOpen, Client.onMessage, Client.onError,
  Client.onClose, Client.session
-/
import BoxProbe.Failure.Reporter
import BoxProbe.Session.Script

/-!
When its connection is open the probe asks for the entity list and for all data, back to back, and
then takes frames until the connection ends.  A failed send ends the requests but not the session;
a failed connection is reported once and then closed.  Whatever is sent goes to the connection in
use, and so does the question how it was closed; only the frames of a session come from one
connection to its end.
-/

namespace BoxProbe

/-- The settings of a probe. -/
structure ProbeSettings where
  url : String := "ws://localhost:7071/ws"
  /-- Seconds until the probe shuts down. -/
  lifetime : Double := Double.ofInt 5
  openTimeout : Double := Double.ofInt 10
  closeTimeout : Double := Double.ofInt 1
deriving DecidableEq, Repr

/-- The requests that a probe sends, in order. -/
def probeRequests : List MessageType :=
  [.getEntityList, .getAllData]

/-- The number of characters of a frame that an incident keeps. -/
def maxFramePreview : Nat := 100

/-- A probe's settings and registrations. -/
structure Client where
  settings : ProbeSettings := {}
  handlers : Handlers := []
  registry : Registry := []

namespace Client

/-- The severity of a failure by its context. -/
def severity : ErrorContext → Severity
  | .connection => .high
  | _ => .medium

/-- The incident of a failed connection. -/
def connectionIncident (c : Client) (f : Failure) (context : ErrorContext) : Incident :=
  .of f context (severity context) ("websocket_" ++ context.name)
    [(Text.ofString "url", Json.ofString c.settings.url)]

/-- Reports a failure of the connection. -/
def onError (c : Client) (f : Failure) (context : ErrorContext) (next : Activity) : Activity :=
  let incident := c.connectionIncident f context
  .act (.notice (.failed f)) <|
    c.registry.handle incident <|
      .act (.recorded incident) <|
        .dispatchAll (.error f) next

/-- Reports that the connection is closed. -/
def onClose (code : Option Int) (reason : Option String) (next : Activity) : Activity :=
  .act (.notice (.connectionClosed code reason)) <|
    .dispatchAll (.close code reason) next

/-- The connection in use, by number, and what its next send does. -/
def nextSend (t : Trace) : Nat × SendOutcome :=
  match t.socket? with
  | some (number, s) => (number, s.script.send s.sent.length)
  | none => (0, SendOutcome.nowhere)

/-- Sends requests on the connection in use until one fails. -/
def sendAll (c : Client) : List MessageType → (next : Activity) → Activity
  | [], next => next
  | type :: rest, next =>
    let request := buildRequest type.code
    .act (.notice (.sending type request)) <|
      .look fun t =>
        let (number, outcome) := nextSend t
        .pause outcome.wait <|
          match outcome.failure with
          | none => .act (.sent number request) (sendAll c rest next)
          | some f => .act (.sendFailed request) (c.onError f .transport next)

/-- Greets an open connection with the requests. -/
def onOpen (c : Client) (next : Activity) : Activity :=
  .act (.notice .connected) <|
    c.sendAll probeRequests <|
      .dispatchAll .open next

/-- The incident of a frame that is no JSON. -/
def payloadIncident (raw : String) (fault : Json.Fault) : Incident :=
  .of (.undecodable raw fault) .payload .medium "message_parse"
    [(Text.ofString "frame", .str ((Text.ofString raw).take maxFramePreview))]

/-- Takes a decoded payload. -/
def onPayload (payload : Json) (next : Activity) : Activity :=
  let deliver : Activity := .dispatchAll (.message payload) next
  .act (.notice (.messageType (Payload.typeTag payload))) <|
    if Payload.isQrCode payload then
      let text := Payload.textOf payload
      .act (.qrCode text) <|
        .act (.notice (.qrCode text)) <|
          .dispatchAll (.qrCode text) deliver
    else deliver

/-- Takes a frame. -/
def onMessage (c : Client) (frame : Frame) (next : Activity) : Activity :=
  let raw := frame.content
  .act (.received raw) <|
    .act (.notice (.received raw)) <|
      match Payload.decode raw with
      | .ok payload => onPayload payload next
      | .error fault =>
        let incident := payloadIncident raw fault
        .act (.notice (.undecodable raw fault)) <|
          c.registry.handle incident <|
            .act (.recorded incident) next

/-- The end of a session, with what is then known of the connection in use. -/
def ending : Activity :=
  .act (.becomes .closed) <|
    .look fun t =>
      onClose (t.closeFrame?.map (·.code)) (t.closeFrame?.map (·.reason)) .done

/-- The context of a failure while frames are received. -/
def receiveContext (f : Failure) : ErrorContext :=
  if f.isClosedByError then .close else .transport

/-- Takes frames of a connection until it ends.  The client's close ends the wait for a step, unless
the step outlasts it. -/
def receiveFrom (c : Client) (socket : Nat) : List ServerStep → Activity
  | [] => .listen (some socket) .forever .done ending
  | step :: rest =>
    let arrived : Activity :=
      match step.act with
      | .frame f => c.onMessage f (receiveFrom c socket rest)
      | .fail f left =>
        let failed : Activity := .act (.becomes .closed) (c.onError f (receiveContext f) ending)
        match left with
        | some frame => .act (.left socket frame) failed
        | none => failed
      | .close frame => .act (.left socket frame) ending
    .listen (if step.outlasts then none else some socket) step.after arrived ending

/-- Takes frames of the connection in use until it ends. -/
def receive (c : Client) : Activity :=
  .look fun t =>
    match t.socket? with
    | some (number, s) => c.receiveFrom number s.script.server
    | none => ending

/-- Connects, greets the connection, and takes frames until one ends. -/
def session (c : Client) (url : String) (script : Script) : Activity :=
  .act (.notice (.connecting url)) <|
    .act (.connectCalled url c.settings.openTimeout c.settings.closeTimeout) <|
      .pause script.connectWait <|
        match script.connectFailure with
        | some f =>
          .act (.becomes .closed) <|
            c.onError f .connection <|
              onClose none none .done
        | none =>
          .act (.opened script) <|
            .act (.becomes .open) <|
              c.onOpen c.receive

end Client

end BoxProbe
