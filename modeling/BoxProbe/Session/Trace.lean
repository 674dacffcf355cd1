/-
Module: BoxProbe.Session.Trace
Purpose: What a probe does, as a timed list of acts, and the views of it.
Main exports: ConnectionState, EventKind, Event, Notice, Act, Trace, Trace.log, Trace.sent,
  Trace.received, Trace.qrCodes, Trace.errors, Trace.count, Trace.calls, Socket, Trace.sockets,
  Trace.socket?
-/
import BoxProbe.Failure.Incident
import BoxProbe.Session.Script

/-!
Everything a probe does is an act at an instant.  What can be observed of a run, such as its log,
the frames sent and received, the errors and the calls to handlers, is read off the list of its
acts.  The connections that were opened are numbered in order, and acts name the one they concern;
the newest one is in use.
-/

namespace BoxProbe

/-- The states of a connection that can be observed. -/
inductive ConnectionState where
  | connecting
  | open
  | closed
deriving DecidableEq, Repr

/-- All states. -/
def ConnectionState.all : List ConnectionState :=
  [.connecting, .open, .closed]

/-- The name of a state. -/
def ConnectionState.name : ConnectionState → String
  | .connecting => "connecting"
  | .open => "open"
  | .closed => "closed"

/-- The kinds of events that handlers can be registered for. -/
inductive EventKind where
  | open
  | message
  | error
  | close
  | qrCode
deriving DecidableEq, Repr

namespace EventKind

/-- All kinds. -/
def all : List EventKind :=
  [.open, .message, .error, .close, .qrCode]

/-- The name of a kind. -/
def name : EventKind → String
  | .open => "open"
  | .message => "message"
  | .error => "error"
  | .close => "close"
  | .qrCode => "qr_code"

/-- The kind of a name. -/
def ofName? (name : String) : Option EventKind :=
  all.find? fun k => k.name == name

/-- The words for a name that is no kind. -/
def unknownMessage (name : String) : Text :=
  ("Unknown event " : Text) ++ (Text.ofString name).quoted ++ (", expected one of " : Text) ++
    Failure.argumentList (all.map fun k => (Text.ofString k.name).quoted)

end EventKind

/-- An event, with what its handlers are given. -/
inductive Event where
  | open
  | message (payload : Json)
  | error (failure : Failure)
  | close (code : Option Int) (reason : Option String)
  | qrCode (text : Json)

/-- An argument of a handler. -/
inductive Argument where
  | value (v : Json)
  | failure (f : Failure)
  | incident (i : Incident)

namespace Event

/-- The kind of an event. -/
def kind : Event → EventKind
  | .open => .open
  | .message _ => .message
  | .error _ => .error
  | .close _ _ => .close
  | .qrCode _ => .qrCode

/-- What handlers of an event are given. -/
def arguments : Event → List Argument
  | .open => []
  | .message payload => [.value payload]
  | .error failure => [.failure failure]
  | .close code reason =>
    [.value (code.elim .null .int), .value (reason.elim .null Json.ofString)]
  | .qrCode text => [.value text]

end Event

/-- The numbers of a run's summary. -/
structure Stats where
  sent : Nat
  received : Nat
  qrCodes : Nat
  errors : Nat
deriving DecidableEq, Repr

/-- What is logged during a run. -/
inductive Notice where
  | connecting (url : String)
  | connected
  | sending (type : MessageType) (request : String)
  | received (raw : String)
  | undecodable (raw : String) (fault : Json.Fault)
  | messageType (tag : Json)
  | qrCode (text : Json)
  | failed (failure : Failure)
  | connectionClosed (code : Option Int) (reason : Option String)
  | shuttingDown (state : ConnectionState)
  | handshakeUnfinished
  | closeFailed (failure : Failure)
  | finished (stats : Stats)
  | handlerFailed (failure : Failure)
  | incident (i : Incident)
  | callbackFailed (failure : Failure)

namespace Notice

/-- The level of a notice. -/
def level : Notice → LogLevel
  | .messageType _ | .handshakeUnfinished | .closeFailed _ => .debug
  | .handlerFailed _ | .callbackFailed _ => .error
  | .incident i => i.severity.level
  | _ => .info

/-- The part of the program that logs a notice. -/
def source : Notice → String
  | .incident _ | .callbackFailed _ => "handlers.error_handler"
  | _ => "client"

/-- The line of a notice. -/
def message : Notice → Text
  | .connecting url => s!"Connecting to WebSocket server at {url}..."
  | .connected => "Connected to WebSocket server"
  | .sending type request =>
    ("Sending " : Text) ++ describeType (.int type.code) ++ Text.ofString s!" request: {request}"
  | .received raw => s!"Received: {raw}"
  | .undecodable raw fault => s!"Error parsing message: {undecodableMessage raw fault}"
  | .messageType tag => ("Message type: " : Text) ++ describeType tag
  | .qrCode text => ("QR Code received: " : Text) ++ text.inline
  | .failed failure => ("WebSocket error: " : Text) ++ failure.shown
  | .connectionClosed none _ => "WebSocket connection closed"
  | .connectionClosed (some code) reason =>
    Text.ofString s!"WebSocket connection closed (code={code}, reason=" ++
      (reason.elim ("None" : Text) fun r => (Text.ofString r).quoted) ++ (")" : Text)
  | .shuttingDown state => s!"Shutting down probe (state: {state.name})"
  | .handshakeUnfinished => "Close handshake did not finish before the deadline"
  | .closeFailed failure => ("Error while closing connection: " : Text) ++ failure.shown
  | .finished s =>
    s!"Probe finished: sent {s.sent}, received {s.received}, QR codes {s.qrCodes}, " ++
      s!"errors {s.errors}"
  | .handlerFailed failure => ("Error in event handler: " : Text) ++ failure.message
  | .incident i => i.line
  | .callbackFailed failure => ("Error in error handler: " : Text) ++ failure.message

/-- The record of a notice. -/
def toRecord (n : Notice) : LogRecord :=
  { level := n.level, source := n.source, message := n.message }

end Notice

/-- A call to a handler or to an error callback. -/
structure Call where
  label : String
  arguments : List Argument

/-- What a probe can do at an instant. -/
inductive Act where
  | notice (n : Notice)
  | becomes (state : ConnectionState)
  | connectCalled (url : String) (openTimeout closeTimeout : Double)
  /-- A connection is open, and from now on in use. -/
  | opened (script : Script)
  | sent (socket : Nat) (request : String)
  | sendFailed (request : String)
  | received (raw : String)
  | qrCode (text : Json)
  | counted (context : ErrorContext)
  | recorded (incident : Incident)
  | dispatched (event : Event)
  | called (call : Call)
  /-- The server leaves a connection with a close frame. -/
  | left (socket : Nat) (frame : CloseFrame)
  | closeCalled (socket : Nat)
  | closeCompleted (socket : Nat)
  | cancelled
  | aborted (socket : Nat)

/-- The acts of a run with their instants, in order. -/
abbrev Trace := List (Time × Act)

/-- What became of one opened connection. -/
structure Socket where
  script : Script
  sent : List (Time × String) := []
  closeCalls : List Time := []
  closedAt : Option Time := none
  /-- The close frame that was the last to be known. -/
  closeFrame : Option CloseFrame := none
  /-- Whether the transport, if there is one, is closing. -/
  transport : Option Bool := script.transport
  aborts : Nat := 0

namespace Trace

/-- The log of a run. -/
def log (t : Trace) : List (Time × LogRecord) :=
  t.filterMap fun (instant, a) =>
    match a with
    | .notice n => some (instant, n.toRecord)
    | _ => none

/-- The requests sent. -/
def sent (t : Trace) : List String :=
  t.filterMap fun (_, a) =>
    match a with
    | .sent _ request => some request
    | _ => none

/-- The texts of the frames received. -/
def received (t : Trace) : List String :=
  t.filterMap fun (_, a) =>
    match a with
    | .received raw => some raw
    | _ => none

/-- The texts of the QR codes received. -/
def qrCodes (t : Trace) : List Json :=
  t.filterMap fun (_, a) =>
    match a with
    | .qrCode text => some text
    | _ => none

/-- The incidents recorded. -/
def errors (t : Trace) : List Incident :=
  t.filterMap fun (_, a) =>
    match a with
    | .recorded incident => some incident
    | _ => none

/-- The number of incidents counted in a context. -/
def count (t : Trace) (context : ErrorContext) : Nat :=
  t.countP fun (_, a) =>
    match a with
    | .counted c => c == context
    | _ => false

/-- The calls to handlers and error callbacks. -/
def calls (t : Trace) : List (Time × Call) :=
  t.filterMap fun (instant, a) =>
    match a with
    | .called call => some (instant, call)
    | _ => none

/-- The calls to connect: address, open timeout and close timeout. -/
def connects (t : Trace) : List (Time × String × Double × Double) :=
  t.filterMap fun (instant, a) =>
    match a with
    | .connectCalled url openTimeout closeTimeout => some (instant, url, openTimeout, closeTimeout)
    | _ => none

/-- The state after the acts, from `state` before them. -/
def stateFrom (state : ConnectionState) (t : Trace) : ConnectionState :=
  t.foldl (fun s (_, a) =>
    match a with
    | .becomes s' => s'
    | _ => s) state

/-- The state after a run that starts out connecting. -/
def state (t : Trace) : ConnectionState :=
  t.stateFrom .connecting

/-- The numbers of the summary. -/
def stats (t : Trace) : Stats :=
  { sent := t.sent.length
    received := t.received.length
    qrCodes := t.qrCodes.length
    errors := t.errors.length }

/-- The connections after an act. -/
def socketsAfter (sockets : List Socket) (instant : Time) : Act → List Socket
  | .opened script => sockets ++ [{ script }]
  | .sent i request =>
    sockets.modify i fun s => { s with sent := s.sent ++ [(instant, request)] }
  | .left i frame => sockets.modify i fun s => { s with closeFrame := some frame }
  | .closeCalled i => sockets.modify i fun s => { s with closeCalls := s.closeCalls ++ [instant] }
  | .closeCompleted i =>
    sockets.modify i fun s =>
      { s with closedAt := some instant, closeFrame := some s.script.close.frame }
  | .aborted i =>
    sockets.modify i fun s =>
      { s with aborts := s.aborts + 1, transport := s.transport.map fun _ => true }
  | _ => sockets

/-- The connections opened during a run. -/
def sockets (t : Trace) : List Socket :=
  t.foldl (fun sockets (instant, a) => socketsAfter sockets instant a) []

/-- The connection in use with its number, if one was opened. -/
def socket? (t : Trace) : Option (Nat × Socket) :=
  t.sockets.getLast?.map fun s => (t.sockets.length - 1, s)

/-- Whether the client's close of a connection is complete; without a connection it never is. -/
def isClosed (t : Trace) (socket? : Option Nat) : Bool :=
  socket?.any fun socket => (t.sockets[socket]?).any fun s => s.closedAt.isSome

/-- The close frame of the connection in use, if one is known. -/
def closeFrame? (t : Trace) : Option CloseFrame :=
  t.socket?.bind fun s => s.2.closeFrame

end Trace

end BoxProbe
