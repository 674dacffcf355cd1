/-
Module: BoxProbe.Session.Script
Purpose: How a connection behaves: connecting, sending, the frames it delivers, and closing.
Main exports: SendOutcome, ServerStep, CloseBehavior, Script
-/
import BoxProbe.Session.Time
import BoxProbe.Failure.Basic

/-!
A script fixes everything that a connection does to its client.  Connecting takes a time and may
fail; every send takes a time and may fail; frames arrive after waits that start when the client
asks for them; and the client's own close takes a time, may never end, and may fail.  Once the close
is complete no further frame is waited for, but for those steps of the server that outlast it.
-/

namespace BoxProbe

/-- What a send does. -/
structure SendOutcome where
  wait : Wait := .none
  failure : Option Failure := none

/-- A send without a connection: it fails. -/
def SendOutcome.nowhere : SendOutcome :=
  { failure := some (.ofMessage .attribute "'NoneType' object has no attribute 'send'") }

/-- What the server does when the client has asked for the next frame. -/
inductive ServerAct where
  | frame (f : Frame)
  /-- The connection fails, with the close code and reason it leaves behind. -/
  | fail (failure : Failure) (close : Option CloseFrame)
  /-- The server closes. -/
  | close (frame : CloseFrame)

/-- One step of the server, after a wait. -/
structure ServerStep where
  after : Wait := .none
  act : ServerAct
  /-- Whether the step is taken also when the client's close is complete: its frame had arrived
  already, or the iteration over the frames hangs or goes on nevertheless. -/
  outlasts : Bool := false

/-- What the client's own close does. -/
structure CloseBehavior where
  wait : Wait := .none
  failure : Option Failure := none
  frame : CloseFrame := ⟨1000, ""⟩

/-- The behavior of a connection. -/
structure Script where
  connectWait : Wait := .none
  connectFailure : Option Failure := none
  /-- What a send does, by the number of sends that succeeded before it. -/
  send : Nat → SendOutcome := fun _ => {}
  server : List ServerStep := []
  close : CloseBehavior := {}
  /-- Whether the transport, if there is one, is closing from the start. -/
  transport : Option Bool := none

namespace Script

/-- Sends succeed until `limit` of them did, and fail after that. -/
def failAfter (limit : Nat) (failure : Failure) (succeeded : Nat) : SendOutcome :=
  if succeeded < limit then {} else { failure := some failure }

end Script

end BoxProbe
