/-
Module: BoxProbe.Session.Activity
Purpose: What a task does between its waits, and how far it gets by an instant.
Main exports: Activity, Stop, Scene, Progress, Activity.run, Stop.resume, Scene.elapse
-/
import BoxProbe.Session.Callback

/-!
A task is a tree of acts and waits.  While it runs it sees what happened so far, whoever did it: it
can look at the history, a task that waits for the next frame goes on with the other branch as soon
as its connection's close handshake is complete, and the handlers of an event are those that are
registered when their turn comes.

Tasks run on one clock.  While one of them waits the others go on, so running a task takes a
function that lets the others go on up to an instant.  A task that is cancelled is just dropped.
-/

namespace BoxProbe

/-- What a task does. -/
inductive Activity where
  | done
  | act (a : Act) (next : Activity)
  | pause (wait : Wait) (next : Activity)
  /-- Looks at what happened so far. -/
  | look (next : Trace → Activity)
  /-- Calls the handlers of an event, of which the first ones have been called already. -/
  | dispatch (e : Event) (served : Nat) (next : Activity)
  /-- Waits for the next frame: goes on with `arrived` after the wait, or with `closed` as soon as
  the close handshake of a connection is complete, if there is one whose close ends the wait. -/
  | listen (socket : Option Nat) (wait : Wait) (arrived closed : Activity)

namespace Activity

/-- Calls a callback and goes on. -/
def invoke (c : Callback) (arguments : List Argument) (failed : Failure → Notice)
    (next : Activity) : Activity :=
  .act (.called ⟨c.label, arguments⟩) <|
    .pause c.pause <|
      match c.failure with
      | none => next
      | some f => .act (.notice (failed f)) next

/-- Calls callbacks one after another and goes on. -/
def invokeAll (callbacks : List Callback) (arguments : List Argument) (failed : Failure → Notice)
    (next : Activity) : Activity :=
  callbacks.foldr (fun c rest => invoke c arguments failed rest) next

/-- Calls all handlers of an event. -/
def dispatchAll (e : Event) (next : Activity) : Activity :=
  .act (.dispatched e) (.dispatch e 0 next)

end Activity

/-- Where a task has stopped. -/
inductive Stop where
  | finished
  /-- It sleeps, and wakes at an instant or never. -/
  | asleep (wake : Option Time) (next : Activity)
  /-- It waits for a frame that arrives at an instant or never. -/
  | listening (socket : Option Nat) (wake : Option Time) (arrived closed : Activity)

/-- Whether a task has come to its end. -/
def Stop.isFinished : Stop → Bool
  | .finished => true
  | _ => false

/-- What all tasks see: the handlers, the clock, and what happened so far. -/
structure Scene where
  handlers : Handlers := []
  now : Time := 0
  trace : Trace := []

namespace Scene

/-- Does one act. -/
def act (s : Scene) (a : Act) : Scene :=
  { s with trace := s.trace ++ [(s.now, a)] }

/-- Calls a handler. -/
def call (s : Scene) (e : Event) (c : Callback) : Scene :=
  s.act (.called ⟨c.label, e.arguments⟩)

/-- A handler has come to its end. -/
def called (s : Scene) (c : Callback) : Scene :=
  match c.failure with
  | none => s
  | some f => s.act (.notice (.handlerFailed f))

end Scene

/-- How far a task got: what there is to see, the other tasks, and where it stopped. -/
structure Progress (τ : Type) where
  scene : Scene
  others : τ
  stop : Stop

/-- Whether an instant lies before a limit; without a limit it always does. -/
def isBefore (instant : Time) : Option Time → Bool
  | some limit => instant < limit
  | none => true

/-- Lets other tasks go on up to an instant, and moves the clock there. -/
abbrev Elapse (τ : Type) := Time → Scene × τ → Scene × τ

namespace Activity

/-- What is left of an event after the wait of the handler with a number; `next` is what follows the
event. -/
def afterCall (e : Event) (number : Nat) (c : Callback) (next : Activity) : Activity :=
  match c.failure with
  | none => .dispatch e (number + 1) next
  | some f => .act (.notice (.handlerFailed f)) (.dispatch e (number + 1) next)

/-- Calls handlers of an event, the first of which is the one with a number, and goes on with
`finish`; `next` is what follows the event.  How a handler goes about its call may depend on the
calls before. -/
def serve {τ : Type} (elapse : Elapse τ) (limit : Option Time) (e : Event) (next : Activity)
    (finish : Scene × τ → Progress τ) : (number : Nat) → List Callback → Scene × τ → Progress τ
  | _, [], s => finish s
  | number, c :: rest, (scene, others) =>
    let c := c.onCall scene.trace.calls e.arguments
    let scene := scene.call e c
    match c.pause with
    | .none => serve elapse limit e next finish (number + 1) rest (scene.called c, others)
    | .seconds length _ =>
      let wake := scene.now + length
      if isBefore wake limit then
        let (scene, others) := elapse wake (scene, others)
        serve elapse limit e next finish (number + 1) rest (scene.called c, others)
      else ⟨scene, others, .asleep (some wake) (afterCall e number c next)⟩
    | .forever => ⟨scene, others, .asleep none (afterCall e number c next)⟩

/-- Runs a task.  Waits that end before the limit are waited for; all acts up to the next wait are
done whatever the limit. -/
def run {τ : Type} (elapse : Elapse τ) (limit : Option Time) :
    Activity → Scene × τ → Progress τ
  | .done, (scene, others) => ⟨scene, others, .finished⟩
  | .act a next, (scene, others) => run elapse limit next (scene.act a, others)
  | .look next, (scene, others) => run elapse limit (next scene.trace) (scene, others)
  | .dispatch e served next, (scene, others) =>
    serve elapse limit e next (run elapse limit next) served
      ((scene.handlers.callbacks e.kind).drop served) (scene, others)
  | .pause .none next, s => run elapse limit next s
  | .pause (.seconds length _) next, (scene, others) =>
    let wake := scene.now + length
    if isBefore wake limit then run elapse limit next (elapse wake (scene, others))
    else ⟨scene, others, .asleep (some wake) next⟩
  | .pause .forever next, (scene, others) => ⟨scene, others, .asleep none next⟩
  | .listen socket wait arrived closed, (scene, others) =>
    if scene.trace.isClosed socket then run elapse limit closed (scene, others)
    else
      match wait with
      | .none => run elapse limit arrived (scene, others)
      | .seconds length _ =>
        let wake := scene.now + length
        if isBefore wake limit then run elapse limit arrived (elapse wake (scene, others))
        else ⟨scene, others, .listening socket (some wake) arrived closed⟩
      | .forever => ⟨scene, others, .listening socket none arrived closed⟩

end Activity

namespace Stop

/-- Goes on with a stopped task, up to a limit. -/
def resume {τ : Type} (elapse : Elapse τ) (limit : Option Time) (stop : Stop) (s : Scene × τ) :
    Progress τ :=
  let stay : Progress τ := ⟨s.1, s.2, stop⟩
  match stop with
  | .finished | .asleep none _ => stay
  | .asleep (some wake) next =>
    if isBefore wake limit then next.run elapse limit (elapse wake s) else stay
  | .listening socket wake arrived closed =>
    if s.1.trace.isClosed socket then closed.run elapse limit s
    else
      match wake with
      | some wake =>
        if isBefore wake limit then arrived.run elapse limit (elapse wake s) else stay
      | none => stay

end Stop

namespace Scene

/-- Lets a number of stopped tasks go on up to an instant, side by side: while the first of them
waits, those behind it go on. -/
def elapse : (tasks : Nat) → Elapse (List Stop)
  | tasks + 1, instant, (scene, first :: rest) =>
    let progress := first.resume (elapse tasks) (some instant) (scene, rest)
    let (scene, rest) := elapse tasks instant (progress.scene, progress.others)
    (scene, progress.stop :: rest)
  | _, instant, (scene, stops) => ({ scene with now := instant }, stops)

end Scene

end BoxProbe
