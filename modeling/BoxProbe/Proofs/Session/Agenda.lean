/-
Module: BoxProbe.Proofs.Session.Agenda
Purpose: The agenda of a session from opening its connection to greeting it.
Trusted boundary: none
Main exports: Act.isMark, Trace.marks, Trace.nextSend_eq, Hold, Client.agenda, Greeting,
  Client.greeting, Greeting.after?_ahead, Client.heeds_session
-/
import BoxProbe.Proofs.Session.Keeping
import BoxProbe.Proofs.Session.Moments
import BoxProbe.Proofs.Session.Opening

namespace BoxProbe

/-!
What a probe does from opening its connection to greeting it is fixed by the connection: an agenda
of acts, and before each of them a place where the session may be held up.  At every moment of a
run the marks that it has left are a beginning of the agenda, or the whole agenda and marks that
belong to no greeting.
-/

/-! ### Marks -/

namespace Act

/-- The acts from opening a connection to greeting it. -/
def isGreeting : Act → Bool
  | .opened _ | .notice (.sending _ _) | .sent _ _ | .sendFailed _ | .dispatched .open => true
  | _ => false

/-- The acts that are looked at here: those of the greeting, records, events and frames. -/
def isMark : Act → Bool
  | .recorded _ | .dispatched _ | .received _ => true
  | a => a.isGreeting

/-- The acts that say nothing of how far a session has got: those that no watch looks at, calls of
callbacks, and reports of their failures. -/
def isIdle : Act → Bool
  | .called _ | .notice (.handlerFailed _) | .notice (.callbackFailed _) => true
  | a => a.isAside

/-- The acts with which a session that takes frames goes on: it has got one, or its connection has
come to an end. -/
def takesUp : Act → Bool
  | .received _ | .left _ _ | .notice (.failed _) | .notice (.connectionClosed _ _) => true
  | _ => false

theorem isMark_of_isGreeting {a : Act} (h : a.isGreeting = true) : a.isMark = true := by
  cases a <;> first | rfl | exact h

theorem not_isGreeting_of_takesUp {a : Act} (h : a.takesUp = true) : a.isGreeting = false := by
  cases a with
  | notice n => cases n <;> first | rfl | cases h
  | _ => first | rfl | cases h

theorem isIdle_of_isAside {a : Act} (h : a.isAside = true) : a.isIdle = true := by
  cases a with
  | notice n => cases n <;> first | rfl | exact h
  | _ => first | rfl | exact h

theorem not_isIdle_of_takesUp {a : Act} (h : a.takesUp = true) : a.isIdle = false := by
  cases a with
  | notice n => cases n <;> first | rfl | cases h
  | _ => first | rfl | cases h

theorem not_isMark_of_isIdle {a : Act} (h : a.isIdle = true) : a.isMark = false := by
  cases a with
  | notice n => cases n <;> first | rfl | cases h
  | _ => first | rfl | cases h

/-- The request that an act begins to send. -/
def sending? : Act → Option String
  | .notice (.sending _ request) => some request
  | _ => none

/-- The request that an act has sent. -/
def sent? : Act → Option String
  | .sent _ request => some request
  | _ => none

end Act

namespace Trace

/-- The marks of a history. -/
def marks (t : Trace) : List Act :=
  (t.map (·.2)).filter Act.isMark

theorem marks_append (t u : Trace) : Trace.marks (t ++ u) = t.marks ++ u.marks := by
  simp [marks]

/-- The requests that `send` was called with. -/
def sendCalls (t : Trace) : List String :=
  t.filterMap fun x => x.2.sending?

/-- A view that shows nothing but marks shows the same of them. -/
theorem filterMap_marks {α : Type} {f : Act → Option α}
    (marked : ∀ a, a.isMark = false → f a = none) (t : Trace) :
    t.marks.filterMap f = t.filterMap fun x => f x.2 := by
  unfold marks
  rw [List.filterMap_filter, List.filterMap_map]
  congr 1
  funext x
  cases mark : x.2.isMark with
  | true => simp [mark]
  | false => simp [mark, marked x.2 mark]

theorem sendCalls_eq (t : Trace) : t.sendCalls = t.marks.filterMap Act.sending? := by
  refine (filterMap_marks ?_ t).symm
  intro a unmarked
  cases a with
  | notice n => cases n <;> first | rfl | cases unmarked
  | _ => rfl

theorem sent_eq (t : Trace) : t.sent = t.marks.filterMap Act.sent? := by
  have shown : t.sent = t.filterMap fun x => x.2.sent? := rfl
  rw [shown]
  refine (filterMap_marks ?_ t).symm
  intro a unmarked
  cases a <;> first | rfl | cases unmarked

end Trace

/-! ### The connection in use -/

/-- The connections after an act: how each behaves, and how many requests were sent on it. -/
def Act.linesAfter (lines : List (Script × Nat)) : Act → List (Script × Nat)
  | .opened script => lines ++ [(script, 0)]
  | .sent i _ => lines.modify i fun x => (x.1, x.2 + 1)
  | _ => lines

/-- The connections after some acts. -/
def linesOf (acts : List Act) : List (Script × Nat) :=
  acts.foldl Act.linesAfter []

theorem linesOf_append (acts more : List Act) :
    linesOf (acts ++ more) = more.foldl Act.linesAfter (linesOf acts) :=
  List.foldl_append

/-- What is shown of a changed list is what is shown of the list, changed alike. -/
theorem map_modify_of_eq {α β : Type} {f : α → β} {g : α → α} {h : β → β}
    (same : ∀ a, f (g a) = h (f a)) (l : List α) (i : Nat) :
    (l.modify i g).map f = (l.map f).modify i h := by
  apply List.ext_getElem?
  intro j
  simp only [List.getElem?_map, List.getElem?_modify]
  cases l[j]? with
  | none => rfl
  | some a =>
    by_cases here : i = j
    · simp [here, same]
    · simp [here]

/-- A change that is not shown leaves what is shown as it is. -/
theorem map_modify_of_hidden {α β : Type} {f : α → β} {g : α → α} (same : ∀ a, f (g a) = f a)
    (l : List α) (i : Nat) : (l.modify i g).map f = l.map f := by
  rw [map_modify_of_eq (h := id) same]
  apply List.ext_getElem?
  intro j
  simp

namespace Trace

/-- The connections are those that were opened. -/
theorem sockets_map_script (t : Trace) : t.sockets.map (·.script) = t.opened := by
  induction t using List.reverseRecOn with
  | nil => rfl
  | append_singleton t x ih =>
    obtain ⟨instant, a⟩ := x
    rw [sockets_append, opened, List.filterMap_append, ← opened, ← ih]
    cases a with
    | opened script => simp [socketsAfter, Act.opened?]
    | sent i request => simp [socketsAfter, Act.opened?, map_modify_of_hidden]
    | left i frame => simp [socketsAfter, Act.opened?, map_modify_of_hidden]
    | closeCalled i => simp [socketsAfter, Act.opened?, map_modify_of_hidden]
    | closeCompleted i => simp [socketsAfter, Act.opened?, map_modify_of_hidden]
    | aborted i => simp [socketsAfter, Act.opened?, map_modify_of_hidden]
    | _ => simp [socketsAfter, Act.opened?]

theorem lines_socketsAfter (sockets : List Socket) (instant : Time) (a : Act) :
    (socketsAfter sockets instant a).map (fun s => (s.script, s.sent.length)) =
      a.linesAfter (sockets.map fun s => (s.script, s.sent.length)) := by
  cases a with
  | opened script => simp [socketsAfter, Act.linesAfter]
  | sent i request => exact map_modify_of_eq (by simp) _ _
  | left i frame => exact map_modify_of_hidden (by simp) _ _
  | closeCalled i => exact map_modify_of_hidden (by simp) _ _
  | closeCompleted i => exact map_modify_of_hidden (by simp) _ _
  | aborted i => exact map_modify_of_hidden (by simp) _ _
  | _ => rfl

/-- The marks of a history tell its connections, and how many requests were sent on each. -/
theorem lines_eq (t : Trace) :
    t.sockets.map (fun s => (s.script, s.sent.length)) = linesOf t.marks := by
  induction t using List.reverseRecOn with
  | nil => rfl
  | append_singleton t x ih =>
    obtain ⟨instant, a⟩ := x
    rw [sockets_append, lines_socketsAfter, ih, marks_append, linesOf, linesOf, List.foldl_append]
    cases a with
    | notice n => cases n <;> rfl
    | _ => rfl

/-- Where the marks tell of one connection, the next send is made on it. -/
theorem nextSend_eq {t : Trace} {script : Script} {k : Nat} (h : linesOf t.marks = [(script, k)]) :
    Client.nextSend t = (0, script.send k) := by
  rw [← lines_eq] at h
  match sockets : t.sockets with
  | [s] =>
    rw [sockets] at h
    simp only [List.map_cons, List.map_nil, List.cons.injEq, Prod.mk.injEq, and_true] at h
    obtain ⟨rfl, rfl⟩ := h
    simp [Client.nextSend, socket?, sockets]
  | [] => simp [sockets] at h
  | _ :: _ :: _ => simp [sockets] at h

end Trace

/-! ### The agenda -/

/-- Where a session may be held up. -/
inductive Hold where
  | nowhere
  /-- It waits, but not beyond an instant. -/
  | wait (wake : Option Time)
  /-- An error callback for a context sleeps. -/
  | callback (context : ErrorContext)
  /-- A handler of an event sleeps. -/
  | handler (kind : EventKind)

/-- Whether a session that is held up so may rest somewhere. -/
def Hold.Allows (c : Client) : Hold → Rest → Prop
  | .wait wake, .asleep wake' => ∀ t, wake = some t → ∃ t' ≤ t, wake' = some t'
  | .callback context, .asleep _ => ¬ c.registry.AtOnce context
  | .handler kind, .serving kind' _ => kind' = kind ∧ ¬ c.handlers.AtOnce kind
  | _, _ => False

namespace Client

variable (c : Client) (script : Script)

/-- What follows a request that fails: the failure is put on record and told, and the connection is
greeted all the same. -/
def excuse (f : Failure) : List (Hold × Act) :=
  [(.callback .transport, .recorded (c.connectionIncident f .transport)),
    (.nowhere, .dispatched (.error f)),
    (.handler .error, .dispatched .open)]

/-- The agenda from an instant on, with some requests left to be sent on a connection on which
others were sent before. -/
def requestsFrom : (start : Option Time) → (sent : Nat) → List MessageType → List (Hold × Act)
  | _, _, [] => [(.nowhere, .dispatched .open)]
  | start, sent, type :: rest =>
    let request := buildRequest type.code
    let returned := start.bind fun t => (script.send sent).wait.ends t
    (.nowhere, .notice (.sending type request)) ::
      match (script.send sent).failure with
      | none => (.wait returned, .sent 0 request) :: requestsFrom returned (sent + 1) rest
      | some f => (.wait returned, .sendFailed request) :: c.excuse f

/-- What a session has before it that begins to connect. -/
def agenda (now : Time) : List (Hold × Act) :=
  let opened := script.connectWait.ends now
  (.wait opened, .opened script) :: c.requestsFrom script opened 0 probeRequests

end Client

/-- How far a session has got with its agenda. -/
inductive Greeting where
  | ahead (left : List (Hold × Act))
  /-- It has gone on after the greeting, or its connection was refused. -/
  | past

open Classical in
/-- What is left of an agenda after an act: marks come in order. -/
noncomputable def Greeting.step : Greeting → Act → Option Greeting
  | .ahead ((hold, next) :: rest), a =>
    if a.isMark then if a = next then some (.ahead rest) else none
    else some (.ahead ((hold, next) :: rest))
  | .ahead [], a => if a.isIdle then some (.ahead []) else if a.takesUp then some .past else none
  | .past, a => if a.isGreeting then none else some .past

/-- What says nothing of how far a session has got leaves its agenda as it is. -/
theorem Greeting.step_of_isIdle {q : Greeting} {a : Act} (idle : a.isIdle = true) :
    q.step a = some q := by
  have unmarked := Act.not_isMark_of_isIdle idle
  have other : a.isGreeting = false := by
    by_contra greeting
    simp [Act.isMark_of_isGreeting (by simpa using greeting)] at unmarked
  match q with
  | .ahead (_ :: _) => simp [step, unmarked]
  | .ahead [] => simp [step, idle]
  | .past => simp [step, other]

/-- Where a session may rest with its agenda: where it is held up, and after the greeting where a
handler of it sleeps, or where the session listens. -/
def Greeting.Rests (c : Client) : Greeting → Rest → Prop
  | .ahead ((hold, _) :: _), rest => hold.Allows c rest
  | .ahead [], .serving kind _ => kind = .open ∧ ¬ c.handlers.AtOnce .open
  | .ahead [], .listening _ => True
  | .ahead [], _ => False
  | .past, _ => True

/-- The watch over the agenda of a session. -/
noncomputable def Client.greeting (c : Client) (script : Script) (now : Time) : Watch Greeting where
  start := if script.connectFailure.isSome then .past else .ahead (c.agenda script now)
  step q _ a := q.step a
  rests := Greeting.Rests c
  aside _ _ _ aside := Greeting.step_of_isIdle (Act.isIdle_of_isAside aside)

theorem Client.overlooks_greeting (c : Client) (script : Script) (now : Time) (q : Greeting)
    {arguments : List Argument} {failed : Failure → Notice}
    (idle : ∀ f, (Act.notice (failed f)).isIdle = true) :
    (c.greeting script now).Overlooks q arguments failed where
  calls _ _ := Greeting.step_of_isIdle rfl
  failures _ f := Greeting.step_of_isIdle (idle f)

namespace Greeting

variable {c : Client} {script : Script} {now : Time} {t : Trace}

/-- The acts of an agenda. -/
def acts (left : List (Hold × Act)) : List Act :=
  left.map (·.2)

/-- Marks that are left behind come off the agenda. -/
theorem step_ahead {left left' : List (Hold × Act)} {a : Act}
    (h : (ahead left).step a = some (ahead left')) :
    ∃ done, left = done ++ left' ∧ acts done = if a.isMark then [a] else [] := by
  match left with
  | [] =>
    simp only [step] at h
    split at h
    next idle =>
      cases h
      exact ⟨[], rfl, by simp [Act.not_isMark_of_isIdle idle, acts]⟩
    next => split at h <;> cases h
  | (hold, next) :: rest =>
    simp only [step] at h
    split at h
    next marked =>
      split at h
      next same =>
        subst same
        cases h
        exact ⟨[(hold, a)], rfl, by simp [marked, acts]⟩
      next => cases h
    next unmarked =>
      cases h
      exact ⟨[], rfl, by simp [unmarked, acts]⟩

/-- A session goes on after its agenda. -/
theorem step_past {q : Greeting} {a : Act} (h : q.step a = some past) :
    a.isGreeting = false ∧ (q = past ∨ q = ahead [] ∧ a.takesUp = true) := by
  match q with
  | .ahead (_ :: _) =>
    simp only [step] at h
    split at h
    next => split at h <;> cases h
    next => cases h
  | .ahead [] =>
    simp only [step] at h
    split at h
    next => cases h
    next =>
      split at h
      next takes => exact ⟨Act.not_isGreeting_of_takesUp takes, .inr ⟨rfl, takes⟩⟩
      next => cases h
  | .past =>
    simp only [step] at h
    split at h
    next => cases h
    next other => exact ⟨by simpa using other, .inl rfl⟩

theorem step_past_ahead {left : List (Hold × Act)} {a : Act} : past.step a ≠ some (ahead left) := by
  simp only [step]
  split <;> simp

theorem acts_append (left left' : List (Hold × Act)) :
    acts (left ++ left') = acts left ++ acts left' :=
  List.map_append

/-- What has come off an agenda are the marks. -/
theorem watch_ahead {left left' : List (Hold × Act)} (t : Trace)
    (h : (c.greeting script now).watch (ahead left) t = some (ahead left')) :
    ∃ done, left = done ++ left' ∧ acts done = t.marks := by
  apply Watch.watch_induct (P := fun t q => ∀ left', q = ahead left' →
    ∃ done, left = done ++ left' ∧ acts done = t.marks) _ _ t h left' rfl
  · rintro left' same
    cases same
    exact ⟨[], rfl, rfl⟩
  · rintro t q x _ - earlier step left' rfl
    cases q with
    | past => exact absurd step step_past_ahead
    | ahead between =>
      obtain ⟨u, rfl, marks⟩ := earlier between rfl
      obtain ⟨w, rfl, marks'⟩ := step_ahead step
      refine ⟨u ++ w, by rw [List.append_assoc], ?_⟩
      rw [acts_append, marks, marks', Trace.marks_append]
      cases marked : x.2.isMark <;> simp [Trace.marks, marked]

/-- A session that has gone on after its agenda did so with an act of its own, and greets no
more. -/
theorem watch_past {left : List (Hold × Act)} (t : Trace)
    (h : (c.greeting script now).watch (ahead left) t = some past) :
    ∃ u x w, t = u ++ x :: w ∧ (c.greeting script now).watch (ahead left) u = some (ahead []) ∧
      x.2.takesUp = true ∧ ∀ y ∈ x :: w, y.2.isGreeting = false := by
  apply Watch.watch_induct (P := fun (t : Trace) q => q = past → ∃ (u : Trace) (x : Time × Act)
    (w : Trace), t = u ++ x :: w ∧
      (c.greeting script now).watch (ahead left) u = some (ahead []) ∧ x.2.takesUp = true ∧
        ∀ y ∈ x :: w, y.2.isGreeting = false) _ _ t h rfl
  · intro same
    cases same
  · rintro t q x _ before earlier step rfl
    obtain ⟨other, rfl | ⟨rfl, own⟩⟩ := step_past step
    · obtain ⟨u, y, w, rfl, first, own, all⟩ := earlier rfl
      refine ⟨u, y, w ++ [x], List.append_assoc _ _ _, first, own, ?_⟩
      rw [← List.cons_append, List.forall_mem_append, List.forall_mem_singleton]
      exact ⟨all, other⟩
    · exact ⟨t, x, [], rfl, before, own, List.forall_mem_singleton.mpr other⟩

/-- A session that is past its agenda from its start greets nothing. -/
theorem watch_past_past {q : Greeting} (t : Trace)
    (h : (c.greeting script now).watch past t = some q) :
    q = past ∧ ∀ y ∈ t, y.2.isGreeting = false := by
  apply Watch.watch_induct (P := fun t q => q = past ∧ ∀ y ∈ t, y.2.isGreeting = false) _ _ t h
  · exact ⟨rfl, List.forall_mem_nil _⟩
  · rintro t _ x q' - ⟨rfl, all⟩ step
    cases q' with
    | ahead left => exact absurd step step_past_ahead
    | past =>
      obtain ⟨other, -⟩ := step_past (q := past) step
      rw [List.forall_mem_append, List.forall_mem_singleton]
      exact ⟨rfl, all, other⟩

/-- A session with an agenda ahead has connected, and its marks are what came off the agenda. -/
theorem after?_ahead {left : List (Hold × Act)}
    (h : (c.greeting script now).after? t = some (ahead left)) :
    script.connectFailure = none ∧ ∃ done, c.agenda script now = done ++ left ∧
      acts done = t.marks := by
  cases failing : script.connectFailure with
  | some f =>
    have start : (c.greeting script now).start = past := by simp [Client.greeting, failing]
    rw [Watch.after?, start] at h
    have never := (watch_past_past t h).1
    cases never
  | none =>
    have start : (c.greeting script now).start = ahead (c.agenda script now) := by
      simp [Client.greeting, failing]
    rw [Watch.after?, start] at h
    exact ⟨rfl, watch_ahead t h⟩

end Greeting

/-! ### A session keeps to its agenda -/

namespace Client

open Activity (Keeps heeds_dispatchAll)
open Greeting (acts after?_ahead)

variable (c : Client) (script : Script) (now : Time)

/-- After the greeting all routine is permitted. -/
theorem permits_greeting : (c.greeting script now).Permits c.registry c.handlers .past where
  free _ := trivial
  routine _ a routine := by
    have other : a.isGreeting = false := by
      cases a with
      | notice n => cases n <;> first | rfl | cases routine
      | dispatched e => cases e <;> first | rfl | cases routine
      | _ => first | rfl | cases routine
    simp [greeting, Greeting.step, other]
  report i next rest := by
    intro t
    apply Registry.heeds_handle (s := .past) rfl rfl
      (c.overlooks_greeting script now _ fun _ => rfl)
    · exact fun _ _ => trivial
    · intro t' _
      exact ⟨.past, rfl, rest t'⟩

/-- A session that takes frames after the greeting is past its agenda. -/
theorem heeds_beyond {a : Act} {next : Activity} (takes : a.takesUp = true)
    (keeps : (Activity.act a next).Keeps (c.greeting script now) c.handlers .past) (t : Time) :
    (Activity.act a next).Heeds (c.greeting script now) c.handlers t (.ahead []) := by
  obtain ⟨q, step, rest⟩ := keeps t
  have onward : Greeting.past.step a = some .past := by
    simp [Greeting.step, Act.not_isGreeting_of_takesUp takes]
  obtain rfl : Greeting.past = q := Option.some.inj (onward.symm.trans step)
  refine ⟨.past, ?_, rest⟩
  simp [greeting, Greeting.step, takes, Act.not_isIdle_of_takesUp takes]

theorem heeds_ending (t : Time) :
    ending.Heeds (c.greeting script now) c.handlers t (.ahead []) := by
  apply Activity.heeds_aside rfl
  intro seen _
  exact c.heeds_beyond script now rfl (keeps_onClose (c.permits_greeting script now) _ _) t

/-- A session that has greeted its connection takes frames. -/
theorem heeds_receive (t : Time) :
    c.receive.Heeds (c.greeting script now) c.handlers t (.ahead []) := by
  have permits := c.permits_greeting script now
  have ends := c.heeds_ending script now
  intro seen _
  simp only
  split
  next number s _ =>
    cases s.script.server with
    | nil => exact ⟨trivial, by simp [Wait.ends], fun t' _ _ => ends t'⟩
    | cons step rest =>
      refine ⟨trivial, ?_, fun t' _ _ => ends t'⟩
      intro t' _
      have routine {a : Act} {next : Activity} (takes : a.takesUp = true) :
          (Activity.act a next).Keeps (c.greeting script now) c.handlers .past →
          ∀ t, (Activity.act a next).Heeds (c.greeting script now) c.handlers t (.ahead []) :=
        c.heeds_beyond script now takes
      cases step.act with
      | frame f =>
        exact routine rfl (keeps_onMessage permits f (keeps_receiveFrom permits _ rest)) t'
      | fail f left =>
        have failed := keeps_onError permits f (receiveContext f) (keeps_ending permits)
        cases left with
        | none => exact Activity.heeds_aside rfl (routine rfl failed t')
        | some frame => exact routine rfl (permits.act rfl (permits.act rfl failed)) t'
      | close frame => exact routine rfl (permits.act rfl (keeps_ending permits)) t'
  next => exact ends t

/-- The next mark of an agenda comes off it. -/
theorem step_ahead {hold : Hold} {a : Act} {left : List (Hold × Act)} (marked : a.isMark = true)
    (t : Time) :
    (c.greeting script now).step (.ahead ((hold, a) :: left)) t a = some (.ahead left) := by
  simp [greeting, Greeting.step, marked]

/-- A session that is about to send does so on its connection, behind the requests sent before. -/
theorem nextSend_ahead {seen : Trace} {done left : List (Hold × Act)} {sent : Nat} {hold : Hold}
    {type : MessageType} {request : String}
    (whole : c.agenda script now = done ++ (hold, .notice (.sending type request)) :: left)
    (lines : linesOf (acts done) = [(script, sent)])
    (after : (c.greeting script now).after? seen = some (.ahead left)) :
    nextSend seen = (0, script.send sent) := by
  obtain ⟨-, u, same, marks⟩ := after?_ahead after
  have behind : u = done ++ [(hold, .notice (.sending type request))] := by
    refine (List.append_cancel_right (?_ : _ ++ left = _ ++ left))
    rw [← same, whole]
    simp
  apply Trace.nextSend_eq
  rw [← marks, behind, Greeting.acts_append, linesOf_append, lines]
  rfl

/-- One request is sent, and what follows depends on how that ends. -/
theorem heeds_send {type : MessageType} {types : List MessageType} {next : Activity}
    {done left : List (Hold × Act)} {sent : Nat} {hold : Hold} {t : Time}
    (whole : c.agenda script now =
      done ++ (hold, .notice (.sending type (buildRequest type.code))) :: left)
    (lines : linesOf (acts done) = [(script, sent)])
    (onward : (Activity.pause (script.send sent).wait <|
      match (script.send sent).failure with
      | none => .act (.sent 0 (buildRequest type.code)) (c.sendAll types next)
      | some f => .act (.sendFailed (buildRequest type.code)) (c.onError f .transport next)).Heeds
        (c.greeting script now) c.handlers t (.ahead left)) :
    (c.sendAll (type :: types) next).Heeds (c.greeting script now) c.handlers t
      (.ahead ((hold, .notice (.sending type (buildRequest type.code))) :: left)) := by
  refine ⟨.ahead left, c.step_ahead script now rfl t, ?_⟩
  intro seen after
  have sends := c.nextSend_ahead script now whole lines after
  simp only [sends]
  exact onward

/-- The connection is greeted, and frames are taken. -/
theorem heeds_greeted (hold : Hold) (t : Time) : (Activity.dispatchAll .open c.receive).Heeds
    (c.greeting script now) c.handlers t (.ahead [(hold, .dispatched .open)]) := by
  apply heeds_dispatchAll (r := .ahead []) (c.step_ahead script now rfl t)
    (c.overlooks_greeting script now _ fun _ => rfl)
  · intro late wake
    exact ⟨rfl, late⟩
  · intro t' _
    exact c.heeds_receive script now t'

/-- A request that fails is excused before the connection is greeted. -/
theorem heeds_excuse (f : Failure) (t : Time) :
    (c.onError f .transport (.dispatchAll .open c.receive)).Heeds (c.greeting script now)
      c.handlers t (.ahead (c.excuse f)) := by
  refine ⟨.ahead (c.excuse f), rfl, ?_⟩
  apply Registry.heeds_handle (s := .ahead (c.excuse f)) rfl rfl
    (c.overlooks_greeting script now _ fun _ => rfl)
  · intro late wake
    exact late
  · intro t' _
    refine ⟨_, c.step_ahead script now rfl t', ?_⟩
    apply heeds_dispatchAll (c.step_ahead script now rfl t')
      (c.overlooks_greeting script now _ fun _ => rfl)
    · intro late wake
      exact ⟨rfl, late⟩
    · intro t'' _
      exact c.heeds_greeted script now _ t''

/-- Requests are sent one after another, until one fails, and then the connection is greeted. -/
theorem heeds_sendAll (types : List MessageType) : ∀ (t : Time) (sent : Nat)
    (done : List (Hold × Act)),
    c.agenda script now = done ++ c.requestsFrom script (some t) sent types →
      linesOf (acts done) = [(script, sent)] →
        (c.sendAll types (.dispatchAll .open c.receive)).Heeds (c.greeting script now) c.handlers t
          (.ahead (c.requestsFrom script (some t) sent types)) := by
  induction types with
  | nil =>
    intro t sent done _ _
    exact c.heeds_greeted script now .nowhere t
  | cons type rest ih =>
    intro t sent done whole lines
    have waits : ((some t).bind fun t => (script.send sent).wait.ends t) =
        (script.send sent).wait.ends t := rfl
    have inTime (t' : Time) (soon : (script.send sent).wait.ends t = some t') :
        ∃ t'' ≤ t', (script.send sent).wait.ends t = some t'' :=
      ⟨t', le_rfl, soon⟩
    cases failing : (script.send sent).failure with
    | none =>
      simp only [requestsFrom, failing, waits] at whole ⊢
      apply c.heeds_send script now whole lines
      refine ⟨fun _ => inTime, ?_⟩
      intro t' ends
      simp only [failing, ends] at whole ⊢
      refine ⟨_, c.step_ahead script now rfl t', ?_⟩
      rw [List.append_cons, List.append_cons] at whole
      apply ih t' (sent + 1) _ whole
      rw [Greeting.acts_append, Greeting.acts_append, linesOf_append, linesOf_append, lines]
      rfl
    | some f =>
      simp only [requestsFrom, failing, waits] at whole ⊢
      apply c.heeds_send script now whole lines
      refine ⟨fun _ => inTime, ?_⟩
      intro t' ends
      simp only [failing]
      exact ⟨_, c.step_ahead script now rfl t', c.heeds_excuse script now f t'⟩

/-- A session keeps to its agenda, on every connection and with all handlers and callbacks. -/
theorem heeds_session (url : String) :
    (c.session url script).Heeds (c.greeting script now) c.handlers now
      (c.greeting script now).start := by
  cases failing : script.connectFailure with
  | some f =>
    have start : (c.greeting script now).start = .past := by simp [greeting, failing]
    have permits := c.permits_greeting script now
    have turnedAway := keeps_onError permits f .connection (keeps_onClose permits none none)
    have keeps : (c.session url script).Keeps (c.greeting script now) c.handlers .past := by
      apply permits.act rfl
      apply Keeps.act fun _ => rfl
      apply Keeps.pause permits.free
      simp only [failing]
      exact permits.act rfl turnedAway
    rw [start]
    exact keeps now
  | none =>
    have start : (c.greeting script now).start = .ahead (c.agenda script now) := by
      simp [greeting, failing]
    rw [start]
    refine ⟨_, rfl, _, rfl, fun _ t soon => ⟨t, le_rfl, soon⟩, ?_⟩
    intro t ends
    simp only [failing]
    have whole : c.agenda script now = [(.wait (some t), .opened script)] ++
        c.requestsFrom script (some t) 0 probeRequests := by
      simp only [agenda, ends]
      rfl
    have sends := c.heeds_sendAll script now probeRequests t 0 _ whole rfl
    rw [ends]
    refine ⟨_, c.step_ahead script now rfl t, ?_⟩
    apply Activity.heeds_aside rfl
    exact ⟨_, rfl, sends⟩

end Client

end BoxProbe
