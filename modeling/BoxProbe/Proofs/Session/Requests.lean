/-
Module: BoxProbe.Proofs.Session.Requests
Purpose: The requests of a probe: in order, each after the one before it, whatever becomes of them.
Trusted boundary: none
Main exports: Outcomes, Script.returned, Client.agenda_outcomes, Client.agenda_sendFailed, Excused,
  Probe.requests_in_order
-/
import BoxProbe.Proofs.Session.Agenda

namespace BoxProbe

/-!
What an agenda says of the requests is read off its beginnings: at every moment all requests that
`send` was called with have returned, but for the last one, which may have failed or may still be on
its way.  Since a session keeps to its agenda this holds of every run.
-/

/-! ### Views -/

namespace Act

/-- The request that an act could not send. -/
def sendFailed? : Act → Option String
  | .sendFailed request => some request
  | _ => none

/-- The frame that an act takes. -/
def received? : Act → Option String
  | .received raw => some raw
  | _ => none

/-- The kind of the event that an act tells. -/
def told? : Act → Option EventKind
  | .dispatched e => some e.kind
  | _ => none

end Act

namespace Trace

/-- The requests whose sending failed. -/
def sendFailures (t : Trace) : List String :=
  t.filterMap fun x => x.2.sendFailed?

/-- The kinds of the events that were told. -/
def told (t : Trace) : List EventKind :=
  t.filterMap fun x => x.2.told?

theorem filterMap_of_not_isGreeting {α : Type} {f : Act → Option α}
    (greets : ∀ a, a.isGreeting = false → f a = none) {t : Trace}
    (none : ∀ y ∈ t, y.2.isGreeting = false) : (t.filterMap fun x => f x.2) = [] :=
  List.filterMap_eq_nil_iff.mpr fun y inside => greets y.2 (none y inside)

/-- What is shown of the greeting is shown of the marks. -/
theorem filterMap_of_greets {α : Type} {f : Act → Option α}
    (greets : ∀ a, a.isGreeting = false → f a = none) (t : Trace) :
    (t.filterMap fun x => f x.2) = t.marks.filterMap f := by
  refine (filterMap_marks ?_ t).symm
  intro a unmarked
  apply greets
  by_contra greeting
  simp [Act.isMark_of_isGreeting (by simpa using greeting)] at unmarked

theorem received_eq (t : Trace) : t.received = t.marks.filterMap Act.received? := by
  have shown : t.received = t.filterMap fun x => x.2.received? := rfl
  rw [shown]
  refine (filterMap_marks ?_ t).symm
  intro a unmarked
  cases a <;> first | rfl | cases unmarked

end Trace

namespace Act

theorem sending?_of_not_isGreeting (a : Act) (h : a.isGreeting = false) : a.sending? = none := by
  cases a with
  | notice n => cases n <;> first | rfl | cases h
  | _ => rfl

theorem sent?_of_not_isGreeting (a : Act) (h : a.isGreeting = false) : a.sent? = none := by
  cases a <;> first | rfl | cases h

theorem sendFailed?_of_not_isGreeting (a : Act) (h : a.isGreeting = false) :
    a.sendFailed? = none := by
  cases a <;> first | rfl | cases h

theorem opened?_of_not_isGreeting (a : Act) (h : a.isGreeting = false) : a.opened? = none := by
  cases a <;> first | rfl | cases h

end Act

/-! ### What becomes of requests -/

/-- What became of the requests that `send` was called with on a connection, behind a number of
others: they were sent, but for the last one, which may have failed or may be pending. -/
structure Outcomes (script : Script) (before : Nat)
    (requests calls sent failed pending : List String) : Prop where
  called : calls <+: requests
  split : calls = sent ++ failed ++ pending
  open_le : (failed ++ pending).length ≤ 1
  returned : ∀ k < sent.length, (script.send (before + k)).failure = none
  raised : failed ≠ [] → (script.send (before + sent.length)).failure ≠ none

namespace Outcomes

variable {script : Script} {before : Nat} {requests calls sent failed pending : List String}
  {request : String}

theorem nothing (script : Script) (before : Nat) (requests : List String) :
    Outcomes script before requests [] [] [] [] :=
  ⟨List.nil_prefix, rfl, by simp, by simp, by simp⟩

theorem pends (script : Script) (before : Nat) (request : String) (requests : List String) :
    Outcomes script before (request :: requests) [request] [] [] [request] :=
  ⟨by simp, rfl, by simp, by simp, by simp⟩

theorem fails (h : (script.send before).failure ≠ none) (request : String)
    (requests : List String) :
    Outcomes script before (request :: requests) [request] [] [request] [] :=
  ⟨by simp, rfl, by simp, by simp, fun _ => h⟩

theorem cons (h : Outcomes script (before + 1) requests calls sent failed pending)
    (returned : (script.send before).failure = none) :
    Outcomes script before (request :: requests) (request :: calls) (request :: sent) failed
      pending where
  called := (List.prefix_cons_inj request).mpr h.called
  split := by simp [h.split]
  open_le := h.open_le
  returned k inside := by
    cases k with
    | zero => exact returned
    | succ k =>
      rw [Nat.add_comm k 1, ← Nat.add_assoc]
      exact h.returned k (by simpa using inside)
  raised some := by
    rw [List.length_cons, Nat.add_comm sent.length 1, ← Nat.add_assoc]
    exact h.raised some

/-- The requests are sent in order. -/
theorem sent_prefix (h : Outcomes script before requests calls sent failed pending) :
    sent <+: requests := by
  apply List.IsPrefix.trans _ h.called
  rw [h.split, List.append_assoc]
  exact List.prefix_append sent _

theorem sent_eq (h : Outcomes script before requests calls sent failed pending)
    (all : requests.length ≤ sent.length) : sent = requests :=
  h.sent_prefix.eq_of_length (le_antisymm h.sent_prefix.length_le all)

/-- `send` is called again only if it has returned each time before. -/
theorem of_next {pending' : List String}
    (h : Outcomes script before requests calls sent failed pending)
    (next : Outcomes script before requests (calls ++ [request]) sent failed pending') :
    calls = sent ∧ failed = [] := by
  have lengths := congrArg List.length next.split
  have soon := next.open_le
  have now := congrArg List.length h.split
  simp only [List.length_append, List.length_cons, List.length_nil] at lengths soon now
  have none : failed = [] := List.length_eq_zero_iff.mp (by omega)
  have none' : pending = [] := List.length_eq_zero_iff.mp (by omega)
  have split := h.split
  simp only [none, none', List.append_nil] at split
  exact ⟨split, none⟩

end Outcomes

namespace Client

open Greeting (acts)

variable (c : Client) (script : Script)

/-- Nothing of the requests follows once one has failed. -/
theorem excuse_views {f : Failure} {done left : List (Hold × Act)} (h : c.excuse f = done ++ left) :
    (acts done).filterMap Act.sending? = [] ∧ (acts done).filterMap Act.sent? = [] ∧
      (acts done).filterMap Act.sendFailed? = [] := by
  have part : done <+: c.excuse f := ⟨left, h.symm⟩
  refine ⟨?_, ?_, ?_⟩ <;>
    · apply List.filterMap_eq_nil_iff.mpr
      intro a inside
      obtain ⟨x, member, rfl⟩ := List.mem_map.mp inside
      have known := part.subset member
      simp only [excuse, List.mem_cons, List.not_mem_nil, or_false] at known
      rcases known with rfl | rfl | rfl <;> rfl

/-- At every point of an agenda all requests have returned, but for the last one.  One that is
pending is being waited for. -/
theorem requestsFrom_outcomes (types : List MessageType) : ∀ (start : Option Time) (sent : Nat)
    (done left : List (Hold × Act)), c.requestsFrom script start sent types = done ++ left →
      ∃ pending, Outcomes script sent (types.map fun type => buildRequest type.code)
          ((acts done).filterMap Act.sending?) ((acts done).filterMap Act.sent?)
          ((acts done).filterMap Act.sendFailed?) pending ∧
        (pending ≠ [] → ∃ wake next rest, left = (.wait wake, next) :: rest) := by
  induction types with
  | nil =>
    intro start sent done left whole
    refine ⟨[], ?_, fun some => absurd rfl some⟩
    cases done with
    | nil => exact .nothing script sent _
    | cons x done =>
      cases done with
      | nil =>
        obtain ⟨rfl, -⟩ := List.cons.inj whole
        exact .nothing script sent _
      | cons y done => simp [requestsFrom] at whole
  | cons type types ih =>
    intro start sent done left whole
    rw [List.map_cons]
    cases done with
    | nil => exact ⟨[], .nothing script sent _, fun some => absurd rfl some⟩
    | cons x done =>
      cases done with
      | nil =>
        cases failing : (script.send sent).failure <;>
          · simp only [requestsFrom, failing] at whole
            obtain ⟨rfl, rest⟩ := List.cons.inj whole
            exact ⟨_, .pends script sent _ _, fun _ => ⟨_, _, _, rest.symm⟩⟩
      | cons y done =>
        cases failing : (script.send sent).failure with
        | none =>
          simp only [requestsFrom, failing, List.cons_append, List.cons.injEq] at whole
          obtain ⟨rfl, rfl, rest⟩ := whole
          obtain ⟨pending, outcomes, waits⟩ := ih _ (sent + 1) done left rest
          exact ⟨pending, outcomes.cons failing, waits⟩
        | some f =>
          simp only [requestsFrom, failing, List.cons_append, List.cons.injEq] at whole
          obtain ⟨rfl, rfl, rest⟩ := whole
          obtain ⟨noCall, noneSent, noneFailed⟩ := c.excuse_views rest
          let request := buildRequest type.code
          refine ⟨[], ?_, fun some => absurd rfl some⟩
          change Outcomes script sent _ (request :: (acts done).filterMap Act.sending?)
            ((acts done).filterMap Act.sent?) (request :: (acts done).filterMap Act.sendFailed?) []
          rw [noCall, noneSent, noneFailed]
          exact .fails (by simp [failing]) _ _

/-- A request fails as its connection has it, and its failure is excused. -/
theorem requestsFrom_sendFailed {hold : Hold} {request : String} {left : List (Hold × Act)}
    (types : List MessageType) : ∀ (start : Option Time) (sent : Nat) (done : List (Hold × Act)),
    c.requestsFrom script start sent types = done ++ (hold, .sendFailed request) :: left →
      ∃ f, (script.send (sent + ((acts done).filterMap Act.sent?).length)).failure = some f ∧
        left = c.excuse f := by
  induction types with
  | nil =>
    intro start sent done whole
    cases done with
    | nil => cases whole
    | cons x done => simp [requestsFrom] at whole
  | cons type types ih =>
    intro start sent done whole
    cases done with
    | nil => cases whole
    | cons x done =>
      cases done with
      | nil =>
        cases failing : (script.send sent).failure with
        | none => simp [requestsFrom, failing] at whole
        | some f =>
          simp only [requestsFrom, failing, List.cons_append, List.cons.injEq,
            List.nil_append] at whole
          obtain ⟨rfl, -, rest⟩ := whole
          exact ⟨f, failing, rest.symm⟩
      | cons y done =>
        cases failing : (script.send sent).failure with
        | none =>
          simp only [requestsFrom, failing, List.cons_append, List.cons.injEq] at whole
          obtain ⟨rfl, rfl, rest⟩ := whole
          obtain ⟨f, raised, same⟩ := ih _ (sent + 1) done rest
          refine ⟨f, ?_, same⟩
          rw [Nat.add_right_comm] at raised
          exact raised
        | some f =>
          simp only [requestsFrom, failing, List.cons_append, List.cons.injEq] at whole
          obtain ⟨-, -, rest⟩ := whole
          have inside : (hold, .sendFailed request) ∈ c.excuse f := by simp [rest]
          simp [excuse] at inside

/-- An agenda opens one connection at its start, and holds no frames. -/
theorem requestsFrom_quiet (types : List MessageType) : ∀ (start : Option Time) (sent : Nat),
    ∀ x ∈ c.requestsFrom script start sent types, x.2.opened? = none ∧ x.2.received? = none := by
  induction types with
  | nil => simp [requestsFrom, Act.opened?, Act.received?]
  | cons type types ih =>
    intro start sent x inside
    cases failing : (script.send sent).failure with
    | none =>
      simp only [requestsFrom, failing, List.mem_cons] at inside
      rcases inside with rfl | rfl | later
      · exact ⟨rfl, rfl⟩
      · exact ⟨rfl, rfl⟩
      · exact ih _ _ x later
    | some f =>
      simp only [requestsFrom, failing, excuse, List.mem_cons, List.not_mem_nil, or_false] at inside
      rcases inside with rfl | rfl | rfl | rfl | rfl <;> exact ⟨rfl, rfl⟩

end Client

/-! ### Requests that return in time -/

/-- The instant at which connecting and a number of sends have returned, if none of them fails. -/
def Script.returned (script : Script) (now : Time) : (sends : Nat) → Option Time
  | 0 => if script.connectFailure.isSome then none else script.connectWait.ends now
  | sends + 1 =>
    if (script.send sends).failure.isSome then none
    else (script.returned now sends).bind fun t => (script.send sends).wait.ends t

namespace Script

variable {script : Script} {now t : Time} {sends : Nat}

theorem returned_succ (h : script.returned now (sends + 1) = some t) :
    (script.send sends).failure = none ∧
      ∃ before ≤ t, script.returned now sends = some before ∧
        (script.send sends).wait.ends before = some t := by
  simp only [returned] at h
  split at h
  next => cases h
  next returns =>
    obtain ⟨before, first, last⟩ := Option.bind_eq_some_iff.mp h
    exact ⟨by simpa using returns, before, Wait.le_of_ends last, first, last⟩

theorem returned_zero (h : script.returned now 0 = some t) :
    script.connectFailure = none ∧ script.connectWait.ends now = some t := by
  simp only [returned] at h
  split at h
  next => cases h
  next connects => exact ⟨by simpa using connects, h⟩

/-- What has returned in the end has returned step by step. -/
theorem returned_of_add (more : Nat) : ∀ {t : Time}, script.returned now (sends + more) = some t →
    ∃ before ≤ t, script.returned now sends = some before := by
  induction more with
  | zero =>
    intro t h
    exact ⟨t, le_rfl, h⟩
  | succ more ih =>
    intro t h
    obtain ⟨-, last, soon, first, -⟩ := returned_succ h
    obtain ⟨before, sooner, found⟩ := ih first
    exact ⟨before, sooner.trans soon, found⟩

end Script

namespace Client

open Greeting (acts)

variable (c : Client) (script : Script) {now t : Time}

/-- An agenda holds nothing up beyond the instant at which a number of sends have returned, until it
has come to as many requests. -/
theorem requestsFrom_returned {sends : Nat} (types : List MessageType) :
    ∀ (sent : Nat) (done left : List (Hold × Act)), sends ≤ sent + types.length →
      script.returned now sends = some t →
        c.requestsFrom script (script.returned now sent) sent types = done ++ left →
          sends ≤ sent + ((acts done).filterMap Act.sent?).length ∨
            ∃ hold next rest, left = (hold, next) :: rest ∧
              (hold = .nowhere ∨ ∃ w ≤ t, hold = .wait (some w)) := by
  induction types with
  | nil =>
    intro sent done left few _ _
    exact .inl (few.trans (Nat.add_le_add_left (Nat.zero_le _) sent))
  | cons type types ih =>
    intro sent done left few all whole
    by_cases fewer : sends ≤ sent
    · exact .inl (fewer.trans (Nat.le_add_right sent _))
    obtain ⟨more, rfl⟩ := Nat.exists_eq_add_of_le (Nat.succ_le_of_lt (not_le.mp fewer))
    obtain ⟨w, soon, next⟩ := Script.returned_of_add more all
    obtain ⟨returns, before, -, first, last⟩ := Script.returned_succ next
    have start : (script.returned now sent).bind (fun t => (script.send sent).wait.ends t) =
        script.returned now (sent + 1) := by
      rw [first, next]
      exact last
    simp only [requestsFrom, returns, start] at whole
    cases done with
    | nil => exact .inr ⟨_, _, _, whole.symm, .inl rfl⟩
    | cons x done =>
      cases done with
      | nil =>
        obtain ⟨rfl, rest⟩ := List.cons.inj whole
        exact .inr ⟨_, _, _, rest.symm, .inr ⟨w, soon, by rw [next]⟩⟩
      | cons y done =>
        simp only [List.cons_append, List.cons.injEq] at whole
        obtain ⟨rfl, rfl, rest⟩ := whole
        rw [List.length_cons, Nat.add_comm types.length, ← Nat.add_assoc] at few
        refine (ih (sent + 1) done left few all rest).imp_left ?_
        intro enough
        change _ ≤ sent + (((acts done).filterMap Act.sent?).length + 1)
        omega

end Client

/-! ### What a session has done of its agenda -/

namespace Greeting

variable {c : Client} {script : Script} {now : Time} {t : Trace} {q : Greeting}

/-- Whatever is shown of the greeting is shown of a beginning of the agenda: of what has come off
it, of all of it, or of nothing where the connection was refused. -/
theorem shows (h : (c.greeting script now).after? t = some q) :
    ∃ done left, c.agenda script now = done ++ left ∧
      (∀ {α : Type} {f : Act → Option α}, (∀ a, a.isGreeting = false → f a = none) →
        (t.filterMap fun x => f x.2) = (acts done).filterMap f) ∧
      (q = ahead left ∨ left = [] ∨ done = [] ∧ script.connectFailure ≠ none) := by
  cases q with
  | ahead left =>
    obtain ⟨-, done, whole, marks⟩ := after?_ahead h
    refine ⟨done, left, whole, ?_, .inl rfl⟩
    intro α f greets
    rw [marks]
    exact Trace.filterMap_of_greets greets t
  | past =>
    cases connects : script.connectFailure with
    | some f =>
      have start : (c.greeting script now).start = past := by simp [Client.greeting, connects]
      rw [Watch.after?, start] at h
      obtain ⟨-, none⟩ := watch_past_past t h
      refine ⟨[], c.agenda script now, rfl, ?_, .inr (.inr ⟨rfl, by simp⟩)⟩
      intro α f greets
      exact Trace.filterMap_of_not_isGreeting greets none
    | none =>
      have start : (c.greeting script now).start = ahead (c.agenda script now) := by
        simp [Client.greeting, connects]
      rw [Watch.after?, start] at h
      obtain ⟨u, x, w, rfl, first, -, none⟩ := watch_past t h
      obtain ⟨done, whole, marks⟩ := watch_ahead u first
      refine ⟨done, [], whole, ?_, .inr (.inl rfl)⟩
      intro α f greets
      rw [List.filterMap_append, Trace.filterMap_of_not_isGreeting greets none, List.append_nil,
        marks]
      exact Trace.filterMap_of_greets greets u

/-- An act of the greeting comes off the agenda. -/
theorem step_of_isGreeting {q' : Greeting} {a : Act} (h : q.step a = some q')
    (greets : a.isGreeting = true) :
    ∃ hold left, q = ahead ((hold, a) :: left) ∧ q' = ahead left := by
  have marked := Act.isMark_of_isGreeting greets
  cases q' with
  | past =>
    obtain ⟨other, -⟩ := step_past h
    simp [greets] at other
  | ahead left =>
    cases q with
    | past => exact absurd h step_past_ahead
    | ahead left' =>
      obtain ⟨done, rfl, one⟩ := step_ahead h
      rw [if_pos marked] at one
      match done with
      | [x] =>
        obtain rfl : x.2 = a := (List.cons.inj one).1
        exact ⟨x.1, left, rfl, rfl⟩
      | [] => cases one
      | _ :: _ :: _ => cases one

/-- Before an act of the greeting comes what the agenda has before it, and after it what is left. -/
theorem after?_split {before after : Trace} {instant : Time} {a : Act}
    (h : (c.greeting script now).after? (before ++ (instant, a) :: after) = some q)
    (greets : a.isGreeting = true) :
    script.connectFailure = none ∧ ∃ done hold left,
      c.agenda script now = done ++ (hold, a) :: left ∧ acts done = before.marks ∧
        (c.greeting script now).watch (ahead left) after = some q := by
  rw [Watch.after?_append, Option.bind_eq_some_iff] at h
  obtain ⟨q', first, rest⟩ := h
  rw [Watch.watch_cons, Option.bind_eq_some_iff] at rest
  obtain ⟨q'', step, rest⟩ := rest
  obtain ⟨hold, left, rfl, rfl⟩ := step_of_isGreeting step greets
  obtain ⟨connects, done, whole, marks⟩ := after?_ahead first
  exact ⟨connects, done, hold, left, whole, marks, rest⟩

end Greeting

/-! ### Runs -/

namespace Client

open Greeting (acts)

variable (c : Client) (script : Script) {now : Time}

/-- What an agenda shows of its requests, at every point of it. -/
theorem agenda_outcomes {done left : List (Hold × Act)} (h : c.agenda script now = done ++ left) :
    ∃ pending, Outcomes script 0 (probeRequests.map fun type => buildRequest type.code)
        ((acts done).filterMap Act.sending?) ((acts done).filterMap Act.sent?)
        ((acts done).filterMap Act.sendFailed?) pending ∧
      (pending ≠ [] → ∃ wake next rest, left = (.wait wake, next) :: rest) := by
  cases done with
  | nil => exact ⟨[], .nothing script 0 _, fun some => absurd rfl some⟩
  | cons x done =>
    simp only [agenda, List.cons_append, List.cons.injEq] at h
    obtain ⟨rfl, rest⟩ := h
    exact c.requestsFrom_outcomes script probeRequests _ 0 done left rest

/-- Before a request is sent the connection is open, no frame was taken, and all requests so far
have been sent. -/
theorem agenda_sending {done left : List (Hold × Act)} {hold : Hold} {type : MessageType}
    {request : String}
    (h : c.agenda script now = done ++ (hold, .notice (.sending type request)) :: left) :
    (acts done).filterMap Act.opened? = [script] ∧ (acts done).filterMap Act.received? = [] ∧
      (acts done).filterMap Act.sendFailed? = [] ∧
      (acts done).filterMap Act.sent? = (acts done).filterMap Act.sending? := by
  obtain ⟨pending, outcomes, -⟩ := c.agenda_outcomes script h
  have longer := h
  rw [List.append_cons] at longer
  obtain ⟨pending', next, -⟩ := c.agenda_outcomes script longer
  have unsent : (acts [(hold, .notice (.sending type request))]).filterMap Act.sent? = [] := rfl
  have unfailed : (acts [(hold, .notice (.sending type request))]).filterMap Act.sendFailed? = [] :=
    rfl
  simp only [Greeting.acts_append, List.filterMap_append, unsent, unfailed, List.append_nil] at next
  obtain ⟨calls, none⟩ := Outcomes.of_next outcomes next
  cases done with
  | nil => cases (List.cons.inj h).1
  | cons x done =>
    simp only [agenda, List.cons_append, List.cons.injEq] at h
    obtain ⟨rfl, rest⟩ := h
    have quiet : ∀ a ∈ acts done, a.opened? = Option.none ∧ a.received? = Option.none := by
      intro a inside
      obtain ⟨y, member, rfl⟩ := List.mem_map.mp inside
      apply c.requestsFrom_quiet script probeRequests (script.connectWait.ends now) 0 y
      rw [rest]
      exact List.mem_append_left _ member
    have noOther : (acts done).filterMap Act.opened? = [] :=
      List.filterMap_eq_nil_iff.mpr fun a inside => (quiet a inside).1
    have noFrame : (acts done).filterMap Act.received? = [] :=
      List.filterMap_eq_nil_iff.mpr fun a inside => (quiet a inside).2
    exact ⟨congrArg (script :: ·) noOther, noFrame, none, calls.symm⟩

/-- Where a request fails the agenda goes on with its excuse. -/
theorem agenda_sendFailed {done left : List (Hold × Act)} {hold : Hold} {request : String}
    (h : c.agenda script now = done ++ (hold, .sendFailed request) :: left) :
    ∃ f, (script.send ((acts done).filterMap Act.sent?).length).failure = some f ∧
      left = c.excuse f := by
  cases done with
  | nil => cases (List.cons.inj h).1
  | cons x done =>
    simp only [agenda, List.cons_append, List.cons.injEq] at h
    obtain ⟨rfl, rest⟩ := h
    obtain ⟨f, failing, same⟩ := c.requestsFrom_sendFailed script probeRequests _ 0 done rest
    rw [Nat.zero_add] at failing
    exact ⟨f, failing, same⟩

/-- An agenda holds nothing up beyond the instant at which connecting and a number of sends have
returned, until it has come to as many requests. -/
theorem agenda_returned {sends : Nat} {t : Time} {done left : List (Hold × Act)}
    (few : sends ≤ probeRequests.length) (all : script.returned now sends = some t)
    (h : c.agenda script now = done ++ left) :
    script.connectFailure = none ∧
      (sends ≤ ((acts done).filterMap Act.sent?).length ∨
        ∃ hold next rest, left = (hold, next) :: rest ∧
          (hold = .nowhere ∨ ∃ w ≤ t, hold = .wait (some w))) := by
  have opening := all
  rw [← Nat.zero_add sends] at opening
  obtain ⟨opened, soon, first⟩ := Script.returned_of_add _ opening
  obtain ⟨connects, ends⟩ := Script.returned_zero first
  refine ⟨connects, ?_⟩
  simp only [agenda, ends, ← first] at h
  cases done with
  | nil => exact .inr ⟨_, _, _, h.symm, .inr ⟨opened, soon, by rw [first]⟩⟩
  | cons x done =>
    obtain ⟨rfl, rest⟩ := List.cons.inj h
    have further :=
      c.requestsFrom_returned script probeRequests 0 done left (by simpa using few) all rest
    rw [Nat.zero_add] at further
    exact further

end Client

/-- A session that begins may rest until it connects. -/
theorem Client.rests_greeting (c : Client) (script : Script) (now : Time) :
    (c.greeting script now).start.Rests c (.asleep (some now)) := by
  unfold Client.greeting
  split
  next => trivial
  next =>
    intro t ends
    exact ⟨now, Wait.le_of_ends ends, rfl⟩

/-- What has come of a request that failed, after it: the failure is put on record once and told,
the connection is greeted, and frames are taken.  A session that has not come so far sleeps in a
callback for the failure or in a handler, or it did so at the moment at which it was cut off. -/
inductive Excused (R : Probe → Prop) (c : Client) (f : Failure) (p : Probe) (after : Trace) : Prop
  | reporting (marks : after.marks = []) (slow : ¬ c.registry.AtOnce .transport)
      (stays : p.StaysAt R Probe.Sleeping)
  | telling (marks : after.marks =
        [.recorded (c.connectionIncident f .transport), .dispatched (.error f)])
      (slow : ¬ c.handlers.AtOnce .error) (stays : p.StaysAt R Probe.Sleeping)
  | greeting (marks : after.marks = (c.excuse f).map (·.2))
      (slow : ¬ c.handlers.AtOnce .open) (stays : p.StaysAt R Probe.Sleeping)
  | listening (marks : after.marks = (c.excuse f).map (·.2))
      (listens : p.StaysAt R Probe.Listening)
  | beyond (upTo : Trace) (x : Time × Act) (rest : Trace) (whole : after = upTo ++ x :: rest)
      (marks : upTo.marks = (c.excuse f).map (·.2)) (takes : x.2.takesUp = true)
      (greeted : ∀ y ∈ x :: rest, y.2.isGreeting = false)

namespace Probe

variable {c : Client} {now : Time} {script : Script} {p : Probe}

/-- What a probe has asked of its connection. -/
structure Requested (c : Client) (now : Time) (script : Script) (p : Probe) : Prop where
  /-- `send` is called with the requests in order; they are sent, but for the last call. -/
  outcomes : ∃ pending, Outcomes script 0 ["\x7b\"Type\": 4\x7d", "\x7b\"Type\": 5\x7d"]
      p.trace.sendCalls p.trace.sent p.trace.sendFailures pending ∧
    (pending ≠ [] → p.StaysAt (Moment c now script) Sleeping)
  /-- Before each call the connection is open, no frame was taken, and all calls have returned. -/
  calls : ∀ (before : Trace) t type request after,
    p.trace = before ++ (t, .notice (.sending type request)) :: after →
      script.connectFailure = none ∧ before.opened = [script] ∧ before.received = [] ∧
        before.sendFailures = [] ∧ before.sent = before.sendCalls
  /-- Requests whose sends return before the session is cancelled are sent. -/
  returned : ∀ sends ≤ 2, ∀ t, script.returned now sends = some t →
    (t < p.now ∨ p.sessionDone = true) → (∀ t', (t', .cancelled) ∈ p.trace → t < t') →
      sends ≤ p.trace.sent.length ∧
        (sends = 2 → p.trace.sent = ["\x7b\"Type\": 4\x7d", "\x7b\"Type\": 5\x7d"])
  failed : ∀ (before : Trace) t request after,
    p.trace = before ++ (t, .sendFailed request) :: after →
      ∃ f, (script.send before.sent.length).failure = some f ∧
        Excused (Moment c now script) c f p after

section

variable {R : Probe → Prop} {q : Greeting} {rest : Rest}
  (seen : (c.greeting script now).after? p.trace = some q) (rests : q.Rests c rest)
  (place : p.Attending (c.greeting script now) q rest ∨ p.CutAt R (c.greeting script now) q rest)

include seen rests place

/-- The requests come out as the agenda has them, and one is pending only while it is waited for. -/
theorem outcomes_of_greeting : ∃ pending,
    Outcomes script 0 (probeRequests.map fun type => buildRequest type.code)
      p.trace.sendCalls p.trace.sent p.trace.sendFailures pending ∧
    (pending ≠ [] → p.StaysAt R Sleeping) := by
  obtain ⟨done, left, whole, shows, how⟩ := Greeting.shows seen
  obtain ⟨pending, outcomes, waits⟩ := c.agenda_outcomes script whole
  have calls : p.trace.sendCalls = _ := shows Act.sending?_of_not_isGreeting
  have sent : p.trace.sent = _ := shows Act.sent?_of_not_isGreeting
  have failures : p.trace.sendFailures = _ := shows Act.sendFailed?_of_not_isGreeting
  rw [← calls, ← sent, ← failures] at outcomes
  refine ⟨pending, outcomes, ?_⟩
  intro some
  obtain ⟨wake, next, left', rfl⟩ := waits some
  rcases how with rfl | none | ⟨rfl, -⟩
  · cases rest with
    | asleep wake' => exact staysAt_of_rest seen place fun _ _ attending => ⟨_, attending.sleeping⟩
    | _ => exact absurd rests not_false
  · cases none
  · have split := outcomes.split
    rw [calls] at split
    simp [Greeting.acts] at split
    exact absurd split.2.2 some

/-- A session that has waited long enough for a number of sends has sent as many requests. -/
theorem returned_of_greeting {sends : Nat} {t : Time} (few : sends ≤ probeRequests.length)
    (all : script.returned now sends = some t) (late : t < p.now ∨ p.sessionDone = true)
    (uncut : ∀ t', (t', .cancelled) ∈ p.trace → t < t') : sends ≤ p.trace.sent.length := by
  obtain ⟨done, left, whole, shows, how⟩ := Greeting.shows seen
  have sent : p.trace.sent = _ := shows Act.sent?_of_not_isGreeting
  obtain ⟨connects, enough | ⟨hold, next, left', rfl, waiting⟩⟩ :=
    c.agenda_returned script few all whole
  · rw [sent]
    exact enough
  exfalso
  rcases how with rfl | none | ⟨-, refused⟩
  · rcases waiting with rfl | ⟨w, soon, rfl⟩
    · exact rests
    · cases rest with
      | asleep wake =>
        obtain ⟨w', sooner, rfl⟩ := rests w rfl
        rcases place with attending | cut
        · rcases late with beyond | done
          · have waits := attending.wakes w' rfl
            exact absurd (waits.trans (sooner.trans soon)) (not_le.mpr beyond)
          · obtain ⟨_, one⟩ := attending.sleeping
            simp [sessionDone, one, Stop.isFinished] at done
        · obtain ⟨b, -, -, attending, since⟩ := cut.since
          have waits := attending.wakes w' rfl
          exact absurd (waits.trans (sooner.trans soon)) (not_le.mpr (uncut b.now since.mem_trace))
      | _ => exact rests
  · cases none
  · exact absurd connects refused

end

/-- A session is held up in an excuse only where something sleeps. -/
theorem excused_of_ahead {R : Probe → Prop} {m : Watch Greeting} {f : Failure}
    {done left : List (Hold × Act)} {rest : Rest} {after : Trace}
    (whole : c.excuse f = done ++ left) (marks : Greeting.acts done = after.marks)
    (seen : m.after? p.trace = some (.ahead left)) (rests : (Greeting.ahead left).Rests c rest)
    (place : p.Attending m (.ahead left) rest ∨ p.CutAt R m (.ahead left) rest) :
    Excused R c f p after := by
  match done with
  | [] =>
    obtain rfl : c.excuse f = left := whole
    cases rest with
    | asleep wake =>
      apply Excused.reporting marks.symm rests
      exact staysAt_of_rest seen place fun _ _ attending => ⟨_, attending.sleeping⟩
    | _ => exact absurd rests not_false
  | [x] =>
    obtain ⟨rfl, rfl⟩ := List.cons.inj whole
    exact absurd rests not_false
  | [x, y] =>
    simp only [Client.excuse, List.cons_append, List.nil_append, List.cons.injEq] at whole
    obtain ⟨rfl, rfl, rfl⟩ := whole
    cases rest with
    | serving kind wake =>
      obtain ⟨rfl, slow⟩ := rests
      apply Excused.telling marks.symm slow
      exact staysAt_of_rest seen place fun _ _ attending => attending.serving
    | _ => exact absurd rests not_false
  | [x, y, z] =>
    simp only [Client.excuse, List.cons_append, List.nil_append, List.cons.injEq] at whole
    obtain ⟨rfl, rfl, rfl, rfl⟩ := whole
    cases rest with
    | serving kind wake =>
      obtain ⟨rfl, slow⟩ := rests
      apply Excused.greeting marks.symm slow
      exact staysAt_of_rest seen place fun _ _ attending => attending.serving
    | listening wake =>
      apply Excused.listening marks.symm
      exact staysAt_of_rest seen place fun _ _ attending => attending.listening
    | _ => exact absurd rests not_false
  | _ :: _ :: _ :: _ :: _ => simp [Client.excuse] at whole

section

variable {R : Probe → Prop} {q : Greeting} {rest : Rest}
  (seen : (c.greeting script now).after? p.trace = some q) (rests : q.Rests c rest)
  (place : p.Attending (c.greeting script now) q rest ∨ p.CutAt R (c.greeting script now) q rest)

include seen rests place

/-- A request that fails is excused. -/
theorem excused_of_greeting {before after : Trace} {t : Time} {request : String}
    (split : p.trace = before ++ (t, .sendFailed request) :: after) :
    ∃ f, (script.send before.sent.length).failure = some f ∧ Excused R c f p after := by
  have seen' := seen
  rw [split] at seen'
  obtain ⟨-, done, hold, left, whole, marks, onward⟩ := Greeting.after?_split seen' rfl
  obtain ⟨f, failing, rfl⟩ := c.agenda_sendFailed script whole
  rw [marks, ← Trace.sent_eq] at failing
  refine ⟨f, failing, ?_⟩
  cases q with
  | ahead left =>
    obtain ⟨done', whole', marks'⟩ := Greeting.watch_ahead after onward
    exact excused_of_ahead whole' marks' seen rests place
  | past =>
    obtain ⟨u, x, w, rfl, first, takes, none⟩ := Greeting.watch_past after onward
    obtain ⟨done', whole', marks'⟩ := Greeting.watch_ahead u first
    refine .beyond u x w rfl ?_ takes none
    rw [← marks', whole', List.append_nil]
    rfl

end

/-- A probe with a handler of errors that sleeps for a minute. -/
def slowlyHandled : Client :=
  { handlers := [(.error, { label := "slow", pause := .ofLength 60 })] }

/-- A connection that has a frame ready, but fails on the first request. -/
def brokenOff : Script where
  send := Script.failAfter 0 (.ofMessage .connectionReset "gone")
  server := [{ act := .frame (.text "null") }]

theorem slowlyHandled_returns :
    ∃ r, (fresh slowlyHandled 0).course brokenOff = .ok r ∧
      (r.1, r.2.trace.sendFailures, r.2.trace.errors.length, r.2.trace.told, r.2.trace.received) =
        (0, ["\x7b\"Type\": 4\x7d"], 1, [.error], []) :=
  Awaited.of_shown (by decide +kernel)

end Probe

end BoxProbe
