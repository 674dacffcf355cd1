/-
Module: BoxProbe.Proofs.Session.Window
Purpose: The window in which a probe listens: what a connection delivers in it has been received.
Trusted boundary: none
Main exports: Script.deliveries, Trace.receipts, Intake, Script.intake, Client.heeds_intake,
  Probe.listening_window
-/
import BoxProbe.Proofs.Session.Agenda
import BoxProbe.Proofs.Session.Pacing

namespace BoxProbe

/-!
Where nothing sleeps but the connection itself, a session asks for its first frame when the
connection opens, and for each further one when it has got the one before; so the instants at which
frames arrive are fixed by the connection.  A session leaves frames behind only if it is cut off or
finds its connection closed, and neither happens before the margin.
-/

/-! ### Deliveries -/

/-- The frames that a connection delivers, with their instants, to a session that asks for each as
soon as it has got the one before. -/
def arrivals : (asked : Time) → List ServerStep → List (Time × String)
  | _, [] => []
  | asked, step :: rest =>
    match step.after.ends asked, step.act with
    | some instant, .frame f => (instant, f.content) :: arrivals instant rest
    | _, _ => []

/-- The frames that a connection delivers to a session that starts at an instant. -/
def Script.deliveries (script : Script) (now : Time) : List (Time × String) :=
  match script.connectFailure, script.connectWait.ends now with
  | none, some opened => arrivals opened script.server
  | _, _ => []

theorem le_of_mem_arrivals (server : List ServerStep) : ∀ {asked : Time},
    ∀ x ∈ arrivals asked server, asked ≤ x.1 := by
  induction server with
  | nil =>
    intro asked x inside
    cases inside
  | cons step rest ih =>
    intro asked x inside
    unfold arrivals at inside
    split at inside
    next instant f ends _ =>
      have later := Wait.le_of_ends ends
      rcases List.mem_cons.mp inside with rfl | inside
      · exact later
      · exact later.trans (ih x inside)
    next => cases inside

/-- Nothing arrives before the first wait is over. -/
theorem ends_of_mem_arrivals {step : ServerStep} {rest : List ServerStep} {asked : Time}
    {x : Time × String} (inside : x ∈ arrivals asked (step :: rest)) :
    ∃ w ≤ x.1, step.after.ends asked = some w := by
  unfold arrivals at inside
  split at inside
  next instant f ends _ =>
    refine ⟨instant, ?_, ends⟩
    rcases List.mem_cons.mp inside with rfl | inside
    · exact le_rfl
    · exact le_of_mem_arrivals rest x inside
  next => cases inside

namespace Act

/-- The frame that an act takes at an instant. -/
def receipt? : Time × Act → Option (Time × String)
  | (instant, .received raw) => some (instant, raw)
  | _ => none

/-- The acts that an intake looks at. -/
def isIntake : Act → Bool
  | .opened _ | .received _ | .notice (.connectionClosed _ _) => true
  | _ => false

end Act

/-- The frames that were received, with their instants. -/
def Trace.receipts (t : Trace) : List (Time × String) :=
  t.filterMap Act.receipt?

theorem Trace.receipts_map (t : Trace) : t.receipts.map (·.2) = t.received := by
  unfold receipts received
  rw [List.map_filterMap]
  congr 1
  funext x
  obtain ⟨instant, a⟩ := x
  cases a <;> rfl

/-- How far a session has got with the frames of its connection. -/
structure Intake where
  opened : Bool := false
  ended : Bool := false
  left : List (Time × String)

open Classical in
/-- Frames are taken as they are delivered. -/
noncomputable def Intake.step (script : Script) (q : Intake) (t : Time) : Act → Option Intake
  | .opened s => if q.opened = false ∧ s = script then some { q with opened := true } else none
  | .received raw =>
    match q.left with
    | x :: rest => if x = (t, raw) then some { q with left := rest } else none
    | [] => none
  | .notice (.connectionClosed _ _) => some { q with ended := true }
  | _ => some q

/-- A session waits for the next delivery, and not beyond it.  One that has ended has left behind
nothing that is delivered before the margin. -/
def Intake.Rests (margin : Time) (q : Intake) (rest : Rest) : Prop :=
  if q.ended then ∀ x ∈ q.left, margin ≤ x.1
  else ∀ x ∈ q.left, ∃ w ≤ x.1, rest.wake? = some w

theorem Intake.step_of_not_isIntake {script : Script} {q : Intake} {t : Time} {a : Act}
    (other : a.isIntake = false) : q.step script t a = some q := by
  cases a with
  | notice n => cases n <;> first | rfl | cases other
  | _ => first | rfl | cases other

theorem Act.not_isIntake_of_isAside {a : Act} (h : a.isAside = true) : a.isIntake = false := by
  cases a with
  | notice n => cases n <;> first | rfl | cases h
  | _ => first | rfl | cases h

/-- The watch over what a session takes of a connection that is not closed before the margin. -/
noncomputable def Script.intake (script : Script) (now margin : Time) : Watch Intake where
  start := { left := script.deliveries now }
  step q t a := q.step script t a
  rests := Intake.Rests margin
  aside _ _ _ aside := Intake.step_of_not_isIntake (Act.not_isIntake_of_isAside aside)
  closes t := margin ≤ t

theorem Script.intake_step {script : Script} {now margin t : Time} {q : Intake} {a : Act}
    (other : a.isIntake = false) : (script.intake now margin).step q t a = some q :=
  Intake.step_of_not_isIntake other

theorem Script.overlooks_intake (script : Script) (now margin : Time) (q : Intake)
    {arguments : List Argument} {failed : Failure → Notice}
    (other : ∀ f, (Act.notice (failed f)).isIntake = false) :
    (script.intake now margin).Overlooks q arguments failed where
  calls _ _ := intake_step rfl
  failures _ f := intake_step (other f)

/-- What an intake knows of a history. -/
structure Intake.Knows (script : Script) (now : Time) (t : Trace) (q : Intake) : Prop where
  opened : t.opened = if q.opened then [script] else []
  taken : script.deliveries now = t.receipts ++ q.left

namespace Intake

variable {script : Script} {now margin : Time} {t : Trace} {q : Intake}

/-- What an act adds to what an intake knows. -/
theorem Knows.act (h : q.Knows script now t) {x : Time × Act} {q' : Intake}
    (step : q.step script x.1 x.2 = some q') : q'.Knows script now (t ++ [x]) := by
  obtain ⟨instant, a⟩ := x
  have opens : Trace.opened (t ++ [(instant, a)]) = t.opened ++ a.opened?.toList := by
    cases opened : a.opened? <;> simp [Trace.opened, opened]
  have takes : Trace.receipts (t ++ [(instant, a)]) =
      t.receipts ++ (Act.receipt? (instant, a)).toList := by
    cases taken : Act.receipt? (instant, a) <;> simp [Trace.receipts, taken]
  cases intake : a.isIntake with
  | false =>
    rw [step_of_not_isIntake intake, Option.some.injEq] at step
    subst step
    have unopened : a.opened? = none := by cases a <;> first | rfl | cases intake
    have untaken : Act.receipt? (instant, a) = none := by cases a <;> first | rfl | cases intake
    exact ⟨by simp [opens, unopened, h.opened], by simp [takes, untaken, h.taken]⟩
  | true =>
    cases a with
    | opened s =>
      simp only [Intake.step, Option.ite_none_right_eq_some, Option.some.injEq] at step
      obtain ⟨⟨unopened, rfl⟩, rfl⟩ := step
      refine ⟨by simp [opens, Act.opened?, h.opened, unopened], ?_⟩
      simp [takes, Act.receipt?, h.taken]
    | received raw =>
      simp only [Intake.step] at step
      split at step
      next y rest left =>
        simp only [Option.ite_none_right_eq_some, Option.some.injEq] at step
        obtain ⟨rfl, rfl⟩ := step
        refine ⟨by simp [opens, Act.opened?, h.opened], ?_⟩
        simp [takes, Act.receipt?, h.taken, left]
      next => cases step
    | notice n =>
      cases n with
      | connectionClosed code reason =>
        cases step
        refine ⟨by simp [opens, Act.opened?, h.opened], ?_⟩
        simp [takes, Act.receipt?, h.taken]
      | _ => cases intake
    | _ => cases intake

theorem knows (h : (script.intake now margin).after? t = some q) : q.Knows script now t := by
  apply Watch.after?_induct (P := fun t q => q.Knows script now t) _ _ t h
  · exact ⟨rfl, rfl⟩
  · intro t q x q' knows step
    exact knows.act step

/-- A session that has opened its connection uses it. -/
theorem Knows.inUse (h : q.Knows script now t) (opened : q.opened = true) :
    ∃ s, t.socket? = some (0, s) ∧ s.script = script := by
  have one := h.opened
  rw [opened, if_pos rfl, ← Trace.sockets_map_script] at one
  match sockets : t.sockets with
  | [s] =>
    rw [sockets] at one
    exact ⟨s, by simp [Trace.socket?, sockets], List.singleton_inj.mp one⟩
  | [] => simp [sockets] at one
  | _ :: _ :: _ => simp [sockets] at one

end Intake

/-- A session that waits for its connection waits no longer than for its first frame. -/
theorem Script.rests_connecting (script : Script) {now : Time} (margin : Time) :
    (script.intake now margin).rests (script.intake now margin).start
      (.asleep (script.connectWait.ends now)) := by
  change ∀ x ∈ script.deliveries now, ∃ w ≤ x.1, script.connectWait.ends now = some w
  intro x inside
  unfold deliveries at inside
  split at inside
  next opened _ ends => exact ⟨opened, le_of_mem_arrivals _ x inside, ends⟩
  next => cases inside

theorem Script.rests_starting (script : Script) (now margin : Time) :
    (script.intake now margin).rests (script.intake now margin).start (.asleep (some now)) := by
  change ∀ x ∈ script.deliveries now, ∃ w ≤ x.1, some now = some w
  intro x inside
  obtain ⟨w, soon, ends⟩ := script.rests_connecting margin x inside
  exact ⟨now, (Wait.le_of_ends ends).trans soon, rfl⟩

/-! ### A session takes what is delivered -/

namespace Client

open Activity (heeds_dispatchAll)

variable {c : Client} {script : Script} {now margin : Time}
  (prompt : ∀ kind, c.handlers.AtOnce kind) (promptly : ∀ context, c.registry.AtOnce context)

variable {t : Time} {q : Intake} {next : Activity}

theorem heeds_other {a : Act} (other : a.isIntake = false)
    (rest : next.Heeds (script.intake now margin) c.handlers t q) :
    (Activity.act a next).Heeds (script.intake now margin) c.handlers t q :=
  ⟨q, Script.intake_step other, rest⟩

include prompt in
/-- Events are told at once. -/
theorem heeds_prompt {e : Event} (rest : next.Heeds (script.intake now margin) c.handlers t q) :
    (Activity.dispatchAll e next).Heeds (script.intake now margin) c.handlers t q := by
  apply heeds_dispatchAll (r := q) (Script.intake_step rfl)
    (script.overlooks_intake now margin q fun _ => rfl)
  · exact fun late => absurd (prompt e.kind) late
  · intro t' same
    rw [same (prompt e.kind)]
    exact rest

include promptly in
/-- Failures are reported at once. -/
theorem heeds_handle_prompt {i : Incident}
    (rest : next.Heeds (script.intake now margin) c.handlers t q) :
    (c.registry.handle i (.act (.recorded i) next)).Heeds (script.intake now margin) c.handlers t
      q := by
  apply Registry.heeds_handle (s := q) (Script.intake_step rfl) (Script.intake_step rfl)
    (script.overlooks_intake now margin q fun _ => rfl)
  · exact fun late => absurd (promptly i.context) late
  · intro t' same
    rw [same (promptly i.context)]
    exact heeds_other rfl rest

include prompt promptly in
theorem heeds_onError_prompt (f : Failure) (context : ErrorContext)
    (rest : next.Heeds (script.intake now margin) c.handlers t q) :
    (c.onError f context next).Heeds (script.intake now margin) c.handlers t q := by
  apply heeds_other rfl
  apply heeds_handle_prompt promptly
  exact heeds_prompt prompt rest

include prompt in
theorem heeds_onPayload_prompt (payload : Json)
    (rest : next.Heeds (script.intake now margin) c.handlers t q) :
    (onPayload payload next).Heeds (script.intake now margin) c.handlers t q := by
  have told := heeds_prompt prompt (e := .message payload) rest
  apply heeds_other rfl
  split
  next =>
    apply heeds_other rfl
    apply heeds_other rfl
    exact heeds_prompt prompt told
  next => exact told

include prompt promptly in
/-- A frame that is delivered is taken at once. -/
theorem heeds_onMessage_prompt (f : Frame) {left : List (Time × String)}
    (due : q.left = (t, f.content) :: left)
    (rest : next.Heeds (script.intake now margin) c.handlers t { q with left }) :
    (c.onMessage f next).Heeds (script.intake now margin) c.handlers t q := by
  refine ⟨{ q with left }, ?_, ?_⟩
  · simp [Script.intake, Intake.step, due]
  · apply heeds_other rfl
    cases Payload.decode f.content with
    | ok payload => exact heeds_onPayload_prompt prompt payload rest
    | error fault =>
      apply heeds_other rfl
      exact heeds_handle_prompt promptly rest

include prompt in
/-- A session ends when all that is left is delivered behind the margin. -/
theorem heeds_onClose_prompt (code : Option Int) (reason : Option String)
    (late : ∀ x ∈ q.left, margin ≤ x.1) :
    (onClose code reason .done).Heeds (script.intake now margin) c.handlers t q := by
  refine ⟨{ q with ended := true }, rfl, ?_⟩
  apply heeds_prompt prompt
  exact late

include prompt in
theorem heeds_ending_prompt (late : ∀ x ∈ q.left, margin ≤ x.1) :
    ending.Heeds (script.intake now margin) c.handlers t q := by
  apply heeds_other rfl
  intro seen _
  exact heeds_onClose_prompt prompt _ _ late

include prompt promptly in
/-- A session that takes frames takes all that are delivered before it finds the connection
closed. -/
theorem heeds_receiveFrom_prompt (socket : Nat) (server : List ServerStep) :
    ∀ {t : Time} {q : Intake}, q.ended = false → q.left = arrivals t server →
      (c.receiveFrom socket server).Heeds (script.intake now margin) c.handlers t q := by
  induction server with
  | nil =>
    intro t q going left
    have none : q.left = [] := left
    refine ⟨?_, by simp [Wait.ends], ?_⟩
    · simp [Script.intake, Intake.Rests, going, none]
    · intro t' _ _
      exact heeds_ending_prompt prompt (by simp [none])
  | cons step rest ih =>
    intro t q going left
    refine ⟨?_, ?_, ?_⟩
    · simp only [Script.intake, Intake.Rests, going, left, Bool.false_eq_true, if_false]
      exact fun x inside => ends_of_mem_arrivals inside
    · intro t' ends
      simp only [arrivals, ends] at left
      cases act : step.act with
      | frame f =>
        simp only [act] at left ⊢
        exact heeds_onMessage_prompt prompt promptly f left (ih going rfl)
      | fail f frame =>
        simp only [act] at left ⊢
        have lost : (Activity.act (.becomes .closed) (c.onError f (receiveContext f) ending)).Heeds
            (script.intake now margin) c.handlers t' q := by
          apply heeds_other rfl
          apply heeds_onError_prompt prompt promptly
          exact heeds_ending_prompt prompt (by simp [left])
        cases frame with
        | none => exact lost
        | some frame => exact heeds_other rfl lost
      | close frame =>
        simp only [act] at left ⊢
        apply heeds_other rfl
        exact heeds_ending_prompt prompt (by simp [left])
    · intro t' closes early
      apply heeds_ending_prompt prompt
      intro x inside
      rw [left] at inside
      obtain ⟨w, soon, ends⟩ := ends_of_mem_arrivals inside
      exact le_trans closes ((early w ends).trans soon)

include prompt promptly in
theorem heeds_receive_prompt (opened : q.opened = true) (going : q.ended = false)
    (left : q.left = arrivals t script.server) :
    c.receive.Heeds (script.intake now margin) c.handlers t q := by
  intro seen after
  obtain ⟨s, inUse, rfl⟩ := (Intake.knows after).inUse opened
  simp only [inUse]
  exact heeds_receiveFrom_prompt prompt promptly 0 _ going left

/-- A send on the connection in use takes no time if no send on it does. -/
theorem nextSend_prompt {seen : Trace} (sends : ∀ k, (script.send k).wait = .none)
    (after : (script.intake now margin).after? seen = some q) (opened : q.opened = true) :
    (nextSend seen).2.wait = .none := by
  obtain ⟨s, inUse, rfl⟩ := (Intake.knows after).inUse opened
  simp [nextSend, inUse, sends]

include prompt promptly in
theorem heeds_sendAll_prompt (sends : ∀ k, (script.send k).wait = .none) (opened : q.opened = true)
    (rest : next.Heeds (script.intake now margin) c.handlers t q) (types : List MessageType) :
    (c.sendAll types next).Heeds (script.intake now margin) c.handlers t q := by
  induction types with
  | nil => exact rest
  | cons type types ih =>
    apply heeds_other rfl
    intro seen after
    have atOnce := nextSend_prompt sends after opened
    simp only
    generalize nextSend seen = outcome at atOnce ⊢
    rw [atOnce]
    refine ⟨fun waits => absurd rfl waits, ?_⟩
    rintro t' ⟨⟩
    cases outcome.2.failure with
    | none =>
      apply heeds_other rfl
      exact ih
    | some f =>
      apply heeds_other rfl
      exact heeds_onError_prompt prompt promptly f _ rest

include prompt promptly in
/-- A session on a connection whose sends return at once takes all that are delivered before it
finds the connection closed. -/
theorem heeds_intake (sends : ∀ k, (script.send k).wait = .none) (url : String) :
    (c.session url script).Heeds (script.intake now margin) c.handlers now
      (script.intake now margin).start := by
  apply heeds_other rfl
  apply heeds_other rfl
  refine ⟨?_, ?_⟩
  · intro _
    exact script.rests_connecting margin
  · intro t ends
    cases failing : script.connectFailure with
    | some f =>
      have none : script.deliveries now = [] := by simp [Script.deliveries, failing]
      apply heeds_other rfl
      apply heeds_onError_prompt prompt promptly
      apply heeds_onClose_prompt prompt
      simp [Script.intake, none]
    | none =>
      refine ⟨{ opened := true, left := script.deliveries now }, ?_, ?_⟩
      · simp [Script.intake, Intake.step]
      · apply heeds_other rfl
        apply heeds_other rfl
        apply heeds_sendAll_prompt prompt promptly sends rfl
        apply heeds_prompt prompt
        apply heeds_receive_prompt prompt promptly rfl rfl
        simp [Script.deliveries, failing, ends]

end Client

/-! ### Runs -/

namespace SharedRun

variable {c : Client} {now margin deadline : Time} {script : Script} {r : SharedRun}

/-- No connection is found closed before the margin. -/
theorem Paced.allows (h : r.Paced c now margin deadline) :
    (script.intake now margin).Allows r.probe.trace r.probe.now := by
  intro socket closed
  obtain ⟨x, inside, parting⟩ := Trace.parting_of_isClosed closed
  obtain ⟨late, past⟩ := h.probe.partings x inside parting
  exact late.trans past

/-- What a session has left behind is delivered behind the margin, or later than now. -/
theorem received_of_watched (h : r.Paced c now margin deadline)
    {R : Probe → Prop} (watched : r.probe.Watched R (script.intake now margin)) :
    ∃ left, script.deliveries now = r.probe.trace.receipts ++ left ∧
      r.probe.trace.received = r.probe.trace.receipts.map (·.2) ∧
      ∀ x ∈ left, min margin r.probe.now ≤ x.1 := by
  obtain ⟨q, rest, seen, rests, place⟩ := watched
  refine ⟨q.left, (Intake.knows seen).taken, r.probe.trace.receipts_map.symm, ?_⟩
  intro x inside
  have rests : q.Rests margin rest := rests
  unfold Intake.Rests at rests
  cases ended : q.ended with
  | true =>
    simp only [ended, if_true] at rests
    exact (min_le_left _ _).trans (rests x inside)
  | false =>
    simp only [ended, Bool.false_eq_true, if_false] at rests
    obtain ⟨w, soon, wakes⟩ := rests x inside
    rcases place with attending | cut
    · exact (min_le_right _ _).trans ((attending.wakes w wakes).trans soon)
    · obtain ⟨b, -, -, attending, since⟩ := cut.since
      obtain ⟨late, -⟩ := h.probe.partings _ since.mem_trace rfl
      exact (min_le_left _ _).trans (late.trans ((attending.wakes w wakes).trans soon))

/-- What a run keeps to that has a margin and a deadline. -/
structure Listens (c : Client) (now margin deadline : Time) (script : Script) (r : SharedRun) :
    Prop where
  closes : ∀ t number, (t, .closeCalled number) ∈ r.probe.trace → margin ≤ t
  cancels : ∀ t, (t, .cancelled) ∈ r.probe.trace → margin ≤ t
  pending : ∀ (before : Trace) t after, r.probe.trace = before ++ (t, .cancelled) :: after →
    before.state = .connecting → deadline ≤ t
  /-- Frames are received as they are delivered; what is missing is delivered behind the margin, or
  later than now. -/
  received : (∀ k, (script.send k).wait = .none) → (∀ kind, c.handlers.AtOnce kind) →
    (∀ context, c.registry.AtOnce context) → ∃ left,
      script.deliveries now = r.probe.trace.receipts ++ left ∧
        r.probe.trace.received = r.probe.trace.receipts.map (·.2) ∧
        ∀ x ∈ left, min margin r.probe.now ≤ x.1
  returned : r.status?.isSome → margin ≤ r.probe.now

theorem listens_follow (timing : Timing c now margin deadline) {choices : List Choice}
    (followed : ((Probe.fresh c now).share script []).follow choices = some r) :
    r.Listens c now margin deadline script := by
  have starts := paced_share c now margin deadline script
  have paced := starts.follow timing followed
  refine ⟨?_, ?_, paced.probe.pending, ?_, ?_⟩
  · exact fun t number inside => (paced.probe.partings _ inside rfl).1
  · exact fun t inside => (paced.probe.partings _ inside rfl).1
  · intro sends prompt promptly
    let m := script.intake now margin
    have begun : ((Probe.fresh c now).share script []).probe.Watched (fun _ => True) m :=
      Probe.watched_share (script.rests_starting now margin)
        (Client.heeds_intake prompt promptly sends c.settings.url) []
    have both : r.Paced c now margin deadline ∧ r.probe.Watched (fun _ => True) m := by
      refine follow_induct (P := fun r => r.Paced c now margin deadline ∧
        r.probe.Watched (fun _ => True) m) ?_ choices ⟨starts, begun⟩ followed
      intro r choice r' both step
      have onward := both.1.step timing step
      exact ⟨onward, watched_step both.2 trivial step onward.allows⟩
    exact received_of_watched both.1 both.2
  · intro returned
    unfold status? at returned
    split at returned
    next status others tasks =>
      have ripe := paced.tasks (.returned status) (by simp [tasks])
      exact ripe.begun
    next => cases returned

end SharedRun

namespace Probe

variable {c : Client} {now L C h : Time}

/-- The margin and the deadline of a run with finite settings. -/
theorem timing_exact (now : Time) (lifetime : c.settings.lifetime.toRat? = some L)
    (closeTimeout : c.settings.closeTimeout.toRat? = some C)
    (half : c.settings.lifetime.half.toRat? = some h) :
    Timing c now (now + L - min C h) (now + L) := by
  refine ⟨deadlineOf_exact lifetime, ?_⟩
  have grace : (fresh c now).grace = c.settings.closeTimeout.atMost c.settings.lifetime.half := rfl
  rw [grace, Span.ofDouble_exact (Double.atMost_exact closeTimeout half)]
  congr 1
  ring

/-- A connection that has three frames, a while after each other. -/
def threeFrames : Script where
  server :=
    [{ after := .ofLength 1, act := .frame (.text "a") },
      { after := .ofLength 2, act := .frame (.text "b") },
      { after := .ofLength 2, act := .frame (.text "c") }]

end Probe

end BoxProbe
