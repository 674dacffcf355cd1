/-
Module: BoxProbe.Proofs.Session.Opening
Purpose: The requests that a probe sends on a connection whose sends succeed.
Trusted boundary: none
Main exports: Scene.Goes, Scene.InUse, Client.goes_sendAll, Client.goes_onOpen
-/
import BoxProbe.Proofs.Session.FrameFold

namespace BoxProbe

/-!
Sending is no quiet act: it changes the connection in use, on which the next send depends.  So the
way through the requests keeps the acts themselves, and carries along that the connection is in use
and not closed.
-/

/-- The connection in use is the last one. -/
theorem Trace.socket?_eq_some {t : Trace} {number : Nat} {conn : Socket} :
    t.socket? = some (number, conn) ↔
      t.sockets[number]? = some conn ∧ number + 1 = t.sockets.length := by
  rw [socket?, List.getLast?_eq_getElem?]
  constructor
  · intro h
    obtain ⟨last, found, same⟩ := Option.map_eq_some_iff.mp h
    obtain ⟨rfl, rfl⟩ := Prod.mk.inj same
    have inside := (List.getElem?_eq_some_iff.mp found).1
    exact ⟨found, by omega⟩
  · rintro ⟨found, last⟩
    have place : t.sockets.length - 1 = number := by omega
    rw [place, found]
    rfl

namespace Scene

/-- A task that runs alone gets from an activity to what is left of it, in a later scene, by doing
some acts, whatever limit lies behind. -/
structure Goes (s : Scene) (a : Activity) (w : Trace) (s' : Scene) (b : Activity) : Prop where
  led : s.LeadsTo w s'
  run : ∀ (limit : Option Time) (others : List Stop), isBefore s'.now limit = true →
    a.run (elapse 0) limit (s, others) = b.run (elapse 0) limit (s', others)

namespace Goes

variable {s s' s'' : Scene} {a b c : Activity} {u w : Trace}

theorem refl (s : Scene) (a : Activity) : s.Goes a [] s a :=
  ⟨.refl s, fun _ _ _ => rfl⟩

theorem trans (one : s.Goes a u s' b) (two : s'.Goes b w s'' c) : s.Goes a (u ++ w) s'' c := by
  refine ⟨one.led.trans two.led, ?_⟩
  intro limit others soon
  rw [one.run limit others (isBefore_of_le two.led.now_le soon)]
  exact two.run limit others soon

theorem act (z : Act) (rest : (s.act z).Goes a w s' b) : s.Goes (.act z a) ((s.now, z) :: w) s' b :=
  ⟨(LeadsTo.act s z).trans rest.led, rest.run⟩

theorem look {next : Trace → Activity} (rest : s.Goes (next s.trace) w s' b) :
    s.Goes (.look next) w s' b :=
  ⟨rest.led, rest.run⟩

end Goes

/-- What is gathered on the way is what the acts add. -/
theorem Gathers.goes {s s' : Scene} {a b : Activity} {haul : Haul} (h : s.Gathers a haul s' b) :
    ∃ w, s.Goes a w s' b ∧ (∀ x ∈ w, x.2.Quiet) ∧ Trace.haul w = haul := by
  obtain ⟨⟨w, led, quiet, hauled⟩, run⟩ := h
  exact ⟨w, ⟨led, run⟩, quiet, hauled⟩

/-- A connection with a number is in use and not closed, and behaves by a script. -/
structure InUse (s : Scene) (number : Nat) (conn : Socket) : Prop where
  socket : s.trace.socket? = some (number, conn)
  live : conn.closedAt = none

namespace InUse

variable {s s' : Scene} {number : Nat} {conn : Socket}

theorem of_quiet (h : s.InUse number conn) {w : Trace} (led : s.LeadsTo w s')
    (quiet : ∀ x ∈ w, x.2.Quiet) : s'.InUse number conn := by
  refine ⟨?_, h.live⟩
  rw [led.trace, Trace.socket?, Trace.sockets_append_of_quiet quiet]
  exact h.socket

/-- What is sent is added to the connection in use. -/
theorem sent (h : s.InUse number conn) (request : String) :
    (s.act (.sent number request)).InUse number
      { conn with sent := conn.sent ++ [(s.now, request)] } := by
  refine ⟨?_, h.live⟩
  obtain ⟨found, last⟩ := Trace.socket?_eq_some.mp h.socket
  refine Trace.socket?_eq_some.mpr ?_
  simp only [Scene.act, Trace.sockets_append, Trace.socketsAfter, List.getElem?_modify,
    List.length_modify, found]
  exact ⟨by simp, last⟩

theorem isClosed_eq (h : s.InUse number conn) : s.trace.isClosed number = false := by
  obtain ⟨found, -⟩ := Trace.socket?_eq_some.mp h.socket
  simp [Trace.isClosed, found, h.live]

end InUse

end Scene

/-- A connection on which every send comes to an end and succeeds. -/
def Script.Sends (script : Script) : Prop :=
  ∀ succeeded, (script.send succeeded).wait ≠ .forever ∧ (script.send succeeded).failure = none

/-- Quiet acts send nothing. -/
theorem Trace.sent_of_quiet {w : Trace} (quiet : ∀ x ∈ w, x.2.Quiet) : Trace.sent w = [] := by
  rw [Trace.sent, List.filterMap_eq_nil_iff]
  rintro ⟨instant, a⟩ inside
  have still := quiet _ inside
  cases a <;> first | rfl | exact still.elim

theorem Trace.sent_append (t u : Trace) : Trace.sent (t ++ u) = t.sent ++ u.sent :=
  List.filterMap_append

namespace Client

variable {s : Scene} {number : Nat} {conn : Socket}

/-- One request is sent. -/
theorem goes_send (c : Client) (type : MessageType) (more : List MessageType) (next : Activity)
    (use : s.InUse number conn) (sends : conn.script.Sends) :
    ∃ w s' conn', s.Goes (c.sendAll (type :: more) next) w s' (c.sendAll more next) ∧
      s'.InUse number conn' ∧ conn'.script = conn.script ∧
      Trace.sent w = [buildRequest type.code] ∧ Trace.haul w = {} := by
  let request := buildRequest type.code
  let s₁ := s.act (.notice (.sending type request))
  have use₁ : s₁.InUse number conn := use.of_quiet (.act s _) (by simp [Act.Quiet])
  obtain ⟨ends, succeeds⟩ := sends conn.sent.length
  have outcome : nextSend (s.act (.notice (.sending type (buildRequest type.code)))).trace =
      (number, conn.script.send conn.sent.length) := by
    rw [nextSend, use₁.socket]
  obtain ⟨s₂, waited⟩ := s₁.gathers_pause ends
  obtain ⟨w, waits, quiet, nothing⟩ :=
    (waited (.act (.sent number request) (c.sendAll more next))).goes
  have use₂ := use₁.of_quiet waits.led quiet
  have sent := waits.trans (.act (.sent number request) (.refl _ (c.sendAll more next)))
  refine ⟨_ :: (w ++ [(s₂.now, .sent number request)]), _, _, .act _ (.look ?_), use₂.sent request,
    rfl, ?_, ?_⟩
  · simp only [outcome, succeeds]
    exact sent
  · have still := Trace.sent_of_quiet quiet
    rw [← List.singleton_append, Trace.sent_append, Trace.sent_append, still]
    rfl
  · rw [← List.singleton_append, Trace.haul_append, Trace.haul_append, nothing]
    rfl

/-- All requests are sent, one after another. -/
theorem goes_sendAll (c : Client) (types : List MessageType) (next : Activity)
    (use : s.InUse number conn) (sends : conn.script.Sends) :
    ∃ w s' conn', s.Goes (c.sendAll types next) w s' next ∧ s'.InUse number conn' ∧
      Trace.sent w = types.map (fun type => buildRequest type.code) ∧ Trace.haul w = {} := by
  induction types generalizing s conn with
  | nil => exact ⟨[], s, conn, .refl s next, use, rfl, rfl⟩
  | cons type more ih =>
    obtain ⟨u, s₁, conn₁, first, use₁, same, sent₁, nothing₁⟩ :=
      c.goes_send type more next use sends
    obtain ⟨w, s₂, conn₂, others, use₂, sent₂, nothing₂⟩ := ih use₁ (same ▸ sends)
    refine ⟨u ++ w, s₂, conn₂, first.trans others, use₂, ?_, ?_⟩
    · rw [Trace.sent_append, sent₁, sent₂]
      rfl
    · rw [Trace.haul_append, nothing₁, nothing₂]
      rfl

/-- A probe greets a connection with its two requests, and tells its handlers. -/
theorem goes_onOpen (c : Client) (next : Activity) (use : s.InUse number conn)
    (sends : conn.script.Sends) (opens : s.handlers.Ends .open) :
    ∃ w s' conn', s.Goes (c.onOpen next) w s' next ∧ s'.InUse number conn' ∧
      Trace.sent w = [buildRequest 4, buildRequest 5] ∧ Trace.haul w = { events := [.open] } := by
  have use₁ : (s.act (.notice .connected)).InUse number conn :=
    use.of_quiet (.act s _) (by simp [Act.Quiet])
  obtain ⟨u, s₂, conn₂, requests, use₂, sent, nothing⟩ :=
    c.goes_sendAll probeRequests (.dispatchAll .open next) use₁ sends
  have same : s₂.handlers = s.handlers := requests.led.handlers
  have opens₂ : s₂.handlers.Ends .open := same ▸ opens
  obtain ⟨s₃, told⟩ := s₂.gathers_dispatchAll (e := .open) opens₂ next
  obtain ⟨w, tells, quiet, hauled⟩ := told.goes
  refine ⟨_, s₃, conn₂, .act _ (requests.trans tells), use₂.of_quiet tells.led quiet, ?_, ?_⟩
  · rw [← List.singleton_append, Trace.sent_append, Trace.sent_append, sent,
      Trace.sent_of_quiet quiet]
    rfl
  · rw [← List.singleton_append, Trace.haul_append, Trace.haul_append, nothing, hauled]
    rfl

end Client

end BoxProbe
