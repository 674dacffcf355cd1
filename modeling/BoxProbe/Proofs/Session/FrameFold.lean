/-
Module: BoxProbe.Proofs.Session.FrameFold
Purpose: What comes of the frames that are delivered to a session, frame by frame.
Trusted boundary: none
Main exports: Frame.hauls, Frame.hauls_append, Client.gathers_onMessage, Client.receiveFrom_folds
-/
import BoxProbe.Proofs.Protocol.QrCode
import BoxProbe.Proofs.Session.Gathering
import BoxProbe.Session.Client

namespace BoxProbe

/-!
A frame adds its text to what was received, and either an incident or the events of its payload.
None of this depends on the frames before it, so what comes of several frames is one haul after
another.
-/

namespace Frame

/-- The payload of a frame, if it is JSON. -/
def payload? (f : Frame) : Option Json :=
  (Payload.decode f.content).toOption

/-- The incident of a frame that is no JSON, with the first hundred characters of the frame. -/
def rejection? (f : Frame) : Option Incident :=
  match Payload.decode f.content with
  | .ok _ => none
  | .error fault =>
    some
      { failure := .undecodable f.content fault
        context := .payload
        severity := .medium
        operation := "message_parse"
        details := [("frame", .str ((Text.ofString f.content).take 100))] }

/-- The text of a frame that is a QR code. -/
def scanText? (f : Frame) : Option Json :=
  f.payload?.bind Json.scanText?

/-- The events of a frame: that of its QR code comes before its message. -/
def events (f : Frame) : List Event :=
  match f.payload? with
  | none => []
  | some payload => payload.scanText?.toList.map .qrCode ++ [.message payload]

/-- What frames add to the lists of a probe, and their events. -/
def hauls (frames : List Frame) : Haul :=
  { received := frames.map content
    errors := frames.filterMap rejection?
    qrCodes := frames.filterMap scanText?
    events := frames.flatMap events }

theorem hauls_append (frames more : List Frame) :
    hauls (frames ++ more) = hauls frames ++ hauls more := by
  simp [hauls, Haul.append_def, Haul.append]

theorem hauls_of_ok {f : Frame} {payload : Json}
    (decoded : Payload.decode f.content = .ok payload) :
    hauls [f] = ({ received := [f.content] } : Haul) ++
      { qrCodes := payload.scanText?.toList
        events := payload.scanText?.toList.map .qrCode ++ [.message payload] } := by
  have payload_eq : f.payload? = some payload := by simp [payload?, decoded, Except.toOption]
  have accepted : f.rejection? = none := by simp [rejection?, decoded]
  have scanned : f.scanText? = payload.scanText? := by simp [scanText?, payload_eq]
  cases text : payload.scanText? <;>
    simp [hauls, Haul.append_def, Haul.append, accepted, scanned, events, payload_eq, text]

theorem hauls_of_error {f : Frame} {fault : Json.Fault}
    (decoded : Payload.decode f.content = .error fault) :
    hauls [f] = ({ received := [f.content] } : Haul) ++
      { errors := [Client.payloadIncident f.content fault] } := by
  have payload_eq : f.payload? = none := by simp [payload?, decoded, Except.toOption]
  have rejected : f.rejection? = some (Client.payloadIncident f.content fault) := by
    simp only [rejection?, decoded]
    rfl
  have scanned : f.scanText? = none := by simp [scanText?, payload_eq]
  simp [hauls, Haul.append_def, Haul.append, rejected, scanned, events, payload_eq]

end Frame

/-- Handlers of some events that all come to an end. -/
def Handlers.Ends (h : Handlers) (kind : EventKind) : Prop :=
  ∀ c ∈ h.callbacks kind, c.Ends

namespace Client

variable {c : Client} {s : Scene}

/-- A payload adds its QR code, if it is one, and dispatches it before its message. -/
theorem gathers_onPayload (payload : Json) (messages : s.handlers.Ends .message)
    (scans : s.handlers.Ends .qrCode) (b : Activity) :
    ∃ s', s.Gathers (onPayload payload b)
      { qrCodes := payload.scanText?.toList
        events := payload.scanText?.toList.map .qrCode ++ [.message payload] } s' b := by
  rw [Payload.scanText?_eq]
  unfold onPayload
  by_cases scanned : Payload.isQrCode payload = true
  · simp only [scanned, if_true]
    let s₁ := ((s.act (.notice (.messageType (Payload.typeTag payload)))).act
      (.qrCode (Payload.textOf payload))).act (.notice (.qrCode (Payload.textOf payload)))
    obtain ⟨s₂, told⟩ := s₁.gathers_dispatchAll (e := .qrCode (Payload.textOf payload)) scans
      (.dispatchAll (.message payload) b)
    have same : s₂.handlers = s.handlers := told.1.handlers_eq
    have messages' : s₂.handlers.Ends .message := same ▸ messages
    obtain ⟨s₃, delivered⟩ := s₂.gathers_dispatchAll (e := .message payload) messages' b
    have both := (told.trans delivered).silent (.notice _) trivial rfl
    exact ⟨s₃, (both.act (.qrCode _) trivial).silent (.notice _) trivial rfl⟩
  · simp only [scanned]
    let s₁ := s.act (.notice (.messageType (Payload.typeTag payload)))
    obtain ⟨s₂, delivered⟩ := s₁.gathers_dispatchAll (e := .message payload) messages b
    exact ⟨s₂, delivered.silent (.notice _) trivial rfl⟩

/-- A frame is taken, whatever is in it. -/
theorem gathers_onMessage (f : Frame) (messages : s.handlers.Ends .message)
    (scans : s.handlers.Ends .qrCode)
    (reports : ∀ h ∈ c.registry.callbacks .payload, h.Ends) (b : Activity) :
    ∃ s', s.Gathers (c.onMessage f b) (Frame.hauls [f]) s' b := by
  let s₁ := (s.act (.received f.content)).act (.notice (.received f.content))
  have receives {a : Activity} {x : Haul} {s' : Scene} (rest : s₁.Gathers a x s' b) :
      s.Gathers (.act (.received f.content) (.act (.notice (.received f.content)) a))
        ({ received := [f.content] } ++ x) s' b :=
    (rest.silent (.notice _) trivial rfl).act (.received _) trivial
  cases decoded : Payload.decode f.content with
  | ok payload =>
    obtain ⟨s', taken⟩ := gathers_onPayload (s := s₁) payload messages scans b
    refine ⟨s', ?_⟩
    rw [Frame.hauls_of_ok decoded]
    simp only [onMessage, decoded]
    exact receives taken
  | error fault =>
    let incident := payloadIncident f.content fault
    obtain ⟨s₂, reported⟩ := Scene.gathers_handle (r := c.registry) (i := incident) reports
      (s₁.act (.notice (.undecodable f.content fault))) (.act (.recorded incident) b)
    have recorded := (Scene.Gathers.refl (s₂.act (.recorded incident)) b).act (.recorded _) trivial
    refine ⟨s₂.act (.recorded incident), ?_⟩
    rw [Frame.hauls_of_error decoded]
    simp only [onMessage, decoded]
    exact receives ((reported.trans recorded).silent (.notice _) trivial rfl)

/-- A step of the server that delivers a frame. -/
def delivery (d : Wait × Frame) : ServerStep :=
  { after := d.1, act := .frame d.2 }

/-- A frame that is waited for arrives on a connection that is not closed. -/
theorem gathers_listen {socket : Option Nat} {wait : Wait} (live : s.trace.isClosed socket = false)
    (ends : wait ≠ .forever) (arrived closed : Activity) :
    ∃ s', s.Gathers (.listen socket wait arrived closed) {} s' arrived := by
  cases wait with
  | none =>
    refine ⟨s, .refl s, ?_⟩
    intro limit others _
    simp [Activity.run, live]
  | seconds length nonneg =>
    refine ⟨{ s with now := s.now + length }, .wait s (by linarith), ?_⟩
    intro limit others soon
    simp only [Activity.run, live, Bool.false_eq_true, if_false, Scene.elapse_zero]
    rw [if_pos soon]
  | forever => exact absurd rfl ends

/-- Delivered frames are taken one after another, and the session goes on with the rest. -/
theorem gathers_receiveFrom (socket : Nat) (rest : List ServerStep)
    (reports : ∀ h ∈ c.registry.callbacks .payload, h.Ends)
    (deliveries : List (Wait × Frame)) :
    ∀ s : Scene, s.trace.isClosed (some socket) = false → s.handlers.Ends .message →
      s.handlers.Ends .qrCode → (∀ d ∈ deliveries, d.1 ≠ .forever) →
      ∃ s', s.Gathers (c.receiveFrom socket (deliveries.map delivery ++ rest))
        (Frame.hauls (deliveries.map (·.2))) s' (c.receiveFrom socket rest) := by
  induction deliveries with
  | nil =>
    intro s _ _ _ _
    exact ⟨s, .refl s _⟩
  | cons d more ih =>
    intro s live messages scans arrive
    let onward := c.receiveFrom socket (more.map delivery ++ rest)
    obtain ⟨s₁, arrived⟩ := gathers_listen live (arrive d List.mem_cons_self)
      (c.onMessage d.2 onward) ending
    have same₁ := arrived.1.handlers_eq
    obtain ⟨s₂, taken⟩ := gathers_onMessage (s := s₁) d.2 (same₁ ▸ messages) (same₁ ▸ scans) reports
      onward
    have same₂ : s₂.handlers = s.handlers := taken.1.handlers_eq.trans same₁
    have live₂ : s₂.trace.isClosed (some socket) = false := by
      rw [taken.1.isClosed_eq, arrived.1.isClosed_eq]
      exact live
    obtain ⟨s₃, others⟩ := ih s₂ live₂ (same₂ ▸ messages) (same₂ ▸ scans)
      fun x inside => arrive x (List.mem_cons_of_mem d inside)
    refine ⟨s₃, ?_⟩
    have hauls : Frame.hauls ((d :: more).map (·.2)) =
        {} ++ Frame.hauls [d.2] ++ Frame.hauls (more.map (·.2)) :=
      Frame.hauls_append [d.2] _
    rw [hauls]
    exact (arrived.trans taken).trans others

end Client

end BoxProbe
