/-
Module: BoxProbe.Proofs.Session.Agreement
Purpose: A probe and a control box understand each other.
Trusted boundary: none
Main exports: Message.scanText?_wire, ControlBox.connect_requests, Client.agrees_with_box
-/
import BoxProbe.Proofs.ControlBox.Exchange
import BoxProbe.Proofs.Session.Opening

namespace BoxProbe

/-!
A probe reads less of a frame than a box writes: the raw type, and the text of a QR code.  Both are
where the probe looks for them in every message that a box can write, whatever its other fields
hold.  The requests of a probe set nothing, so what a box sends for them is fixed by its state.
-/

/-! ### What a probe reads of a message -/

namespace Message

variable {m : Message}

theorem rejection?_wire (short : m.isWritable = true) : (Frame.text m.wire).rejection? = none := by
  simp [Frame.rejection?, Frame.content, decode_wire short]

/-- Only messages of type one are QR codes; their text is that of the message. -/
theorem scanText?_wire (short : m.isWritable = true) :
    (Frame.text m.wire).scanText? = if m.type = 1 then some (.str m.text.joinPairs) else none := by
  have payload : (Frame.text m.wire).payload? = some (m.toJson .wire).joinPairs := by
    simp [Frame.payload?, Frame.content, decode_wire short, Except.toOption]
  have text : Payload.textOf (m.toJson .wire).joinPairs = .str m.text.joinPairs := rfl
  have code : Payload.isQrCode (m.toJson .wire).joinPairs = decide (m.type = 1) := rfl
  rw [Frame.scanText?, payload, Option.bind_some, Payload.scanText?_eq, text, code]
  simp

end Message

/-! ### What a box answers to a probe -/

namespace ControlBox

variable {b : ControlBox}

/-- What a box sends to a probe that asks for the entity list and for all data. -/
def answers (b : ControlBox) : List Message :=
  b.state.greeting b.qrText ++
    ({ type := 4, entities := some b.state.entities } :: BoxState.acknowledgement ::
      (b.state.greeting b.qrText ++ [BoxState.acknowledgement]))

/-- The requests of a probe are answered one after the other, and set nothing. -/
theorem connect_requests (valid : b.state.Valid) :
    let r := b.connect { frames := [.text (buildRequest 4), .text (buildRequest 5)] }
    r.failure = none ∧ r.box.state = b.state ∧ r.sent = b.answers := by
  have entities : (Frame.text (buildRequest 4)).message? = some { type := 4 } := by decide +kernel
  have all : (Frame.text (buildRequest 5)).message? = some { type := 5 } := by decide +kernel
  have still₄ : b.state.taking (.text (buildRequest 4)) = b.state := by
    simp [BoxState.taking, entities, BoxState.setting]
  have still₅ : b.state.taking (.text (buildRequest 5)) = b.state := by
    simp [BoxState.taking, all, BoxState.setting]
  have listed : b.state.replies b.qrText (.text (buildRequest 4)) =
      [{ type := 4, entities := some b.state.entities }] := by
    simp [BoxState.replies, entities]
  have shown : b.state.replies b.qrText (.text (buildRequest 5)) = b.state.greeting b.qrText := by
    simp [BoxState.replies, all]
  intro r
  refine ⟨failure_connect valid rfl (by simp), ?_, ?_⟩
  · have taken : b.state.holding [.text (buildRequest 4), .text (buildRequest 5)] =
        (b.state.taking (.text (buildRequest 4))).taking (.text (buildRequest 5)) := rfl
    rw [state_connect valid rfl, taken, still₄, still₅]
  · rw [sent_connect valid rfl, BoxState.exchange_cons, BoxState.exchange_cons, still₄, still₅,
      listed, shown]
    rfl

theorem writable_answers (valid : b.state.Valid) : ∀ m ∈ b.answers, m.isWritable = true := by
  let requests : BoxClient := { frames := [.text (buildRequest 4), .text (buildRequest 5)] }
  have sent : (b.connect requests).sent = b.answers := (connect_requests valid).2.2
  have served : (b.connect requests).sent = _ := sent_connect valid rfl
  rw [← sent, served, ← BoxState.sent_converse]
  exact BoxState.writable_converse valid b.qrText requests.frames

/-- What comes of the answers at a probe: it decodes all of them, and finds two QR codes. -/
theorem hauls_answers (valid : b.state.Valid) :
    let haul := Frame.hauls (b.answers.map fun m => .text m.wire)
    haul.received.map (fun raw => (Payload.decode raw).map Payload.typeTag) =
        [1, 7, 9, 11, 13, 15, 17, 4, 2, 1, 7, 9, 11, 13, 15, 17, 2].map (fun n => .ok (.int n)) ∧
      haul.qrCodes = [Json.ofString b.qrText, Json.ofString b.qrText] ∧ haul.errors = [] := by
  have short := writable_answers valid
  intro haul
  refine ⟨?_, ?_, ?_⟩
  · have types : haul.received.map (fun raw => (Payload.decode raw).map Payload.typeTag) =
        b.answers.map fun m => .ok (.int m.type) := by
      simp only [haul, Frame.hauls, List.map_map]
      refine List.map_congr_left fun m mem => ?_
      simp only [Function.comp_apply, Frame.content]
      exact Message.typeTag_wire (short m mem)
    rw [types]
    rfl
  · have texts : haul.qrCodes = b.answers.filterMap
        fun m => if m.type = 1 then some (.str m.text.joinPairs) else none := by
      simp only [haul, Frame.hauls, List.filterMap_map]
      refine List.filterMap_congr fun m mem => ?_
      rw [Function.comp_apply]
      exact Message.scanText?_wire (short m mem)
    have joined := (Text.joined_ofString b.qrText).joinPairs_eq
    rw [texts]
    simp [answers, BoxState.greeting, BoxState.acknowledgement, joined, Json.ofString]
  · simp only [haul, Frame.hauls, List.filterMap_eq_nil_iff, List.forall_mem_map]
    exact fun m mem => Message.rejection?_wire (short m mem)

end ControlBox

namespace Client

/-- A probe that has opened a connection to a box sends it two requests.  Whatever the box holds,
and whatever the handlers and the callbacks do as long as they end, the probe reads all seventeen
frames that the box sends on that connection: the greeting, the entity list and the greeting once
more, with an acknowledgement after each of the last two.  It finds the text of the QR code in both
greetings, and neither of the two fails. -/
theorem agrees_with_box (c : Client) (b : ControlBox) (s : Scene) (number : Nat) (conn : Socket)
    (next : Activity) (valid : b.state.Valid) (use : s.InUse number conn)
    (sends : conn.script.Sends) (opens : s.handlers.Ends .open)
    (messages : s.handlers.Ends .message) (scans : s.handlers.Ends .qrCode)
    (reports : ∀ h ∈ c.registry.callbacks .payload, h.Ends) :
    ∃ w₁ s₁, s.Goes (c.onOpen next) w₁ s₁ next ∧
      let r := b.connect { frames := (Trace.sent w₁).map .text }
      r.failure = none ∧ r.box.state = b.state ∧
        ∀ (deliveries : List (Wait × Frame)) (rest : List ServerStep),
          deliveries.map (·.2) = r.sent.map (fun m => .text m.wire) →
          (∀ d ∈ deliveries, d.1 ≠ .forever) →
          ∃ w₂ s₂,
            s₁.Goes (c.receiveFrom number (deliveries.map delivery ++ rest)) w₂ s₂
              (c.receiveFrom number rest) ∧
            (Trace.received (w₁ ++ w₂)).map (fun raw => (Payload.decode raw).map Payload.typeTag) =
              [1, 7, 9, 11, 13, 15, 17, 4, 2, 1, 7, 9, 11, 13, 15, 17, 2].map
                (fun n => .ok (.int n)) ∧
            Trace.qrCodes (w₁ ++ w₂) = [Json.ofString b.qrText, Json.ofString b.qrText] ∧
            Trace.errors (w₁ ++ w₂) = [] := by
  obtain ⟨w₁, s₁, conn₁, opened, use₁, sent, hauled⟩ := c.goes_onOpen next use sends opens
  obtain ⟨failure, state, answered⟩ := ControlBox.connect_requests valid
  have frames : [buildRequest 4, buildRequest 5].map Frame.text =
      [.text (buildRequest 4), .text (buildRequest 5)] := rfl
  refine ⟨w₁, s₁, opened, ?_⟩
  rw [sent, frames]
  refine ⟨failure, state, ?_⟩
  intro deliveries rest delivered arrive
  have same : s₁.handlers = s.handlers := opened.led.handlers
  obtain ⟨s₂, gathered⟩ := c.gathers_receiveFrom number rest reports deliveries s₁ use₁.isClosed_eq
    (same ▸ messages) (same ▸ scans) arrive
  obtain ⟨w₂, received, -, hauled₂⟩ := gathered.goes
  obtain ⟨types, texts, errors⟩ := ControlBox.hauls_answers valid
  have whole := Trace.haul_append w₁ w₂
  rw [hauled, hauled₂, delivered, answered] at whole
  obtain ⟨sameReceived, sameTexts, sameErrors⟩ := Trace.lists_of_haul whole
  refine ⟨w₂, s₂, received, ?_, ?_, ?_⟩
  · rw [sameReceived, types]
  · rw [sameTexts, texts]
  · rw [sameErrors, errors]

/-- A text and an entity beyond ASCII, a limit that is no number, and handlers that fail. -/
theorem agrees_with_box_failing :
    let failing : Callback := { label := "handler", failure := some (.ofMessage .type "") }
    let c : Client := { registry := [(none, failing)] }
    let b : ControlBox :=
      { qrText := "SHIP;SKI:ü😀;"
        state :=
          { consumptionLimit := { value := .nan }
            entities := [{ name := [0xD83D, 0xDE00] }] } }
    let s : Scene :=
      { handlers := [(.message, failing), (.qrCode, failing)]
        trace := [(0, .opened {}), (0, .becomes .open)] }
    ∃ w₁ s₁ w₂ s₂,
      s.Goes (c.onOpen .done) w₁ s₁ .done ∧
      s₁.Goes
        (c.receiveFrom 0 ((b.connect { frames := (Trace.sent w₁).map .text }).sent.map
          fun m => delivery (.zero, .text m.wire)))
        w₂ s₂ (c.receiveFrom 0 []) ∧
      Trace.qrCodes (w₁ ++ w₂) = [Json.ofString b.qrText, Json.ofString b.qrText] ∧
      Trace.errors (w₁ ++ w₂) = [] := by
  intro failing c b s
  have failingEnds : failing.Ends := Callback.ends_of_steady (fun _ _ => rfl) (by simp [failing])
  have ends (kind : EventKind) : s.handlers.Ends kind := by
    intro h inside
    cases kind <;> simp_all [s, Handlers.callbacks]
  have sends : ({} : Script).Sends := fun _ => ⟨show Wait.none ≠ .forever by decide, rfl⟩
  obtain ⟨w₁, s₁, opened, -, -, delivered⟩ := agrees_with_box c b s 0 { script := {} } .done
    ⟨by decide, by decide⟩ ⟨rfl, rfl⟩ sends (ends _) (ends _) (ends _)
    (by simpa [c, Registry.callbacks] using failingEnds)
  obtain ⟨w₂, s₂, received, -, texts, errors⟩ := delivered
    ((b.connect { frames := (Trace.sent w₁).map .text }).sent.map fun m => (.zero, .text m.wire)) []
    (by simp) (by simp [Wait.zero])
  refine ⟨w₁, s₁, w₂, s₂, opened, ?_, texts, errors⟩
  rwa [List.map_map, List.append_nil] at received

end Client

end BoxProbe
