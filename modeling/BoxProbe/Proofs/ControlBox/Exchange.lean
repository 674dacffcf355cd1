/-
Module: BoxProbe.Proofs.ControlBox.Exchange
Purpose: What a control box sends on a connection, frame by frame.
Trusted boundary: none
Main exports: BoxState.taking, BoxState.replies, BoxState.Valid, ControlBox.connect_exchange
-/
import BoxProbe.ControlBox.Server
import BoxProbe.Proofs.Protocol.Message
import Mathlib.Data.List.Infix

namespace BoxProbe

/-!
What a frame does to a box is said here once more, by the number of its message: which value it
sets, and what is sent for it.  The steps of a connection are then the greeting and, for every
frame, what is said of it in the state that the frames before it have left, followed by an
acknowledgement.
-/

/-- The message that a frame reads as, if it reads as one. -/
def Frame.message? (f : Frame) : Option Message :=
  match Message.parse f.content with
  | .ok m => m
  | .error _ => none

theorem Frame.parse_of_message? {f : Frame} {m : Message} (h : f.message? = some m) :
    Message.parse f.content = .ok (some m) := by
  unfold message? at h
  split at h
  next parsed => rw [parsed, h]
  next => cases h

namespace BoxState

/-- The acknowledgement of a frame. -/
def acknowledgement : Message := { type := 2 }

/-- The QR code and the values that a box holds. -/
def greeting (s : BoxState) (qrText : String) : List Message :=
  [{ type := 1, text := qrText },
    { type := 7, useCase := "LPC", limit := s.consumptionLimit },
    { type := 9, useCase := "LPP", limit := s.productionLimit },
    { type := 11, useCase := "LPC", value := s.consumptionFailsafeValue },
    { type := 13, useCase := "LPC", value := s.consumptionFailsafeDuration },
    { type := 15, useCase := "LPP", value := s.productionFailsafeValue },
    { type := 17, useCase := "LPP", value := s.productionFailsafeDuration }]

/-- What a box holds after a message.  Each value has one type of message that sets it. -/
def setting (s : BoxState) (m : Message) : BoxState where
  consumptionLimit := if m.type = 6 then m.limit else s.consumptionLimit
  productionLimit := if m.type = 8 then m.limit else s.productionLimit
  consumptionFailsafeValue := if m.type = 10 then m.value else s.consumptionFailsafeValue
  consumptionFailsafeDuration := if m.type = 12 then m.value else s.consumptionFailsafeDuration
  productionFailsafeValue := if m.type = 14 then m.value else s.productionFailsafeValue
  productionFailsafeDuration := if m.type = 16 then m.value else s.productionFailsafeDuration
  entities := s.entities

/-- What a box holds after a frame. -/
def taking (s : BoxState) (f : Frame) : BoxState :=
  match f.message? with
  | none => s
  | some m => s.setting m

/-- What a box sends for a frame before the acknowledgement, if it holds `s` when the frame
arrives. -/
def replies (s : BoxState) (qrText : String) (f : Frame) : List Message :=
  match f.message? with
  | none => []
  | some m =>
    if m.type = 4 then [{ type := 4, entities := some s.entities }]
    else if m.type = 5 then s.greeting qrText
    else if m.type = 6 then [{ type := 7, useCase := "LPC", limit := m.limit }]
    else if m.type = 8 then [{ type := 9, useCase := "LPP", limit := m.limit }]
    else []

end BoxState

/-! ### Steps -/

namespace BoxStep

@[simp]
theorem sent_append (before behind : List BoxStep) :
    sent (before ++ behind) = sent before ++ sent behind :=
  List.filterMap_append

@[simp]
theorem received_append (before behind : List BoxStep) :
    received (before ++ behind) = received before ++ received behind :=
  List.filterMap_append

@[simp]
theorem held_append (s : BoxState) (before behind : List BoxStep) :
    held s (before ++ behind) = held (held s before) behind :=
  List.foldl_append

/-- Steps whose messages can be written are all done if no send fails. -/
theorem perform_of_writable {steps : List BoxStep} (h : ∀ m ∈ sent steps, m.isWritable = true)
    (succeeded : Nat) : perform none succeeded steps = (steps, none) := by
  induction steps generalizing succeeded with
  | nil => rfl
  | cons step rest ih =>
    cases step with
    | send m =>
      have later : ∀ m ∈ sent rest, m.isWritable = true := fun n mem =>
        h n (List.mem_cons_of_mem m mem)
      have short : m.isWritable = true := h m List.mem_cons_self
      have accepted : refusal? none succeeded m = none := by
        rw [refusal?, if_pos short]
      rw [perform, accepted, ih later]
    | log | receive | hold =>
      rw [perform, ih h]
      rintro m ⟨⟩

end BoxStep

namespace BoxState

/-! ### One frame -/

theorem requestOf_content (f : Frame) :
    requestOf f.content = f.message?.getD (Message.ofType .text) := by
  unfold requestOf Frame.message?
  cases Message.parse f.content with
  | error fault => rfl
  | ok m => cases m <;> rfl

theorem after_eq_setting (s : BoxState) (m : Message) : s.after m = s.setting m := by
  unfold after setting
  split <;> simp_all [Message.messageType?_eq_some, MessageType.code]

theorem after_requestOf (s : BoxState) (f : Frame) :
    s.after (requestOf f.content) = s.taking f := by
  rw [requestOf_content, after_eq_setting, taking]
  cases f.message? <;> rfl

theorem sent_sendData (s : BoxState) (qrText : String) :
    BoxStep.sent (s.sendData qrText) = s.greeting qrText :=
  rfl

theorem sent_reply (s : BoxState) (qrText : String) (m : Message) :
    BoxStep.sent ((s.setting m).reply qrText m) =
      if m.type = 4 then [{ type := 4, entities := some s.entities }]
      else if m.type = 5 then s.greeting qrText
      else if m.type = 6 then [{ type := 7, useCase := "LPC", limit := m.limit }]
      else if m.type = 8 then [{ type := 9, useCase := "LPP", limit := m.limit }]
      else [] := by
  unfold reply
  split
  next known =>
    have type : m.type = 4 := Message.messageType?_eq_some.mp known
    rw [if_pos type]
    rfl
  next known =>
    have type : m.type = 5 := Message.messageType?_eq_some.mp known
    have same : s.setting m = s := by simp [setting, type]
    rw [same, if_neg (by omega), if_pos type, sent_sendData]
  next known =>
    have type : m.type = 6 := Message.messageType?_eq_some.mp known
    have limit : (s.setting m).consumptionLimit = m.limit := if_pos type
    rw [if_neg (by omega), if_neg (by omega), if_pos type, consumptionLimitMessage, limit]
    rfl
  next known =>
    have type : m.type = 8 := Message.messageType?_eq_some.mp known
    have limit : (s.setting m).productionLimit = m.limit := if_pos type
    rw [if_neg (by omega), if_neg (by omega), if_neg (by omega), if_pos type,
      productionLimitMessage, limit]
    rfl
  all_goals simp_all [Message.messageType?_eq_some, MessageType.code, BoxStep.sent]

theorem received_reply (s : BoxState) (qrText : String) (m : Message) :
    BoxStep.received (s.reply qrText m) = [] := by
  unfold reply
  split <;> rfl

theorem held_reply (held s : BoxState) (qrText : String) (m : Message) :
    BoxStep.held held (s.reply qrText m) = held := by
  unfold reply
  split <;> rfl

/-- The messages that a box sends in answer to a frame. -/
theorem sent_answer (s : BoxState) (qrText : String) (f : Frame) :
    BoxStep.sent (s.answer qrText f.content) = s.replies qrText f := by
  rw [answer, after_requestOf, requestOf_content, taking, replies]
  cases f.message? with
  | none => rfl
  | some m => exact sent_reply s qrText m

theorem received_answer (s : BoxState) (qrText raw : String) :
    BoxStep.received (s.answer qrText raw) = [] :=
  received_reply (s.after (requestOf raw)) qrText (requestOf raw)

/-- The values that a box holds when it has answered a frame. -/
theorem held_answer (held s : BoxState) (qrText : String) (f : Frame) :
    BoxStep.held held (s.answer qrText f.content) = s.taking f := by
  rw [← after_requestOf]
  exact held_reply (s.after (requestOf f.content)) _ qrText _

/-! ### A connection -/

/-- What a box holds after frames. -/
def holding (s : BoxState) (frames : List Frame) : BoxState :=
  frames.foldl taking s

/-- What a box sends after its greeting: for every frame, with the state that the frames before it
have left, the replies and then the acknowledgement. -/
def exchange (s : BoxState) (qrText : String) (frames : List Frame) : List Message :=
  (frames.inits.zip frames).flatMap fun p =>
    (s.holding p.1).replies qrText p.2 ++ [acknowledgement]

theorem exchange_cons (s : BoxState) (qrText : String) (f : Frame) (frames : List Frame) :
    s.exchange qrText (f :: frames) =
      s.replies qrText f ++ acknowledgement :: (s.taking f).exchange qrText frames := by
  simp [exchange, List.zip_map_left, List.flatMap_map, holding]

theorem sent_serve (s : BoxState) (qrText : String) (frames : List Frame) :
    BoxStep.sent (serve qrText s frames) = s.exchange qrText frames := by
  induction frames generalizing s with
  | nil => rfl
  | cons f frames ih =>
    have served : BoxStep.sent (serve qrText s (f :: frames)) =
        BoxStep.sent (s.answer qrText f.content ++ .send acknowledgement ::
          serve qrText (s.after (requestOf f.content)) frames) := rfl
    rw [served, exchange_cons, BoxStep.sent_append, sent_answer, after_requestOf, ← ih]
    rfl

theorem received_serve (s : BoxState) (qrText : String) (frames : List Frame) :
    BoxStep.received (serve qrText s frames) = frames.map Frame.content := by
  induction frames generalizing s with
  | nil => rfl
  | cons f frames ih =>
    have served : BoxStep.received (serve qrText s (f :: frames)) = f.content ::
        BoxStep.received (s.answer qrText f.content ++ .send acknowledgement ::
          serve qrText (s.after (requestOf f.content)) frames) := rfl
    rw [served, BoxStep.received_append, received_answer, List.map_cons, ← ih]
    rfl

theorem held_serve (s : BoxState) (qrText : String) (frames : List Frame) :
    BoxStep.held s (serve qrText s frames) = s.holding frames := by
  induction frames generalizing s with
  | nil => rfl
  | cons f frames ih =>
    have served : BoxStep.held s (serve qrText s (f :: frames)) =
        BoxStep.held s (s.answer qrText f.content ++ .send acknowledgement ::
          serve qrText (s.after (requestOf f.content)) frames) := rfl
    rw [served, BoxStep.held_append, held_answer, after_requestOf]
    exact ih (s.taking f)

theorem sent_converse (s : BoxState) (qrText : String) (frames : List Frame) :
    BoxStep.sent (s.converse qrText frames) = s.greeting qrText ++ s.exchange qrText frames :=
  congrArg (s.greeting qrText ++ ·) (sent_serve s qrText frames)

/-! ### Values that can be written -/

/-- A state whose limits have durations that are short enough to be written. -/
structure Valid (s : BoxState) : Prop where
  consumption : Numeral.isWritable s.consumptionLimit.duration = true
  production : Numeral.isWritable s.productionLimit.duration = true

theorem writable_greeting {s : BoxState} (valid : s.Valid) (qrText : String) :
    ∀ m ∈ s.greeting qrText, m.isWritable = true := by
  simp only [greeting, Message.isWritable, List.forall_mem_cons, valid.consumption,
    valid.production]
  decide

theorem Valid.setting {s : BoxState} (valid : s.Valid) {m : Message} (short : m.isWritable = true) :
    (s.setting m).Valid := by
  have duration := (Bool.and_eq_true_iff.mp short).2
  refine ⟨?_, ?_⟩
  · show Numeral.isWritable (if m.type = 6 then m.limit else s.consumptionLimit).duration = true
    split
    · exact duration
    · exact valid.consumption
  · show Numeral.isWritable (if m.type = 8 then m.limit else s.productionLimit).duration = true
    split
    · exact duration
    · exact valid.production

theorem Valid.taking {s : BoxState} (valid : s.Valid) (f : Frame) : (s.taking f).Valid := by
  unfold BoxState.taking
  split
  next => exact valid
  next m read => exact valid.setting (Message.writable_of_parse (Frame.parse_of_message? read)).1

theorem Valid.holding {s : BoxState} (valid : s.Valid) (frames : List Frame) :
    (s.holding frames).Valid := by
  induction frames generalizing s with
  | nil => exact valid
  | cons f frames ih => exact ih (valid.taking f)

theorem writable_replies {s : BoxState} (valid : s.Valid) (qrText : String) (f : Frame) :
    ∀ m ∈ s.replies qrText f, m.isWritable = true := by
  unfold replies
  split
  next => simp
  next m read =>
    have short := (Message.writable_of_parse (Frame.parse_of_message? read)).1
    have duration := (Bool.and_eq_true_iff.mp short).2
    split_ifs
    · simp only [List.forall_mem_singleton, Message.isWritable]
      decide
    · exact writable_greeting valid qrText
    · simp only [List.forall_mem_singleton, Message.isWritable, duration]
      decide
    · simp only [List.forall_mem_singleton, Message.isWritable, duration]
      decide
    · simp

theorem writable_exchange {s : BoxState} (valid : s.Valid) (qrText : String) (frames : List Frame) :
    ∀ m ∈ s.exchange qrText frames, m.isWritable = true := by
  induction frames generalizing s with
  | nil => simp [exchange]
  | cons f frames ih =>
    have acknowledged : acknowledgement.isWritable = true := by decide
    rw [exchange_cons]
    exact List.forall_mem_append.mpr ⟨writable_replies valid qrText f,
      List.forall_mem_cons.mpr ⟨acknowledged, ih (valid.taking f)⟩⟩

theorem writable_converse {s : BoxState} (valid : s.Valid) (qrText : String)
    (frames : List Frame) :
    ∀ m ∈ BoxStep.sent (s.converse qrText frames), m.isWritable = true := by
  rw [sent_converse]
  exact List.forall_mem_append.mpr
    ⟨writable_greeting valid qrText, writable_exchange valid qrText frames⟩

/-! ### Messages that are read back -/

theorem joined_greeting (s : BoxState) (qrText : String) :
    ∀ m ∈ s.greeting qrText, m.IsJoined := by
  have plain {m : Message} (text : m.text.Joined) (useCase : m.useCase.Joined)
      (none : m.entities = none) : m.IsJoined := ⟨text, useCase, by simp [none]⟩
  have lpc := Text.joined_ofString "LPC"
  have lpp := Text.joined_ofString "LPP"
  simp only [greeting, List.forall_mem_cons]
  exact ⟨plain (Text.joined_ofString qrText) .nil rfl, plain .nil lpc rfl, plain .nil lpp rfl,
    plain .nil lpc rfl, plain .nil lpc rfl, plain .nil lpp rfl, plain .nil lpp rfl, by simp⟩

theorem entities_taking (s : BoxState) (f : Frame) : (s.taking f).entities = s.entities := by
  unfold taking
  split <;> rfl

theorem joined_replies {s : BoxState} (entities : ∀ e ∈ s.entities, e.IsJoined) (qrText : String)
    (f : Frame) : ∀ m ∈ s.replies qrText f, m.IsJoined := by
  unfold replies
  split
  next => simp
  next m read =>
    split_ifs
    · rw [List.forall_mem_singleton]
      exact ⟨.nil, .nil, by simpa using entities⟩
    · exact joined_greeting s qrText
    · rw [List.forall_mem_singleton]
      exact ⟨.nil, Text.joined_ofString "LPC", by simp⟩
    · rw [List.forall_mem_singleton]
      exact ⟨.nil, Text.joined_ofString "LPP", by simp⟩
    · simp

theorem joined_exchange {s : BoxState} (entities : ∀ e ∈ s.entities, e.IsJoined) (qrText : String)
    (frames : List Frame) : ∀ m ∈ s.exchange qrText frames, m.IsJoined := by
  induction frames generalizing s with
  | nil => simp [exchange]
  | cons f frames ih =>
    have acknowledged : acknowledgement.IsJoined := ⟨.nil, .nil, by simp [acknowledgement]⟩
    rw [exchange_cons]
    exact List.forall_mem_append.mpr ⟨joined_replies entities qrText f,
      List.forall_mem_cons.mpr ⟨acknowledged, ih (entities_taking s f ▸ entities)⟩⟩

/-! ### Acknowledgements -/

/-- No reply is an acknowledgement. -/
theorem type_ne_of_mem_replies (s : BoxState) (qrText : String) (f : Frame) :
    ∀ m ∈ s.replies qrText f, m.type ≠ 2 := by
  unfold replies
  split
  next => simp
  next => split_ifs <;> simp [greeting]

theorem count_acknowledgements (s : BoxState) (qrText : String) (frames : List Frame) :
    (s.exchange qrText frames).countP (fun m => m.type = 2) = frames.length := by
  induction frames generalizing s with
  | nil => rfl
  | cons f frames ih =>
    have none : (s.replies qrText f).countP (fun m => m.type = 2) = 0 := by
      simpa [List.countP_eq_zero] using s.type_ne_of_mem_replies qrText f
    rw [exchange_cons, List.countP_append, none, List.countP_cons_of_pos (by decide), ih,
      List.length_cons, Nat.zero_add]

end BoxState

namespace ControlBox

variable {b : ControlBox} {client : BoxClient}

theorem box_closeQuietly (r : BoxReport) : (closeQuietly r).box = r.box := by
  unfold closeQuietly
  split
  next => split <;> rfl
  next => rfl

theorem sent_closeQuietly (r : BoxReport) : (closeQuietly r).sent = r.sent := by
  unfold closeQuietly
  split
  next => split <;> rfl
  next => rfl

theorem failure_closeQuietly (r : BoxReport) (h : ∀ f ∈ r.failure, f.isClosed = true) :
    (closeQuietly r).failure = none := by
  unfold closeQuietly
  split
  next f failed => rw [if_pos (h f failed)]
  next ended => exact ended

/-- All steps of a connection are done if its sends succeed. -/
theorem performing_converse (valid : b.state.Valid) (frames : List Frame) :
    BoxStep.perform none 0 (b.state.converse b.qrText frames) =
      (b.state.converse b.qrText frames, none) :=
  BoxStep.perform_of_writable (BoxState.writable_converse valid b.qrText frames) 0

theorem sent_connect (valid : b.state.Valid) (sends : client.sendFailure = none) :
    (b.connect client).sent =
      b.state.greeting b.qrText ++ b.state.exchange b.qrText client.frames := by
  rw [← BoxState.sent_converse, connect, sent_closeQuietly, sends]
  simp only [performing, performing_converse valid]

theorem received_connect (valid : b.state.Valid) (sends : client.sendFailure = none) :
    (b.connect client).box.received = b.received ++ client.frames.map Frame.content := by
  rw [← BoxState.received_serve b.state b.qrText, connect, box_closeQuietly, sends]
  simp only [performing, performing_converse valid]
  rfl

theorem state_connect (valid : b.state.Valid) (sends : client.sendFailure = none) :
    (b.connect client).box.state = b.state.holding client.frames := by
  rw [← BoxState.held_serve b.state b.qrText, connect, box_closeQuietly, sends]
  simp only [performing, performing_converse valid]
  rfl

theorem qrText_connect : (b.connect client).box.qrText = b.qrText := by
  rw [connect, box_closeQuietly]
  rfl

theorem failure_connect (valid : b.state.Valid) (sends : client.sendFailure = none)
    (ends : ∀ f ∈ client.failure, f.isClosed = true) : (b.connect client).failure = none := by
  apply failure_closeQuietly
  rw [sends]
  simpa only [performing, performing_converse valid, Option.none_or] using ends

/-- Every text that is sent has the type of its message. -/
theorem typeTag_connect (valid : b.state.Valid) (sends : client.sendFailure = none) :
    (b.connect client).texts.map (fun text => (Payload.decode text).map Payload.typeTag) =
      (b.connect client).sent.map fun m => .ok (.int m.type) := by
  have short := BoxState.writable_converse valid b.qrText client.frames
  rw [BoxState.sent_converse, ← sent_connect valid sends] at short
  rw [BoxReport.texts, List.map_map]
  exact List.map_congr_left fun m mem => Message.typeTag_wire (short m mem)

/-- Every text that is sent reads as its message. -/
theorem parse_connect (valid : b.state.Valid) (entities : ∀ e ∈ b.state.entities, e.IsJoined)
    (sends : client.sendFailure = none) :
    (b.connect client).texts.map Message.parse =
      (b.connect client).sent.map fun m => .ok (some m) := by
  have short := BoxState.writable_converse valid b.qrText client.frames
  have joined := List.forall_mem_append.mpr ⟨b.state.joined_greeting b.qrText,
    BoxState.joined_exchange entities b.qrText client.frames⟩
  rw [BoxState.sent_converse] at short
  rw [BoxReport.texts, List.map_map, sent_connect valid sends]
  exact List.map_congr_left fun m mem => Message.parse_wire (short m mem) (joined m mem)

/-- On a connection whose sends succeed and whose frames end, a box sends its greeting and then, for
every frame, its replies in the state that the frames before it have left and one acknowledgement.
Each goes out as a text that has the type of its message and reads as the message, if no text of an
entity has a pair of surrogates.  The box fails at no frame, and takes down all of them. -/
theorem connect_exchange (b : ControlBox) (client : BoxClient) (valid : b.state.Valid)
    (sends : client.sendFailure = none) (ends : ∀ f ∈ client.failure, f.isClosed = true) :
    (b.connect client).failure = none ∧
      (b.connect client).sent = b.state.greeting b.qrText ++
        (client.frames.inits.zip client.frames).flatMap (fun (before, f) =>
          (b.state.holding before).replies b.qrText f ++ [BoxState.acknowledgement]) ∧
      (b.connect client).texts.map (fun text => (Payload.decode text).map Payload.typeTag) =
        (b.connect client).sent.map (fun m => .ok (.int m.type)) ∧
      ((∀ e ∈ b.state.entities, e.IsJoined) → (b.connect client).texts.map Message.parse =
        (b.connect client).sent.map fun m => .ok (some m)) ∧
      (b.connect client).sent.countP (fun m => m.type = 2) = client.frames.length ∧
      (∀ before : List Frame, ∀ f ∈ client.frames,
        ∀ m ∈ (b.state.holding before).replies b.qrText f, m.type ≠ 2) ∧
      (b.connect client).box.received = b.received ++ client.frames.map Frame.content := by
  have sent := sent_connect valid sends
  have greeted : (b.state.greeting b.qrText).countP (fun m => m.type = 2) = 0 := by
    simp [BoxState.greeting]
  refine ⟨failure_connect valid sends ends, sent, typeTag_connect valid sends,
    fun entities => parse_connect valid entities sends, ?_, ?_, received_connect valid sends⟩
  · rw [sent, List.countP_append, greeted, BoxState.count_acknowledgements, Nat.zero_add]
  · exact fun before f _ => (b.state.holding before).type_ne_of_mem_replies b.qrText f

/-- A limit is set, a frame is no text, and all data are asked for, on a connection that breaks. -/
theorem connect_exchange_broken :
    let client : BoxClient :=
      { frames := [.text "\x7b\"Type\": \"6\", \"Limit\": \x7b\"Value\": 1.5\x7d\x7d",
          .binary [0xFF], .text "\x7b\"type\": 5\x7d"]
        failure := some (.closed false none none none) }
    let r := ({} : ControlBox).connect client
    r.failure = none ∧
      r.sent.map Message.type =
        [1, 7, 9, 11, 13, 15, 17, 7, 2, 2, 1, 7, 9, 11, 13, 15, 17, 2] ∧
      r.texts.map Message.parse = r.sent.map fun m => .ok (some m) := by
  intro client r
  obtain ⟨quiet, sent, -, read, -⟩ :=
    connect_exchange {} client ⟨by decide, by decide⟩ rfl (by decide)
  have joined : demoEntity.IsJoined :=
    ⟨Text.joined_ofString _, Text.joined_ofString _, by simp [demoEntity, Text.joined_ofString]⟩
  refine ⟨quiet, ?_, read (List.forall_mem_singleton.mpr joined)⟩
  rw [sent]
  decide +kernel

end ControlBox

end BoxProbe
