/-
Module: BoxProbe.Proofs.ControlBox.Registers
Purpose: A control box shows the values that were written last, over all its connections.
Trusted boundary: none
Main exports: lastWritten, BoxState.holding_eq_overwritten, ControlBox.serving,
  ControlBox.reads_last_written
-/
import BoxProbe.Proofs.ControlBox.Exchange

namespace BoxProbe

/-!
Each of the six values of a box is a register with one type of message that writes it.  A frame
writes at most one of them, so after any frames every register holds what the last message of its
type has brought, and the entities are those from the start.
-/

/-- What the last message of a type among frames brings, or the initial value if there is none. -/
def lastWritten {α : Type} (type : Int) (field : Message → α) (initial : α)
    (frames : List Frame) : α :=
  let messages := (frames.filterMap Frame.message?).filter fun m => m.type = type
  (messages.getLast?.map field).getD initial

/-- The first frame is the initial value of those behind it. -/
theorem lastWritten_cons {α : Type} (type : Int) (field : Message → α) (initial : α) (f : Frame)
    (frames : List Frame) :
    lastWritten type field initial (f :: frames) =
      lastWritten type field
        (match f.message? with
          | none => initial
          | some m => if m.type = type then field m else initial) frames := by
  have later (m : Message) (ms : List Message) :
      ((m :: ms).getLast?.map field).getD initial = (ms.getLast?.map field).getD (field m) := by
    rw [List.getLast?_cons]
    cases ms.getLast? <;> rfl
  unfold lastWritten
  cases read : f.message? with
  | none => rw [List.filterMap_cons_none read]
  | some m =>
    rw [List.filterMap_cons_some read]
    by_cases writes : m.type = type
    · simp only [writes, if_true]
      rw [List.filter_cons_of_pos (by simpa using writes), later]
    · simp only [writes, if_false]
      rw [List.filter_cons_of_neg (by simpa using writes)]

namespace BoxState

/-- The values of a box, each overwritten by the last message among frames that writes it. -/
def overwritten (s : BoxState) (frames : List Frame) : BoxState where
  consumptionLimit := lastWritten 6 Message.limit s.consumptionLimit frames
  productionLimit := lastWritten 8 Message.limit s.productionLimit frames
  consumptionFailsafeValue := lastWritten 10 Message.value s.consumptionFailsafeValue frames
  consumptionFailsafeDuration := lastWritten 12 Message.value s.consumptionFailsafeDuration frames
  productionFailsafeValue := lastWritten 14 Message.value s.productionFailsafeValue frames
  productionFailsafeDuration := lastWritten 16 Message.value s.productionFailsafeDuration frames
  entities := s.entities

/-- After any frames every value is the one that was written last. -/
theorem holding_eq_overwritten (s : BoxState) (frames : List Frame) :
    s.holding frames = s.overwritten frames := by
  induction frames generalizing s with
  | nil => rfl
  | cons f frames ih =>
    have step : s.holding (f :: frames) = (s.taking f).holding frames := rfl
    rw [step, ih, overwritten, overwritten]
    simp only [lastWritten_cons]
    unfold taking
    cases f.message? <;> rfl

/-- The greeting is read back as it was sent. -/
theorem parse_greeting {s : BoxState} (valid : s.Valid) (qrText : String) :
    (s.greeting qrText).map (fun m => Message.parse m.wire) =
      (s.greeting qrText).map (fun m => .ok (some m)) :=
  List.map_congr_left fun m mem =>
    Message.parse_wire (writable_greeting valid qrText m mem) (joined_greeting s qrText m mem)

/-- A request for all data is answered with the greeting. -/
theorem replies_of_request {f : Frame} {m : Message} (read : f.message? = some m)
    (asks : m.type = 5) (s : BoxState) (qrText : String) :
    s.replies qrText f = s.greeting qrText := by
  simp [replies, read, asks]

/-- A request for all data sets nothing. -/
theorem taking_of_request {f : Frame} {m : Message} (read : f.message? = some m)
    (asks : m.type = 5) (s : BoxState) : s.taking f = s := by
  simp [taking, read, setting, asks]

theorem exchange_append (s : BoxState) (qrText : String) (before behind : List Frame) :
    s.exchange qrText (before ++ behind) =
      s.exchange qrText before ++ (s.holding before).exchange qrText behind := by
  induction before generalizing s with
  | nil => rfl
  | cons f before ih =>
    rw [List.cons_append, exchange_cons, exchange_cons, ih, List.append_assoc, List.cons_append]
    rfl

theorem holding_append (s : BoxState) (before behind : List Frame) :
    s.holding (before ++ behind) = (s.holding before).holding behind :=
  List.foldl_append

end BoxState

namespace ControlBox

/-- A box after connections, one after another. -/
def serving (b : ControlBox) (clients : List BoxClient) : ControlBox :=
  clients.foldl (fun b client => (b.connect client).box) b

/-- What a box holds after connections depends on their frames alone. -/
theorem state_serving {b : ControlBox} {clients : List BoxClient} (valid : b.state.Valid)
    (sends : ∀ client ∈ clients, client.sendFailure = none) :
    (b.serving clients).state = b.state.holding (clients.flatMap BoxClient.frames) := by
  induction clients generalizing b with
  | nil => rfl
  | cons client clients ih =>
    obtain ⟨first, others⟩ := List.forall_mem_cons.mp sends
    have state := state_connect valid first
    have still : (b.connect client).box.state.Valid := state ▸ valid.holding client.frames
    rw [List.flatMap_cons, BoxState.holding_append, ← state]
    exact ih still others

theorem qrText_serving (b : ControlBox) (clients : List BoxClient) :
    (b.serving clients).qrText = b.qrText := by
  induction clients generalizing b with
  | nil => rfl
  | cons client clients ih => exact (ih (b.connect client).box).trans qrText_connect

/-- All data that are asked for after any frames, on any connections, are read back as the values
that were written last. -/
theorem reads_last_written (b : ControlBox) (clients : List BoxClient) (last : BoxClient)
    (before : List Frame) (ask : Frame) (request : Message) (valid : b.state.Valid)
    (sends : ∀ client ∈ clients, client.sendFailure = none) (succeeds : last.sendFailure = none)
    (frames : last.frames = before ++ [ask]) (read : ask.message? = some request)
    (asks : request.type = 5) :
    let now := b.serving clients
    let held := b.state.overwritten (clients.flatMap BoxClient.frames ++ before)
    ∃ burst : List Message,
      (now.connect last).sent = (now.connect { last with frames := before }).sent ++
        burst ++ [BoxState.acknowledgement] ∧
      burst.map (fun m => Message.parse m.wire) =
        [.ok (some { type := 1, text := b.qrText }),
          .ok (some { type := 7, useCase := "LPC", limit := held.consumptionLimit }),
          .ok (some { type := 9, useCase := "LPP", limit := held.productionLimit }),
          .ok (some { type := 11, useCase := "LPC", value := held.consumptionFailsafeValue }),
          .ok (some { type := 13, useCase := "LPC", value := held.consumptionFailsafeDuration }),
          .ok (some { type := 15, useCase := "LPP", value := held.productionFailsafeValue }),
          .ok (some { type := 17, useCase := "LPP", value := held.productionFailsafeDuration })] ∧
      (now.connect last).box.state = held := by
  intro now held
  have state : now.state = b.state.holding (clients.flatMap BoxClient.frames) :=
    state_serving valid sends
  have still : now.state.Valid := state ▸ valid.holding _
  have reached : now.state.holding before = held := by
    rw [state, ← BoxState.holding_append, BoxState.holding_eq_overwritten]
  have writable : held.Valid := reached ▸ still.holding before
  have qrText : now.qrText = b.qrText := qrText_serving b clients
  refine ⟨held.greeting b.qrText, ?_, BoxState.parse_greeting writable b.qrText, ?_⟩
  · have shorter : ({ last with frames := before } : BoxClient).sendFailure = none := succeeds
    rw [sent_connect still succeeds, sent_connect still shorter, frames,
      BoxState.exchange_append, reached, BoxState.exchange_cons,
      BoxState.replies_of_request read asks, qrText]
    simp [BoxState.exchange]
  · rw [state_connect still succeeds, frames, BoxState.holding_append, reached]
    exact BoxState.taking_of_request read asks held

/-- Two connections write the duration for consumption, and a third one reads it. -/
theorem reads_last_written_duration :
    let clients : List BoxClient :=
      [{ frames := [.text "\x7b\"Type\": 12, \"Value\": 60\x7d", .binary [0x5B]] },
        { frames := [.text "\x7b\"type\": 12.0, \"value\": 90\x7d",
            .text "\x7b\"Type\": 14\x7d"] }]
    let last : BoxClient :=
      { frames := [.text "\x7b\"Type\": true\x7d", .text "\x7b\"Type\": 5\x7d"] }
    let now := ({} : ControlBox).serving clients
    ∃ burst : List Message,
      (now.connect last).sent = (now.connect { last with frames := last.frames.dropLast }).sent ++
        burst ++ [BoxState.acknowledgement] ∧
      (burst.map fun m => Message.parse m.wire)[4]? =
        some (.ok (some { type := 13, useCase := "LPC", value := Double.ofInt 90 })) := by
  intro clients last now
  obtain ⟨burst, sent, shown, -⟩ := reads_last_written {} clients last
    [.text "\x7b\"Type\": true\x7d"] (.text "\x7b\"Type\": 5\x7d") { type := 5 }
    ⟨by decide, by decide⟩ (by simp [clients]) rfl rfl (by decide +kernel) rfl
  refine ⟨burst, sent, ?_⟩
  rw [shown]
  decide +kernel

end ControlBox

end BoxProbe
