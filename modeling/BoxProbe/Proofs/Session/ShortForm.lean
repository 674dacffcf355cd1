/-
Module: BoxProbe.Proofs.Session.ShortForm
Purpose: Requests that hold only a type, and the messages that they stand for in full.
Trusted boundary: none
Main exports: Payload.decode_buildRequest, Message.parse_buildRequest, ControlBox.state_performing,
  buildRequest_agrees
-/
import BoxProbe.Proofs.ControlBox.Interruption
import BoxProbe.Proofs.Session.Agreement

namespace BoxProbe

/-!
A probe writes a request with nothing but its type; a box would write all fields.  A request is read
with the values that stand for "does not apply", and these are what the full form writes out.  So
both forms are the same message to a box, and they have the same raw type for a probe.
-/

/-- A request that can be written is decoded as an object with only its type. -/
theorem Payload.decode_buildRequest {n : Int} (short : Numeral.isWritable n = true) :
    Payload.decode (buildRequest n) = .ok (.obj [(Message.typeName.key .wire, .int n)]) := by
  have request : Json.ofFields [("Type", .int n)] =
      .obj [(Message.typeName.key .wire, .int n)] := rfl
  have fits : (Json.obj [(Message.typeName.key .wire, .int n)]).Fits Json.maxDepth :=
    ⟨List.nodup_singleton _, List.forall_mem_singleton.mpr ⟨Text.joined_ofString _, short⟩⟩
  rw [decode, buildRequest, request, Json.render, String.toList_ofList, Json.read_chars fits]
  rfl

/-- It is read as a message of that type whose other fields do not apply. -/
theorem Message.parse_buildRequest {n : Int} (short : Numeral.isWritable n = true) :
    Message.parse (buildRequest n) = .ok (some { type := n }) := by
  rw [parse, Payload.decode_buildRequest short]
  rfl

/-- A message of which only the type applies can be written if the type can. -/
theorem Message.isWritable_of_type {n : Int} (short : Numeral.isWritable n = true) :
    ({ type := n } : Message).isWritable = true := by
  have none : Numeral.isWritable 0 = true := by decide
  exact Bool.and_eq_true_iff.mpr ⟨short, none⟩

namespace ControlBox

/-- What a box holds when it has answered a request, however early a send fails. -/
theorem state_performing (b : ControlBox) (failing : Option (Nat × Failure)) (raw : String) :
    (b.performing failing (b.state.answer b.qrText raw)).box.state =
      b.state.setting (BoxState.requestOf raw) := by
  let m := BoxState.requestOf raw
  let reply := (b.state.after m).reply b.qrText m
  obtain ⟨lost, whole⟩ := BoxStep.perform_prefix failing 0 reply
  have tells : ∀ step ∈ (BoxStep.perform failing 0 reply).1, step.Tells := fun step mem =>
    BoxState.tells_reply _ _ _ step (whole ▸ List.mem_append_left lost mem)
  rw [← BoxState.after_eq_setting]
  exact BoxStep.held_of_tells tells (b.state.after m)

end ControlBox

/-- A request with nothing but a type is the same as the message of that type written in full, for
every type that can be written.  Both are read as the message; their raw type is its number; and a
box, whatever it holds and whenever a send fails, does the same for both.  The six messages that set
a value set it to one that stands for "does not apply". -/
theorem buildRequest_agrees (n : Int) (short : n.natAbs < 10 ^ maxIntDigits) :
    let full : Message := { type := n }
    Message.parse (buildRequest n) = .ok (some full) ∧
      Message.parse full.wire = .ok (some full) ∧
      (Payload.decode (buildRequest n)).map Payload.typeTag = .ok (.int n) ∧
      (Payload.decode full.wire).map Payload.typeTag = .ok (.int n) ∧
      ∀ b : ControlBox,
        b.request (buildRequest n) = b.request full.wire ∧
        ∀ failing : Option (Nat × Failure),
          let asked := b.performing failing (b.state.answer b.qrText (buildRequest n))
          asked = b.performing failing (b.state.answer b.qrText full.wire) ∧
          asked.box.state =
            { consumptionLimit := if n = 6 then {} else b.state.consumptionLimit
              productionLimit := if n = 8 then {} else b.state.productionLimit
              consumptionFailsafeValue :=
                if n = 10 then Double.signedZero false else b.state.consumptionFailsafeValue
              consumptionFailsafeDuration :=
                if n = 12 then Double.signedZero false else b.state.consumptionFailsafeDuration
              productionFailsafeValue :=
                if n = 14 then Double.signedZero false else b.state.productionFailsafeValue
              productionFailsafeDuration :=
                if n = 16 then Double.signedZero false else b.state.productionFailsafeDuration
              entities := b.state.entities } := by
  intro full
  have writable : Numeral.isWritable n = true := Numeral.isWritable_iff.mpr short
  have readShort := Message.parse_buildRequest writable
  have fullWritable : full.isWritable = true := Message.isWritable_of_type writable
  have readFull : Message.parse full.wire = .ok (some full) :=
    Message.parse_wire fullWritable ⟨.nil, .nil, by rintro es ⟨⟩⟩
  have request : BoxState.requestOf (buildRequest n) = full := by
    rw [BoxState.requestOf, readShort]
  have same : BoxState.requestOf full.wire = BoxState.requestOf (buildRequest n) := by
    rw [request, BoxState.requestOf, readFull]
  have answer (b : ControlBox) : b.state.answer b.qrText (buildRequest n) =
      b.state.answer b.qrText full.wire := by
    rw [BoxState.answer, BoxState.answer, same]
  refine ⟨readShort, readFull, ?_, Message.typeTag_wire fullWritable, fun b =>
    ⟨?_, fun failing => ⟨?_, ?_⟩⟩⟩
  · rw [Payload.decode_buildRequest writable]
    rfl
  · rw [ControlBox.request, ControlBox.request, answer]
  · rw [answer]
  · rw [b.state_performing failing, request]
    rfl

/-- A limit is set to none, and the longest number of all is read back. -/
theorem buildRequest_agrees_extremes :
    (({} : ControlBox).request (buildRequest 6)).box.state = { consumptionLimit := {} } ∧
      Message.parse (buildRequest (1 - 10 ^ 4300)) = .ok (some { type := 1 - 10 ^ 4300 }) := by
  have short : (1 - 10 ^ 4300 : Int).natAbs < 10 ^ maxIntDigits := by decide +kernel
  obtain ⟨-, -, -, -, six⟩ := buildRequest_agrees 6 (by decide +kernel)
  exact ⟨((six {}).2 none).2.trans (by simp), (buildRequest_agrees (1 - 10 ^ 4300) short).1⟩

end BoxProbe
