/-
Module: BoxProbe.Proofs.Session.BinaryFrames
Purpose: Binary frames at both ends of a connection: the text that they are decoded to.
Trusted boundary: none
Main exports: Client.run_onMessage, ControlBox.failure_connect_cases, Frame.ReadAs,
  Frame.binary_readAs
-/
import BoxProbe.Proofs.ControlBox.Interruption
import BoxProbe.Proofs.Session.Monitor
import BoxProbe.Proofs.Session.Opening
import BoxProbe.Proofs.Text.Utf8

namespace BoxProbe

/-!
Both ends of a connection look at nothing but the text of a frame.  A probe takes it down first, and
whatever comes of it then leaves the connection alone and takes down nothing more, even if a handler
hangs.  A box fails for reasons that were there without the frame: a send that fails, the end of the
connection, or a limit that it could not write before the first frame.
-/

/-! ### A probe -/

namespace Client

/-- A watch that lets acts pass that leave the connection alone and take down no frame. -/
def reticence : Monitor Unit where
  step _ a :=
    match a with
    | .notice _ | .qrCode _ | .counted _ | .recorded _ | .dispatched _ | .called _ => some ()
    | _ => none
  called _ _ := rfl
  handlerFailed _ _ := rfl
  callbackFailed _ _ := rfl

theorem quiet_of_reticence {q q' : Unit} {a : Act} (h : reticence.step q a = some q') :
    a.Quiet ∧ ∀ raw, a ≠ .received raw := by
  cases a with
  | notice | qrCode | counted | recorded | dispatched | called => exact ⟨trivial, by simp⟩
  | _ => cases h

theorem reticent_act {a : Act} {next : Activity} (passes : reticence.step () a = some ())
    (h : next.Obeys reticence ()) : (Activity.act a next).Obeys reticence () :=
  ⟨(), passes, h⟩

theorem reticent_dispatchAll {e : Event} {next : Activity} (h : next.Obeys reticence ()) :
    (Activity.dispatchAll e next).Obeys reticence () :=
  reticent_act rfl h

/-- What follows a frame that has been taken down takes down no other one. -/
theorem onMessage_eq (c : Client) (f : Frame) :
    ∃ rest : Activity, rest.Obeys reticence () ∧
      c.onMessage f .done = .act (.received f.content) rest := by
  have delivers (payload : Json) : (onPayload payload .done).Obeys reticence () := by
    have told : (Activity.dispatchAll (.message payload) .done).Obeys reticence () :=
      reticent_dispatchAll trivial
    apply reticent_act rfl
    simp only
    split
    next => exact reticent_act rfl (reticent_act rfl (reticent_dispatchAll told))
    next => exact told
  refine ⟨_, reticent_act rfl ?_, rfl⟩
  split
  next payload _ => exact delivers payload
  next fault _ =>
    exact reticent_act rfl (Registry.obeys_handle rfl rfl (reticent_act rfl trivial))

/-- Of a frame exactly its text is taken down, at once.  Whatever handlers and callbacks do, all
that follows leaves the connection alone. -/
theorem run_onMessage (c : Client) (f : Frame) (s : Scene) (limit : Option Time)
    (others : List Stop) :
    ∃ w, ((c.onMessage f .done).run (Scene.elapse 0) limit (s, others)).scene.trace =
        s.trace ++ (s.now, .received f.content) :: w ∧
      (∀ x ∈ w, x.2.Quiet) ∧ Trace.received w = [] := by
  obtain ⟨rest, obeys, whole⟩ := c.onMessage_eq f
  let s₁ := s.act (.received f.content)
  obtain ⟨w, left, reached⟩ :
      (rest.run (Scene.elapse 0) limit (s₁, others)).Follows s₁ others limit rest :=
    rest.run_follows s₁
  obtain ⟨q, accepted, -⟩ := reached.path.obeys obeys
  have still (x : Time × Act) (inside : x ∈ w) : x.2.Quiet ∧ ∀ raw, x.2 ≠ .received raw :=
    Monitor.forall_of_watch (fun _ _ _ step => quiet_of_reticence step) _ _ _ accepted x.2
      (List.mem_map_of_mem inside)
  refine ⟨w, ?_, fun x inside => (still x inside).1, ?_⟩
  · rw [whole]
    exact reached.leadsTo.trace.trans (List.append_assoc _ _ _)
  · rw [Trace.received, List.filterMap_eq_nil_iff]
    rintro ⟨instant, a⟩ inside
    have other := (still _ inside).2
    cases a <;> first | rfl | exact absurd rfl (other _)

end Client

/-! ### A box -/

/-- What a box does on a connection depends on the texts of the frames. -/
theorem BoxState.serve_congr (qrText : String) {frames frames' : List Frame}
    (same : frames.map Frame.content = frames'.map Frame.content) (s : BoxState) :
    serve qrText s frames = serve qrText s frames' := by
  induction frames generalizing frames' s with
  | nil => rw [List.map_eq_nil_iff.mp same.symm]
  | cons f rest ih =>
    cases frames' with
    | nil => cases same
    | cons f' rest' =>
      obtain ⟨first, others⟩ := List.cons.inj same
      simp only [serve, first, ih others]

/-- What stops the steps of a connection: a send that fails, or a message that cannot be written. -/
theorem BoxStep.of_perform_eq_some {failing : Option (Nat × Failure)} {succeeded : Nat}
    {steps : List BoxStep} {f : Failure} (h : (perform failing succeeded steps).2 = some f) :
    (∃ n, failing = some (n, f)) ∨ f = unwritable ∧ ∃ m ∈ sent steps, m.isWritable = false := by
  induction steps generalizing succeeded with
  | nil => cases h
  | cons step rest ih =>
    have onward {n : Nat} (later : (perform failing n rest).2 = some f) :
        (∃ n, failing = some (n, f)) ∨
          f = unwritable ∧ ∃ m ∈ sent (step :: rest), m.isWritable = false := by
      refine (ih later).imp_right fun ⟨same, m, inside, long⟩ => ⟨same, m, ?_, long⟩
      exact ((List.sublist_cons_self step rest).filterMap _).subset inside
    cases step with
    | send m =>
      rw [perform] at h
      split at h
      next g refused =>
        obtain rfl := Option.some.inj h
        unfold refusal? at refused
        split_ifs at refused with short
        · cases failing with
          | none => cases refused
          | some limit =>
            simp only [Option.ite_none_left_eq_some, Option.some.injEq] at refused
            exact .inl ⟨limit.1, by rw [← refused.2]⟩
        · rw [Bool.not_eq_true] at short
          exact .inr ⟨(Option.some.inj refused).symm, m, List.mem_cons_self, short⟩
      next => exact onward h
    | log | receive | hold =>
      rw [perform] at h
      · exact onward h
      · rintro m ⟨⟩

namespace ControlBox

variable {b : ControlBox} {client : BoxClient}

theorem connect_congr {frames frames' : List Frame}
    (same : frames.map Frame.content = frames'.map Frame.content) (b : ControlBox)
    (client : BoxClient) :
    b.connect { client with frames } = b.connect { client with frames := frames' } := by
  have steps : b.state.converse b.qrText frames = b.state.converse b.qrText frames' := by
    rw [BoxState.converse, BoxState.converse, BoxState.serve_congr b.qrText same b.state]
  simp only [connect, steps]

theorem received_connect_prefix (b : ControlBox) (client : BoxClient) :
    (b.connect client).box.received <+: b.received ++ client.frames.map Frame.content := by
  rw [connect, box_closeQuietly, ← BoxState.received_serve b.state b.qrText client.frames]
  exact (List.prefix_append_right_inj _).mpr
    ((BoxStep.perform_prefix client.sendFailure 0
      (b.state.converse b.qrText client.frames)).filterMap _)

theorem failure_of_closeQuietly {r : BoxReport} {f : Failure}
    (h : (closeQuietly r).failure = some f) : r.failure = some f := by
  unfold closeQuietly at h
  split at h
  next g raised =>
    split_ifs at h
    exact h
  next => exact h

/-- A failure that leaves a connection comes from its end, from a send, or from a limit that the box
held before and cannot write. -/
theorem failure_connect_cases {f : Failure} (h : (b.connect client).failure = some f) :
    client.failure = some f ∨ (∃ n, client.sendFailure = some (n, f)) ∨
      f = BoxStep.unwritable ∧ ¬ b.state.Valid := by
  let performed :=
    BoxStep.perform client.sendFailure 0 (b.state.converse b.qrText client.frames)
  have failed : performed.2.or client.failure = some f := failure_of_closeQuietly h
  rcases Option.or_eq_some_iff.mp failed with stopped | ⟨-, ended⟩
  · refine .inr ((BoxStep.of_perform_eq_some stopped).imp_right ?_)
    rintro ⟨same, m, inside, long⟩
    refine ⟨same, fun valid => ?_⟩
    have short := BoxState.writable_converse valid b.qrText client.frames m inside
    rw [long] at short
    cases short
  · exact .inl ended

end ControlBox

/-! ### Both -/

/-- A frame is taken as a text at both ends of a connection. -/
structure Frame.ReadAs (f : Frame) (text : String) : Prop where
  /-- A probe does with it what it does with the text. -/
  probe : ∀ (c : Client) (next : Activity), c.onMessage f next = c.onMessage (.text text) next
  /-- A probe takes the text down, whatever handlers and callbacks do. -/
  stored : ∀ (c : Client) (s : Scene) (limit : Option Time) (others : List Stop),
    ∃ w, ((c.onMessage f .done).run (Scene.elapse 0) limit (s, others)).scene.trace =
        s.trace ++ (s.now, .received text) :: w ∧
      (∀ x ∈ w, x.2.Quiet) ∧ Trace.received w = []
  /-- If handlers and callbacks end, a probe goes on to what is next. -/
  returns : ∀ (c : Client) (s : Scene) (next : Activity), s.handlers.Ends .message →
    s.handlers.Ends .qrCode → (∀ h ∈ c.registry.callbacks .payload, h.Ends) →
    ∃ w s', s.Goes (c.onMessage f next) w s' next ∧ Trace.haul w = Frame.hauls [.text text]
  /-- A box does with it what it does with the text, among whatever other frames. -/
  box : ∀ (b : ControlBox) (client : BoxClient) (before behind : List Frame),
    b.connect { client with frames := before ++ f :: behind } =
      b.connect { client with frames := before ++ .text text :: behind }
  /-- A box takes the text down, unless a send fails before. -/
  boxStored : ∀ (b : ControlBox) (client : BoxClient) (before behind : List Frame),
    let texts := b.received ++ (before.map Frame.content ++ text :: behind.map Frame.content)
    let report := b.connect { client with frames := before ++ f :: behind }
    report.box.received <+: texts ∧
      (b.state.Valid → client.sendFailure = none → report.box.received = texts)
  /-- Nothing fails at a box because of the frame. -/
  boxReturns : ∀ (b : ControlBox) (client : BoxClient) (before behind : List Frame) (e : Failure),
    (b.connect { client with frames := before ++ f :: behind }).failure = some e →
      client.failure = some e ∨ (∃ n, client.sendFailure = some (n, e)) ∨
        e = BoxStep.unwritable ∧ ¬ b.state.Valid

namespace Frame

theorem readAs_content (f : Frame) : f.ReadAs f.content where
  probe _ _ := rfl
  stored c s limit others := c.run_onMessage f s limit others
  returns c s next messages scans reports := by
    obtain ⟨s', taken⟩ := Client.gathers_onMessage f messages scans reports next
    obtain ⟨w, goes, -, hauled⟩ := taken.goes
    exact ⟨w, s', goes, hauled⟩
  box b client before behind := ControlBox.connect_congr (by simp [content]) b client
  boxStored b client before behind := by
    have texts : (before ++ f :: behind).map content =
        before.map content ++ f.content :: behind.map content := by simp
    refine ⟨texts ▸ b.received_connect_prefix _, fun valid sends => ?_⟩
    rw [← texts]
    exact ControlBox.received_connect valid sends
  boxReturns b client before behind e failed := by
    have origin := ControlBox.failure_connect_cases failed
    exact origin

/-- Every binary frame is taken as one text at both ends of a connection.  It consists of the
characters that the bytes hold, with a replacement character for each maximal invalid part; and the
bytes that a string is stored as are taken as that string. -/
theorem binary_readAs (bytes : List UInt8) :
    ∃ text : String, (Frame.binary bytes).ReadAs text ∧
      (∀ cs : List Char, Utf8.Decodes bytes cs ↔ cs = text.toList) ∧
      ∀ s : String, s.toUTF8.data.toList = bytes → text = s := by
  refine ⟨Utf8.decode bytes, readAs_content (.binary bytes), fun cs => ?_, ?_⟩
  · rw [Utf8.decodes_iff, Utf8.decode, String.toList_ofList]
  · rintro s rfl
    rw [← Utf8.encode_eq, Utf8.decode_encode]

/-- A letter of two bytes, a byte that begins nothing, and a sequence that breaks off. -/
theorem binary_readAs_mixed :
    let bytes : List UInt8 := [0xC3, 0xBC, 0xFF, 0xE2, 0x82, 0x41]
    let text := "\u00FC\uFFFD\uFFFDA"
    (Frame.binary bytes).ReadAs text ∧ Utf8.Decodes bytes text.toList ∧
      (({} : ControlBox).connect { frames := [.binary bytes] }).box.received = [text] := by
  intro bytes text
  obtain ⟨decoded, read, only, -⟩ := binary_readAs bytes
  have same : decoded = text := by
    have chars := (only _).mp (Utf8.decodes_decodeChars bytes)
    rw [← String.ofList_toList (s := decoded), ← chars]
    decide +kernel
  subst same
  refine ⟨read, (only _).mpr rfl, ?_⟩
  exact (read.boxStored {} {} [] []).2 ⟨by decide, by decide⟩ rfl

end Frame

end BoxProbe
