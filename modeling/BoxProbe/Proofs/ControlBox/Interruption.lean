/-
Module: BoxProbe.Proofs.ControlBox.Interruption
Purpose: What a connection has done to a control box when one of its sends fails.
Trusted boundary: none
Main exports: BoxStep.perform_limited, BoxState.BreaksAt, BoxState.perform_serve,
  ControlBox.connect_interrupted
-/
import BoxProbe.Proofs.ControlBox.Exchange

namespace BoxProbe

/-!
A box takes a frame down and applies it before it says anything about it.  So wherever a send fails,
in the greeting or in the answer to a frame, the frames up to that one have been applied in full,
and no later one has been looked at.  What has been sent is the beginning of what is sent when no
send fails.
-/

namespace BoxStep

/-- Whether a step says something and changes nothing. -/
def Tells : BoxStep → Prop
  | .send _ | .log _ => True
  | .receive _ | .hold _ => False

theorem received_of_tells {steps : List BoxStep} (h : ∀ step ∈ steps, step.Tells) :
    received steps = [] := by
  apply List.filterMap_eq_nil_iff.mpr
  intro step mem
  cases step with
  | receive raw => exact (h _ mem).elim
  | send | log | hold => rfl

theorem held_of_tells {steps : List BoxStep} (h : ∀ step ∈ steps, step.Tells) (s : BoxState) :
    held s steps = s := by
  induction steps with
  | nil => rfl
  | cons step rest ih =>
    have later := ih fun other mem => h other (List.mem_cons_of_mem step mem)
    cases step with
    | hold s' => exact (h _ List.mem_cons_self).elim
    | send | log | receive => exact later

variable {failing : Option (Nat × Failure)} {succeeded : Nat} {steps before behind : List BoxStep}

/-- Only what stands before a refused send is done. -/
theorem perform_prefix (failing : Option (Nat × Failure)) (succeeded : Nat)
    (steps : List BoxStep) : (perform failing succeeded steps).1 <+: steps := by
  induction steps generalizing succeeded with
  | nil => exact List.prefix_refl []
  | cons step rest ih =>
    cases step with
    | send m =>
      rw [perform]
      split
      next => exact List.nil_prefix
      next => exact (List.prefix_cons_inj _).mpr (ih (succeeded + 1))
    | log | receive | hold =>
      rw [perform]
      · exact (List.prefix_cons_inj _).mpr (ih succeeded)
      · rintro m ⟨⟩

/-- Steps of which none is refused are all done, and those behind them follow. -/
theorem perform_append_of_none (h : (perform failing succeeded before).2 = none) :
    perform failing succeeded (before ++ behind) =
      (before ++ (perform failing (succeeded + (sent before).length) behind).1,
        (perform failing (succeeded + (sent before).length) behind).2) := by
  induction before generalizing succeeded with
  | nil => rfl
  | cons step rest ih =>
    cases step with
    | send m =>
      rw [perform] at h
      rw [List.cons_append, perform]
      cases refused : refusal? failing succeeded m with
      | some f => simp [refused] at h
      | none =>
        simp only [refused] at h
        have count : (sent (.send m :: rest)).length = 1 + (sent rest).length := by
          rw [Nat.add_comm]
          rfl
        simp only [ih h, count, ← Nat.add_assoc, List.cons_append]
    | log | receive | hold =>
      rw [perform] at h
      · rw [List.cons_append, perform, ih h]
        · rfl
        · rintro m ⟨⟩
      · rintro m ⟨⟩

/-- Nothing behind a refused send is done. -/
theorem perform_append_of_some {f : Failure} (h : (perform failing succeeded before).2 = some f) :
    perform failing succeeded (before ++ behind) = perform failing succeeded before := by
  induction before generalizing succeeded with
  | nil => cases h
  | cons step rest ih =>
    cases step with
    | send m =>
      rw [perform] at h
      rw [List.cons_append, perform, perform]
      cases refused : refusal? failing succeeded m with
      | some f => rfl
      | none =>
        simp only [refused] at h
        simp only [ih h]
    | log | receive | hold =>
      rw [perform] at h
      · rw [List.cons_append, perform, perform, ih h]
        · rintro m ⟨⟩
        · rintro m ⟨⟩
      · rintro m ⟨⟩

/-- If every send after a number of successful ones fails, the first messages are sent, and the
failure is that of the next one, if there is a next one. -/
theorem perform_limited {n : Nat} {f : Failure} (h : ∀ m ∈ sent steps, m.isWritable = true)
    (succeeded : Nat) :
    sent (perform (some (n, f)) succeeded steps).1 = (sent steps).take (n - succeeded) ∧
      (perform (some (n, f)) succeeded steps).2 =
        if n - succeeded < (sent steps).length then some f else none := by
  induction steps generalizing succeeded with
  | nil => simp [perform, sent]
  | cons step rest ih =>
    cases step with
    | send m =>
      have shape : sent (.send m :: rest) = m :: sent rest := rfl
      have later := ih (fun other mem => h other (List.mem_cons_of_mem m mem)) (succeeded + 1)
      have short : m.isWritable = true := h m List.mem_cons_self
      by_cases early : succeeded < n
      · have accepted : refusal? (some (n, f)) succeeded m = none := by
          simp [refusal?, short, early]
        have left : n - succeeded = (n - (succeeded + 1)) + 1 := by omega
        have done : perform (some (n, f)) succeeded (.send m :: rest) =
            (.send m :: (perform (some (n, f)) (succeeded + 1) rest).1,
              (perform (some (n, f)) (succeeded + 1) rest).2) := by
          rw [perform, accepted]
        rw [done, shape, left, List.take_succ_cons, ← later.1]
        refine ⟨rfl, ?_⟩
        simp only [later.2, List.length_cons, Nat.add_lt_add_iff_right]
      · have refused : refusal? (some (n, f)) succeeded m = some f := by
          simp [refusal?, short, early]
        have none : n - succeeded = 0 := by omega
        rw [perform, refused, none, shape]
        exact ⟨rfl, by simp⟩
    | log | receive | hold =>
      rw [perform]
      · exact ih h succeeded
      · rintro m ⟨⟩

end BoxStep

namespace BoxState

/-- What is said in answer to a frame changes nothing. -/
theorem tells_reply (s : BoxState) (qrText : String) (m : Message) :
    ∀ step ∈ s.reply qrText m, step.Tells := by
  unfold reply
  split <;> simp [sendData, BoxStep.Tells]

/-- What a box does with a frame before it says anything: it takes the frame down and applies it. -/
def intake (s : BoxState) (frame : Frame) : List BoxStep :=
  [.receive frame.content, .log (.frontendSent frame.content), .hold (s.taking frame)]

/-- What a box does for one frame, and then for those behind it. -/
theorem serve_cons (s : BoxState) (qrText : String) (frame : Frame) (rest : List Frame) :
    ∃ said : List BoxStep, (∀ step ∈ said, step.Tells) ∧
      BoxStep.sent (s.intake frame ++ said) = s.replies qrText frame ++ [acknowledgement] ∧
      serve qrText s (frame :: rest) =
        (s.intake frame ++ said) ++ serve qrText (s.taking frame) rest := by
  let m := requestOf frame.content
  refine ⟨(s.taking frame).reply qrText m ++ [.send acknowledgement], ?_, ?_, ?_⟩
  · intro step mem
    rcases List.mem_append.mp mem with replied | last
    · exact tells_reply _ _ _ step replied
    · rw [List.mem_singleton.mp last]
      trivial
  · have answered : BoxStep.sent (s.intake frame ++ (s.taking frame).reply qrText m) =
        s.replies qrText frame := by
      rw [← sent_answer, answer, after_requestOf]
      rfl
    rw [← List.append_assoc, BoxStep.sent_append, answered]
    rfl
  · simp only [serve, answer, after_requestOf, List.append_assoc, List.cons_append,
      List.nil_append]
    rfl

section

variable {s : BoxState} {frame : Frame} {said : List BoxStep}

theorem received_intake (tells : ∀ step ∈ said, step.Tells) :
    BoxStep.received (s.intake frame ++ said) = [frame.content] := by
  rw [BoxStep.received_append, BoxStep.received_of_tells tells]
  rfl

theorem held_intake (tells : ∀ step ∈ said, step.Tells) (before : BoxState) :
    BoxStep.held before (s.intake frame ++ said) = s.taking frame := by
  rw [BoxStep.held_append, BoxStep.held_of_tells tells]
  rfl

/-- However early a send fails, the frame that it answers has been taken down and applied. -/
theorem perform_intake (s : BoxState) (frame : Frame) (tells : ∀ step ∈ said, step.Tells)
    (failing : Option (Nat × Failure)) (succeeded : Nat) :
    ∃ partly : List BoxStep, (∀ step ∈ partly, step.Tells) ∧
      (BoxStep.perform failing succeeded (s.intake frame ++ said)).1 =
        s.intake frame ++ partly := by
  obtain ⟨lost, whole⟩ := BoxStep.perform_prefix failing succeeded said
  refine ⟨(BoxStep.perform failing succeeded said).1, ?_, ?_⟩
  · exact fun step mem => tells step (whole ▸ List.mem_append_left lost mem)
  · have quiet : (BoxStep.perform failing succeeded (s.intake frame)).2 = none := rfl
    rw [BoxStep.perform_append_of_none quiet]
    rfl

end

variable {s : BoxState} {n : Nat} {f : Failure}

/-- Where a connection breaks off after `n` messages of its answers: the frames before the `k`-th
are answered with at most `n` messages, and if there are more, then the next one answers the
`k`-th. -/
structure BreaksAt (s : BoxState) (qrText : String) (frames : List Frame) (n k : Nat) : Prop where
  le : k ≤ frames.length
  before : ∀ j < k, (s.exchange qrText (frames.take j)).length ≤ n
  during : n < (s.exchange qrText frames).length → n < (s.exchange qrText (frames.take k)).length
  whole : (s.exchange qrText frames).length ≤ n → k = frames.length

namespace BreaksAt

variable {qrText : String} {frame : Frame} {rest : List Frame} {k : Nat}

theorem length_exchange_cons (s : BoxState) (qrText : String) (frame : Frame)
    (rest : List Frame) :
    (s.exchange qrText (frame :: rest)).length =
      (s.replies qrText frame ++ [acknowledgement]).length +
        ((s.taking frame).exchange qrText rest).length := by
  rw [exchange_cons, ← List.length_append, List.append_assoc]
  rfl

/-- It breaks off in the midst of the first answer. -/
theorem first (cut : n < (s.replies qrText frame ++ [acknowledgement]).length) :
    s.BreaksAt qrText (frame :: rest) n 1 := by
  refine ⟨by simp, ?_, ?_, ?_⟩
  · intro j early
    rw [Nat.lt_one_iff.mp early]
    exact Nat.zero_le n
  · intro _
    rw [List.take_succ_cons, length_exchange_cons]
    exact Nat.lt_add_right _ cut
  · intro enough
    rw [length_exchange_cons] at enough
    omega

/-- It breaks off behind the first answer. -/
theorem later (sent : (s.replies qrText frame ++ [acknowledgement]).length ≤ n)
    (h : (s.taking frame).BreaksAt qrText rest
      (n - (s.replies qrText frame ++ [acknowledgement]).length) k) :
    s.BreaksAt qrText (frame :: rest) n (k + 1) := by
  refine ⟨Nat.succ_le_succ h.le, ?_, ?_, ?_⟩
  · intro j early
    cases j with
    | zero => exact Nat.zero_le n
    | succ j =>
      have few := h.before j (Nat.lt_of_succ_lt_succ early)
      rw [List.take_succ_cons, length_exchange_cons]
      omega
  · intro more
    rw [length_exchange_cons] at more
    have many := h.during (by omega)
    rw [List.take_succ_cons, length_exchange_cons]
    omega
  · intro enough
    rw [length_exchange_cons] at enough
    rw [h.whole (by omega), List.length_cons]

end BreaksAt

/-- A send that fails cuts the frames off in the midst of one answer; that frame has been taken down
and applied, and no later one has. -/
theorem perform_serve (valid : s.Valid) (qrText : String) (frames : List Frame) (succeeded : Nat) :
    ∃ k, s.BreaksAt qrText frames (n - succeeded) k ∧
      let done := (BoxStep.perform (some (n, f)) succeeded (serve qrText s frames)).1
      BoxStep.received done = (frames.take k).map Frame.content ∧
        BoxStep.held s done = s.holding (frames.take k) := by
  induction frames generalizing s succeeded with
  | nil => exact ⟨0, ⟨Nat.le_refl 0, by simp, id, fun _ => rfl⟩, rfl, rfl⟩
  | cons frame rest ih =>
    obtain ⟨said, tells, sent, steps⟩ := serve_cons s qrText frame rest
    have short : ∀ m ∈ BoxStep.sent (s.intake frame ++ said), m.isWritable = true := by
      rw [sent]
      exact List.forall_mem_append.mpr ⟨writable_replies valid qrText frame, by decide⟩
    obtain ⟨-, refused⟩ := BoxStep.perform_limited (n := n) (f := f) short succeeded
    rw [sent] at refused
    rw [steps]
    split_ifs at refused with cut
    · obtain ⟨partly, tells', performed⟩ := s.perform_intake frame tells (some (n, f)) succeeded
      rw [BoxStep.perform_append_of_some refused, performed]
      exact ⟨1, .first cut, received_intake tells', held_intake tells' s⟩
    · rw [BoxStep.perform_append_of_none refused, sent]
      obtain ⟨k, breaks, received, held⟩ := ih (valid.taking frame)
        (succeeded + (s.replies qrText frame ++ [acknowledgement]).length)
      rw [← Nat.sub_sub] at breaks
      refine ⟨k + 1, breaks.later (not_lt.mp cut), ?_, ?_⟩
      · simp only [BoxStep.received_append _ (BoxStep.perform _ _ _).1, received,
          received_intake tells]
        rfl
      · simp only [BoxStep.held_append s (s.intake frame ++ said), held_intake tells, held]
        rfl

end BoxState

namespace BoxState

/-- What a box does on a connection before the first frame. -/
def opening (s : BoxState) (qrText : String) : List BoxStep :=
  .log .clientConnected :: s.sendData qrText

theorem tells_opening (s : BoxState) (qrText : String) :
    ∀ step ∈ s.opening qrText, step.Tells := by
  simp [opening, sendData, BoxStep.Tells]

variable {s : BoxState} {n : Nat} {f : Failure}

/-- A send that fails cuts a connection off, in its greeting or in the midst of one answer. -/
theorem perform_converse (valid : s.Valid) (qrText : String) (frames : List Frame) :
    ∃ k ≤ frames.length,
      (∀ j < k, (BoxStep.sent (s.converse qrText (frames.take j))).length ≤ n) ∧
      (n < (BoxStep.sent (s.converse qrText frames)).length →
        n < (BoxStep.sent (s.converse qrText (frames.take k))).length) ∧
      ((BoxStep.sent (s.converse qrText frames)).length ≤ n → k = frames.length) ∧
      let done := (BoxStep.perform (some (n, f)) 0 (s.converse qrText frames)).1
      BoxStep.received done = (frames.take k).map Frame.content ∧
        BoxStep.held s done = s.holding (frames.take k) := by
  have steps : s.converse qrText frames = s.opening qrText ++ serve qrText s frames := rfl
  have tells := s.tells_opening qrText
  have sent : BoxStep.sent (s.opening qrText) = s.greeting qrText := rfl
  have length (frames : List Frame) : (BoxStep.sent (s.converse qrText frames)).length =
      (s.greeting qrText).length + (s.exchange qrText frames).length := by
    rw [sent_converse, List.length_append]
  have short : ∀ m ∈ BoxStep.sent (s.opening qrText), m.isWritable = true :=
    writable_greeting valid qrText
  obtain ⟨-, refused⟩ := BoxStep.perform_limited (n := n) (f := f) short 0
  rw [sent, Nat.sub_zero] at refused
  simp only [length]
  rw [steps]
  split_ifs at refused with cut
  · obtain ⟨lost, whole⟩ := BoxStep.perform_prefix (some (n, f)) 0 (s.opening qrText)
    have partly : ∀ step ∈ (BoxStep.perform (some (n, f)) 0 (s.opening qrText)).1, step.Tells :=
      fun step mem => tells step (whole ▸ List.mem_append_left lost mem)
    rw [BoxStep.perform_append_of_some refused]
    refine ⟨0, Nat.zero_le _, by simp, fun _ => Nat.lt_add_right _ cut, ?_,
      BoxStep.received_of_tells partly, BoxStep.held_of_tells partly s⟩
    intro enough
    omega
  · rw [BoxStep.perform_append_of_none refused, sent, Nat.zero_add]
    obtain ⟨k, breaks, received, held⟩ := perform_serve (n := n) (f := f) valid qrText frames
      (s.greeting qrText).length
    refine ⟨k, breaks.le, ?_, ?_, ?_, ?_, ?_⟩
    · intro j early
      have few := breaks.before j early
      omega
    · intro more
      have many := breaks.during (by omega)
      omega
    · intro enough
      exact breaks.whole (by omega)
    · rw [BoxStep.received_append, BoxStep.received_of_tells tells, received]
      rfl
    · rw [BoxStep.held_append, BoxStep.held_of_tells tells]
      exact held

end BoxState

namespace ControlBox

/-- What leaves a connection if every send after `n` successful ones fails: the first `n` messages
are sent, and the failure is that of the next one, which a closed connection does not let out. -/
theorem connect_limited (b : ControlBox) (frames : List Frame) (n : Nat) (f : Failure)
    (valid : b.state.Valid) :
    let cut := b.connect { frames, sendFailure := some (n, f) }
    let sent := BoxStep.sent (b.state.converse b.qrText frames)
    cut.sent = sent.take n ∧
      cut.failure = if n < sent.length ∧ f.isClosed = false then some f else none := by
  intro cut sent
  obtain ⟨taken, refused⟩ := BoxStep.perform_limited (n := n) (f := f)
    (BoxState.writable_converse valid b.qrText frames) 0
  rw [Nat.sub_zero] at taken refused
  refine ⟨(sent_closeQuietly _).trans taken, ?_⟩
  simp only [cut, connect, performing, refused, Option.or_none]
  by_cases failing : n < sent.length
  · cases closed : f.isClosed <;> simp [closeQuietly, failing, sent, closed]
  · simp [closeQuietly, failing, sent]

/-- If every send after `n` successful ones fails, a box sends the first `n` of the messages that it
sends when none fails.  It has taken down the frames up to the one that the failing send answers,
and it is left as those frames leave it when no send fails.  The failure goes no further if it says
that the connection is closed, and leaves the box as it is otherwise. -/
theorem connect_interrupted (b : ControlBox) (frames : List Frame) (n : Nat) (f : Failure)
    (valid : b.state.Valid) :
    let whole := b.connect { frames }
    let upTo (k : Nat) := b.connect { frames := frames.take k }
    let cut := b.connect { frames, sendFailure := some (n, f) }
    cut.sent = whole.sent.take n ∧
      (∃ k ≤ frames.length,
        (∀ j < k, (upTo j).sent.length ≤ n) ∧
        (n < whole.sent.length → n < (upTo k).sent.length) ∧
        (whole.sent.length ≤ n → k = frames.length) ∧
        cut.box.received = b.received ++ (frames.take k).map Frame.content ∧
        cut.box = (upTo k).box) ∧
      cut.failure = if n < whole.sent.length ∧ f.isClosed = false then some f else none := by
  intro whole upTo cut
  have length (frames : List Frame) : (b.connect { frames }).sent =
      BoxStep.sent (b.state.converse b.qrText frames) := by
    rw [sent_connect valid rfl, BoxState.sent_converse]
  obtain ⟨sent, failure⟩ := connect_limited b frames n f valid
  obtain ⟨k, le, before, during, all, received, held⟩ :=
    BoxState.perform_converse (n := n) (f := f) valid b.qrText frames
  have taken : cut.box.received = b.received ++ (frames.take k).map Frame.content := by
    rw [← received]
    exact congrArg ControlBox.received (box_closeQuietly _)
  have state : cut.box.state = b.state.holding (frames.take k) := by
    rw [← held]
    exact congrArg ControlBox.state (box_closeQuietly _)
  have same : cut.box = (upTo k).box := by
    have cut_eq : cut.box = { b with
        connections := b.connections + 1
        state := cut.box.state
        received := cut.box.received } := by
      rw [show cut.box = _ from box_closeQuietly _]
      rfl
    have upTo_eq : (upTo k).box = { b with
        connections := b.connections + 1
        state := (upTo k).box.state
        received := (upTo k).box.received } := by
      rw [show (upTo k).box = _ from box_closeQuietly _]
      rfl
    rw [cut_eq, upTo_eq, taken, state, state_connect valid rfl, received_connect valid rfl]
  simp only [← length] at sent failure before during all
  exact ⟨sent, ⟨k, le, before, during, all, taken, same⟩, failure⟩

/-- The connection is closed while a limit that has been set is echoed: the box holds that limit. -/
theorem connect_interrupted_echo :
    let frames : List Frame :=
      [.text "\x7b\"Type\": 6, \"Limit\": \x7b\"Duration\": 60\x7d\x7d",
        .text "\x7b\"Type\": 5\x7d"]
    let cut := ({} : ControlBox).connect
      { frames, sendFailure := some (7, .closed false none none none) }
    cut.failure = none ∧ cut.sent.length = 7 ∧
      cut.box.received = ["\x7b\"Type\": 6, \"Limit\": \x7b\"Duration\": 60\x7d\x7d"] ∧
      cut.box.state.consumptionLimit.duration = 60 := by
  intro frames cut
  obtain ⟨sent, ⟨k, -, before, during, -, received, same⟩, failure⟩ :=
    connect_interrupted {} frames 7 (.closed false none none none) ⟨by decide, by decide⟩
  have one : k = 1 := by
    have upTo : (({} : ControlBox).connect { frames := frames.take 1 }).sent.length = 9 := by
      decide +kernel
    have none : (({} : ControlBox).connect { frames := frames.take 0 }).sent.length = 7 := by
      decide +kernel
    have more := during (by decide +kernel)
    have few : ¬ 1 < k := fun late => absurd (before 1 late) (by rw [upTo]; decide)
    have some : k ≠ 0 := by
      rintro rfl
      rw [none] at more
      exact absurd more (by decide)
    omega
  subst one
  have shown : cut.box = (({} : ControlBox).connect { frames := frames.take 1 }).box := same
  refine ⟨failure.trans (by decide +kernel), ?_, received, ?_⟩
  · rw [show cut.sent = _ from sent]
    decide +kernel
  · rw [shown]
    decide +kernel

end ControlBox

end BoxProbe
