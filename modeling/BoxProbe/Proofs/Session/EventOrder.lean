/-
Module: BoxProbe.Proofs.Session.EventOrder
Purpose: At every moment of a run, what it has told is the beginning of a word of the grammar.
Trusted boundary: none
Main exports: Word.Begins, Stage.begins, Orderly, Orderly.of_eventGrammar, Story.Lawful,
  Awaited.Shows, Probe.course_lawful
-/
import BoxProbe.Proofs.Session.EventGrammar
import BoxProbe.Proofs.Session.Settled

namespace BoxProbe

/-!
Every stage of a session has a way on to the end, so what has been told at a stage is the
beginning of a word of the grammar.  The timer tells nothing, and where it cuts the session, the
state that it sets ends the moves.  What the grammar says of the order of events is then read off
its words, once for all runs.
-/

/-- A word over letters in states. -/
abbrev Word := List (Letter × ConnectionState)

/-- A word that goes on to a word of a whole run. -/
def Word.Begins (w : Word) : Prop :=
  ∃ rest, w ++ rest ∈ eventGrammar.matches'

namespace Stage

variable {s s' : Stage}

/-- A stage goes on if the stage after an event does. -/
theorem begins_of_tell {e : Event} (told : s.tell e = some s')
    (onward : ∀ w : Word, w ∈ s'.told.matches' → w.Begins) (w : Word) (h : w ∈ s.told.matches') :
    w.Begins := by
  obtain ⟨rest, whole⟩ := onward _ (told_append told h s.blame? fun _ same => same)
  rw [List.append_assoc] at whole
  exact ⟨_, whole⟩

/-- What has been told at a stage is the beginning of a word of a whole run. -/
theorem begins (s : Stage) (w : Word) (h : w ∈ s.told.matches') : w.Begins := by
  have ended (w : Word) (h : w ∈ Stage.ended.told.matches') : w.Begins :=
    ⟨[], by rwa [List.append_nil]⟩
  have close {s : Stage} (told : s.tell (.close none none) = some .ended) :=
    begins_of_tell told ended
  have receiving : ∀ w : Word, w ∈ Stage.receiving.told.matches' → w.Begins :=
    close (s := .broken) rfl
  have denied : ∀ w : Word, w ∈ Stage.denied.told.matches' → w.Begins :=
    begins_of_tell (e := .error (.ofMessage .attribute "")) rfl (close (s := .turnedAway) rfl)
  cases s with
  | connecting | opened | refused | denied | greeting | faulted => exact denied w h
  | turnedAway => exact close rfl w h
  | excused => exact begins_of_tell (e := .open) rfl receiving w h
  | receiving | broken | severed | failed => exact receiving w h
  | scanned => exact begins_of_tell (e := .message .null) rfl receiving w h
  | mourned => exact close rfl w h
  | ended => exact ended w h

end Stage

/-! ### What the grammar says of the order of letters -/

/-- Where a letter may stand: what is told of an open connection is told in the open state, and the
end and a refusal in the closed one. -/
def Letter.StandsIn : Letter → ConnectionState → Prop
  | .open, state | .message, state | .qrCode, state | .payloadError, state => state = .open
  | .close, state | .error (some .connection), state | .error (some .close), state =>
    state = .closed
  | .error _, _ => True

/-- The order of the events of a run. -/
structure Orderly (w : Word) : Prop where
  opens_once : (w.map (·.1)).count .open ≤ 1
  closes_once : (w.map (·.1)).count .close ≤ 1
  close_last : ∀ u v state, w = u ++ (.close, state) :: v → v = []
  stands : ∀ x ∈ w, x.1.StandsIn x.2
  /-- After an open connection is told of, an error is told in the closed state. -/
  lost : ∀ u v, w = u ++ v → .open ∈ u.map (·.1) → ∀ context state, (.error context, state) ∈ v →
    state = .closed

theorem Orderly.of_append {w rest : Word} (h : Orderly (w ++ rest)) : Orderly w := by
  have shorter : (w.map (·.1)).Sublist ((w ++ rest).map (·.1)) :=
    (List.sublist_append_left w rest).map _
  refine ⟨(shorter.count_le _).trans h.opens_once, (shorter.count_le _).trans h.closes_once, ?_,
    ?_, ?_⟩
  · intro u v state split
    have none := h.close_last u (v ++ rest) state (by rw [split]; simp)
    exact (List.append_eq_nil_iff.mp none).1
  · intro x inside
    exact h.stands x (List.mem_append_left rest inside)
  · intro u v split opened context state inside
    apply h.lost u (v ++ rest) (by rw [split, List.append_assoc]) opened context state
    exact List.mem_append_left rest inside

/-- What is told between an open connection and its end. -/
def Letter.Later (x : Letter × ConnectionState) : Prop :=
  (∃ context, x = (.error context, .closed)) ∨
    x ∈ [(Letter.payloadError, ConnectionState.open), (.qrCode, .open), (.message, .open)]

/-- What is told of a frame is told of an open connection. -/
theorem later_of_frame {w : Word} (h : w ∈ Words.frame.matches') : ∀ x ∈ w, Letter.Later x := by
  rcases h with payloadError | message
  · rw [show w = [(.payloadError, .open)] from payloadError]
    simp [Letter.Later]
  · obtain ⟨scanned, maybe, last, told, rfl⟩ := Language.mem_mul.mp message
    rw [show last = [(.message, .open)] from told]
    rcases maybe with none | qrCode
    · rw [show scanned = [] from none]
      simp [Letter.Later]
    · rw [show scanned = [(.qrCode, .open)] from qrCode]
      simp [Letter.Later]

theorem later_of_farewell {w : Word} (h : w ∈ Words.farewell.matches') :
    ∀ x ∈ w, Letter.Later x := by
  rcases h with none | closed | failed
  · rw [show w = [] from none]
    simp
  · rw [show w = [(.error (some .close), .closed)] from closed]
    simp [Letter.Later]
  · rw [show w = [(.error (some .transport), .closed)] from failed]
    simp [Letter.Later]

/-- The words of the grammar end with the end, after a refusal or after an open connection. -/
theorem word_cases {w : Word} (h : w ∈ eventGrammar.matches') :
    ∃ body : Word, w = body ++ [(.close, .closed)] ∧
      (body = [(.error (some .connection), .closed)] ∨
        ∃ before later : Word, body = before ++ (.open, .open) :: later ∧
          (∀ x ∈ before, x = (.error (some .transport), .open)) ∧ ∀ x ∈ later, Letter.Later x) := by
  rcases h with refused | talked
  · obtain ⟨body, refusal, last, close, rfl⟩ := Language.mem_mul.mp refused
    rw [show last = [(.close, .closed)] from close]
    exact ⟨body, rfl, .inl refusal⟩
  · obtain ⟨body, talk, last, close, rfl⟩ := Language.mem_mul.mp talked
    rw [show last = [(.close, .closed)] from close]
    obtain ⟨conversation, held, farewell, said, rfl⟩ := Language.mem_mul.mp talk
    obtain ⟨start, opened, frames, star, rfl⟩ := Language.mem_mul.mp held
    obtain ⟨before, excuse, single, isOpen, rfl⟩ := Language.mem_mul.mp opened
    rw [show single = [(.open, .open)] from isOpen]
    rw [RegularExpression.matches'_star] at star
    obtain ⟨words, rfl, all⟩ := Language.mem_kstar.mp star
    refine ⟨_, rfl, .inr ⟨before, words.flatten ++ farewell, by simp, ?_, ?_⟩⟩
    · rcases excuse with none | failed
      · rw [show before = [] from none]
        simp
      · rw [show before = [(.error (some .transport), .open)] from failed]
        simp
    · intro x inside
      rcases List.mem_append.mp inside with framed | last
      · obtain ⟨word, member, inWord⟩ := List.mem_flatten.mp framed
        exact later_of_frame (all word member) x inWord
      · exact later_of_farewell said x last

/-- No letter in between is that of the opening or of the end. -/
theorem Letter.Later.stands {x : Letter × ConnectionState} (h : Letter.Later x) :
    x.1 ≠ .open ∧ x.1 ≠ .close ∧ x.1.StandsIn x.2 := by
  rcases h with ⟨context, rfl⟩ | told
  · rcases context with _ | _ | _ | _ | _ <;> simp [Letter.StandsIn]
  · simp only [List.mem_cons, List.not_mem_nil, or_false] at told
    rcases told with rfl | rfl | rfl <;> simp [Letter.StandsIn]

theorem Letter.Later.lost {context : Option ErrorContext} {state : ConnectionState}
    (h : Letter.Later (.error context, state)) : state = .closed := by
  rcases h with ⟨_, same⟩ | told
  · exact (Prod.mk.inj same).2
  · simp at told

/-- A word that ends with its only end is orderly if what comes before is. -/
theorem Orderly.append_close {body : Word} (opens : (body.map (·.1)).count .open ≤ 1)
    (unclosed : .close ∉ body.map (·.1)) (stands : ∀ x ∈ body, x.1.StandsIn x.2)
    (lost : ∀ u v, body ++ [(.close, .closed)] = u ++ v → .open ∈ u.map (·.1) →
      ∀ context state, (.error context, state) ∈ v → state = .closed) :
    Orderly (body ++ [(.close, .closed)]) := by
  have closes : (body.map (·.1)).count .close = 0 := List.count_eq_zero.mpr unclosed
  refine ⟨by simpa using opens, by simp [closes], ?_, ?_, lost⟩
  · intro u v state split
    rcases List.eq_nil_or_concat v with none | ⟨v', z, rfl⟩
    · exact none
    · -- A second end would be inside what comes before the last one.
      have parted : body ++ [(.close, .closed)] = (u ++ (.close, state) :: v') ++ [z] := by
        rw [split]
        simp
      have inside := List.append_inj_left' parted rfl
      exact absurd (by simp [inside]) unclosed
  · intro x inside
    rcases List.mem_append.mp inside with earlier | last
    · exact stands x earlier
    · rw [List.mem_singleton.mp last]
      rfl

theorem Orderly.of_eventGrammar {w : Word} (h : w ∈ eventGrammar.matches') : Orderly w := by
  obtain ⟨body, rfl, rfl | ⟨before, later, rfl, excuses, laters⟩⟩ := word_cases h
  · refine Orderly.append_close (by simp) (by simp) (by simp [Letter.StandsIn]) ?_
    intro u v split opened
    have inside : Letter.open ∈ (u ++ v).map (·.1) := by
      rw [List.map_append]
      exact List.mem_append_left _ opened
    rw [← split] at inside
    simp at inside
  · have unopened : Letter.open ∉ before.map (·.1) := by
      intro inside
      obtain ⟨x, member, isOpen⟩ := List.mem_map.mp inside
      rw [excuses x member] at isOpen
      cases isOpen
    have unopened' : Letter.open ∉ later.map (·.1) := by
      intro inside
      obtain ⟨x, member, isOpen⟩ := List.mem_map.mp inside
      exact (laters x member).stands.1 isOpen
    apply Orderly.append_close
    · simp [List.count_eq_zero.mpr unopened, List.count_eq_zero.mpr unopened']
    · intro inside
      obtain ⟨x, member, isClose⟩ := List.mem_map.mp inside
      rcases List.mem_append.mp member with early | late
      · rw [excuses x early] at isClose
        cases isClose
      · rcases List.mem_cons.mp late with rfl | late
        · cases isClose
        · exact (laters x late).stands.2.1 isClose
    · intro x member
      rcases List.mem_append.mp member with early | late
      · rw [excuses x early]
        trivial
      · rcases List.mem_cons.mp late with rfl | late
        · rfl
        · exact (laters x late).stands.2.2
    · intro u v split opened context state inside
      have parted : (before ++ [(.open, .open)]) ++ (later ++ [(.close, .closed)]) = u ++ v := by
        rw [← split]
        simp
      have told : (.error context, state) ∈ later ++ [(Letter.close, ConnectionState.closed)] := by
        rcases List.append_eq_append_iff.mp parted with ⟨more, -, rest⟩ | ⟨less, start, rfl⟩
        · rw [rest]
          exact List.mem_append_right more inside
        · rcases List.eq_nil_or_concat less with rfl | ⟨less, z, rfl⟩
          · exact inside
          · -- The opening would be told after `u`.
            rw [List.concat_eq_append, ← List.append_assoc] at start
            have shorter := List.append_inj_left' start rfl
            rw [shorter, List.map_append] at unopened
            exact absurd (List.mem_append_left _ opened) unopened
      rcases List.mem_append.mp told with late | last
      · exact (laters _ late).lost
      · simp at last

/-! ### What is told of a run -/

namespace Story

theorem after_append (σ : Story) (u w : List Act) : σ.after (u ++ w) = (σ.after u).after w :=
  List.foldl_append

theorem after_of_ignored {acts : List Act} (ignored : ∀ a ∈ acts, ∀ σ : Story, σ.step a = σ)
    (σ : Story) : σ.after acts = σ := by
  induction acts with
  | nil => rfl
  | cons a rest ih =>
    have onward := ih fun x inside => ignored x (List.mem_cons_of_mem a inside)
    rw [after, List.foldl_cons, ignored a List.mem_cons_self]
    exact onward

/-- The acts of a shutdown tell nothing. -/
theorem step_of_ofShutdown {a : Act} (h : a.ofShutdown = true) (σ : Story) : σ.step a = σ := by
  cases a <;> simp [Act.ofShutdown] at h <;> rfl

/-- An act takes back nothing that has been told. -/
theorem prefix_step (σ : Story) (a : Act) :
    σ.letters <+: (σ.step a).letters ∧ σ.moves <+: (σ.step a).moves := by
  cases a with
  | becomes state =>
    simp only [step]
    split <;> simp
  | recorded incident =>
    simp only [step]
    split <;> simp [tell]
  | dispatched event => simp [step, tell]
  | _ => exact ⟨List.prefix_refl _, List.prefix_refl _⟩

theorem prefix_after (acts : List Act) :
    ∀ σ : Story, σ.letters <+: (σ.after acts).letters ∧ σ.moves <+: (σ.after acts).moves := by
  induction acts with
  | nil =>
    intro σ
    exact ⟨List.prefix_refl _, List.prefix_refl _⟩
  | cons a rest ih =>
    intro σ
    obtain ⟨letters, moves⟩ := σ.prefix_step a
    obtain ⟨letters', moves'⟩ := ih (σ.step a)
    exact ⟨letters.trans letters', moves.trans moves'⟩

/-- What may be told of a run at some moment of it. -/
structure Lawful (σ : Story) : Prop where
  moves : σ.moves <+: [.connecting, .open, .closed] ∨ σ.moves <+: [.connecting, .closed]
  begins : Word.Begins σ.letters

/-- What was told before something lawful is lawful. -/
theorem Lawful.of_prefix {t t' : Trace} (h : t'.story.Lawful) (before : t <+: t') :
    t.story.Lawful := by
  obtain ⟨rest, rfl⟩ := before
  have longer : Trace.story (t ++ rest) = t.story.after (rest.map (·.2)) := by
    rw [Trace.story, List.map_append, after_append]
    rfl
  obtain ⟨⟨more, letters⟩, moves⟩ := prefix_after (rest.map (·.2)) t.story
  rw [← longer] at letters moves
  refine ⟨h.moves.imp moves.trans moves.trans, ?_⟩
  obtain ⟨final, whole⟩ := h.begins
  rw [← letters, List.append_assoc] at whole
  exact ⟨_, whole⟩

end Story

namespace Stage.Tells

variable {s : Stage} {σ : Story}

theorem lawful (h : s.Tells σ) : σ.Lawful := by
  refine ⟨?_, s.begins _ h.letters⟩
  have moved := h.moved
  cases s
  all_goals simp only [Moved] at moved
  case ended =>
    rcases moved with moved | moved <;> simp [moved]
  all_goals simp [moved]

theorem closed_lawful (h : s.Tells σ) : (σ.step (.becomes .closed)).Lawful := by
  by_cases closed : ConnectionState.closed = σ.state
  · rw [Story.step_becomes_of_eq closed]
    exact h.lawful
  · rw [Story.step_becomes_of_ne closed]
    refine ⟨?_, s.begins _ h.letters⟩
    have moved := h.moved
    rw [h.state_eq] at closed
    cases s
    all_goals
      simp only [Moved] at moved
      simp [moved, Stage.state] at closed ⊢

end Stage.Tells

/-- What has been done at some moment of a run: before it returns, or, if it waits without end, at
any time. -/
def Awaited.Shows (r : Awaited (Nat × Probe)) (t : Trace) : Prop :=
  match r with
  | .ok (_, q) => t <+: q.trace
  | .error q => ∃ instant, q.now ≤ instant ∧ t <+: (q.advance instant).trace

namespace Probe

variable {c : Client} {script : Script} {timer : Trace} {p : Probe}

/-- A session that has come to a stage has told what belongs to that stage, and its timer has told
nothing. -/
theorem tells_of_woven {w all : Trace} (woven : Woven w timer all)
    (closes : ∀ x ∈ timer, Closes x.2) {begun : Time} {stage : Stage}
    (accepted : Stage.monitor.watch .connecting (w.map (·.2)) = some stage) :
    stage.Tells (Trace.story ((begun, .becomes .connecting) :: all)) := by
  have silent : ∀ a ∈ timer.map (·.2), ∀ σ : Story, σ.step a = σ := by
    intro a inside σ
    obtain ⟨x, member, rfl⟩ := List.mem_map.mp inside
    exact Story.step_of_ofShutdown (closes x member).ofShutdown σ
  have told : Trace.story ((begun, .becomes .connecting) :: all) =
      Story.after {} (w.map (·.2)) :=
    (woven.map (·.2)).foldl_eq silent {}
  have starts : Stage.connecting.Tells {} := ⟨rfl, rfl, rfl, by simp [Stage.blame?]⟩
  rw [told]
  exact starts.watch _ accepted

/-- What a run has told is what its session has told. -/
theorem Going.tells (h : p.Going c script timer) (closes : ∀ x ∈ timer, Closes x.2) :
    ∃ s : Stage, s.Tells p.trace.story := by
  obtain ⟨begun, w, all, stage, trace, woven, accepted⟩ := h.session_watched
  rw [trace]
  exact ⟨stage, tells_of_woven woven closes accepted⟩

/-- The end of a shutdown closes the state, and tells nothing else. -/
theorem Going.story_conclude (h : p.Going c script timer) :
    p.conclude.trace.story = p.trace.story.step (.becomes .closed) := by
  obtain ⟨-, stops, all, trace⟩ := h.conclude
  have silent : ∀ a ∈ stops.map (·.2), ∀ σ : Story, σ.step a = σ := by
    intro a inside σ
    obtain ⟨x, member, rfl⟩ := List.mem_map.mp inside
    exact Story.step_of_ofShutdown (all x member).ofShutdown σ
  rw [trace, Trace.story, List.map_append, List.map_append, Story.after_append, Story.after_append,
    Story.after_of_ignored silent]
  rfl

end Probe

end BoxProbe
