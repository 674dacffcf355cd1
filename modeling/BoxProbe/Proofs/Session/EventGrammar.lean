/-
Module: BoxProbe.Proofs.Session.EventGrammar
Purpose: The events of a run as a word, and the grammar of such words.
Trusted boundary: none
Main exports: Letter, Story, Trace.story, Trace.state_story, eventGrammar, Stage.told,
  Stage.Tells, Stage.Tells.step, Stage.Tells.watch
-/
import BoxProbe.Proofs.Session.Stage
import Mathlib.Computability.RegularExpressions

namespace BoxProbe

/-!
The events that a run dispatches make a word.  A letter is an event together with the state in
which it is dispatched; an error also carries the context that was put on record for it, and a
frame that is no JSON, of which no event tells, has a letter of its own.  The words of whole runs
form a regular language, and each stage of a session has told a word of a language of its own,
from which there is always a way on to a whole word.
-/

/-- What is told of a run. -/
inductive Letter where
  | payloadError
  | error (context : Option ErrorContext)
  | open
  | close
  | message
  | qrCode
deriving DecidableEq, Repr

/-- The letter of an event, of which the context on record says what an error is about. -/
def Letter.ofEvent (blame : Option ErrorContext) : Event → Letter
  | .open => .open
  | .message _ => .message
  | .error _ => .error blame
  | .close _ _ => .close
  | .qrCode _ => .qrCode

/-- What acts tell. -/
structure Story where
  state : ConnectionState := .connecting
  /-- The states that there were, in order. -/
  moves : List ConnectionState := [.connecting]
  /-- The context of the last incident on record that was none of a frame. -/
  blame : Option ErrorContext := none
  letters : List (Letter × ConnectionState) := []

namespace Story

/-- One more letter. -/
def tell (σ : Story) (letter : Letter) : Story :=
  { σ with letters := σ.letters ++ [(letter, σ.state)] }

/-- What is told after an act. -/
def step (σ : Story) : Act → Story
  | .becomes state =>
    if state = σ.state then σ else { σ with state, moves := σ.moves ++ [state] }
  | .recorded incident =>
    if incident.context = .payload then σ.tell .payloadError
    else { σ with blame := some incident.context }
  | .dispatched event => σ.tell (.ofEvent σ.blame event)
  | _ => σ

variable {σ : Story}

theorem step_becomes_of_ne {state : ConnectionState} (h : state ≠ σ.state) :
    σ.step (.becomes state) = { σ with state, moves := σ.moves ++ [state] } := by
  simp [step, h]

theorem step_becomes_of_eq {state : ConnectionState} (h : state = σ.state) :
    σ.step (.becomes state) = σ := by
  simp [step, h]

theorem step_recorded_payload {incident : Incident} (h : incident.context = .payload) :
    σ.step (.recorded incident) = σ.tell .payloadError := by
  simp [step, h]

theorem step_recorded_of_ne {incident : Incident} (h : incident.context ≠ .payload) :
    σ.step (.recorded incident) = { σ with blame := some incident.context } := by
  simp [step, h]

/-- What is told after acts. -/
def after (σ : Story) (acts : List Act) : Story :=
  acts.foldl step σ

end Story

/-- What is told of a run. -/
def Trace.story (t : Trace) : Story :=
  Story.after {} (t.map (·.2))

theorem Story.state_after (t : Trace) :
    ∀ σ : Story, (σ.after (t.map (·.2))).state = t.stateFrom σ.state := by
  induction t with
  | nil =>
    intro σ
    rfl
  | cons x rest ih =>
    intro σ
    obtain ⟨instant, a⟩ := x
    have onward := ih (σ.step a)
    cases a with
    | becomes state =>
      have moved : (σ.step (.becomes state)).state = state := by
        by_cases same : state = σ.state
        · rw [step_becomes_of_eq same, same]
        · rw [step_becomes_of_ne same]
      rw [moved] at onward
      exact onward
    | recorded incident =>
      have still : (σ.step (.recorded incident)).state = σ.state := by
        by_cases context : incident.context = .payload
        · rw [step_recorded_payload context]
          rfl
        · rw [step_recorded_of_ne context]
      rw [still] at onward
      exact onward
    | _ => exact onward

/-- The state that a story keeps is that of the connection. -/
theorem Trace.state_story (t : Trace) : t.story.state = t.state :=
  Story.state_after t {}

/-! ### The grammar -/

/-- Regular expressions over letters in states. -/
abbrev Words := RegularExpression (Letter × ConnectionState)

namespace Words

/-- One letter. -/
abbrev letter (letter : Letter) (state : ConnectionState) : Words :=
  RegularExpression.char (letter, state)

/-- An error while connecting. -/
def refusal : Words :=
  letter (.error (some .connection)) .closed

/-- An error while the requests are sent, if there is one. -/
def excuse : Words :=
  1 + letter (.error (some .transport)) .open

/-- What is told of one frame. -/
def frame : Words :=
  letter .payloadError .open + (1 + letter .qrCode .open) * letter .message .open

/-- An error while frames are received, if there is one. -/
def farewell : Words :=
  1 + (letter (.error (some .close)) .closed + letter (.error (some .transport)) .closed)

/-- What is told of an open connection before it is lost. -/
def conversation : Words :=
  excuse * letter .open .open * frame.star

end Words

open Words in
/-- The words of whole runs. -/
def eventGrammar : Words :=
  refusal * letter .close .closed + conversation * farewell * letter .close .closed

example : eventGrammar.rmatch
    [(.open, .open), (.qrCode, .open), (.message, .open), (.payloadError, .open),
      (.close, .closed)] = true := by
  decide

example : eventGrammar.rmatch [(.open, .open), (.qrCode, .open), (.close, .closed)] = false := by
  decide

section Language

variable {α : Type} {P Q : RegularExpression α} {u w : List α} {a : α}

theorem append_mem_mul_char (h : w ∈ P.matches') : w ++ [a] ∈ (P * .char a).matches' :=
  Language.append_mem_mul h rfl

/-- A starred language takes one more word. -/
theorem append_mem_mul_star (h : u ∈ (P * Q.star).matches') (more : w ∈ Q.matches') :
    u ++ w ∈ (P * Q.star).matches' := by
  rw [RegularExpression.matches'_mul, RegularExpression.matches'_star, Language.mem_mul] at h ⊢
  obtain ⟨first, inP, rest, inStar, rfl⟩ := h
  obtain ⟨words, rfl, all⟩ := Language.mem_kstar.mp inStar
  refine ⟨first, inP, words.flatten ++ w, ?_, by simp⟩
  apply Language.mem_kstar.mpr
  refine ⟨words ++ [w], by simp, ?_⟩
  intro word inside
  rcases List.mem_append.mp inside with earlier | last
  · exact all word earlier
  · rw [List.mem_singleton.mp last]
    exact more

/-- A part that may be left out. -/
theorem mem_mul_of_nil_mem (h : w ∈ P.matches') (empty : [] ∈ Q.matches') :
    w ∈ (P * Q).matches' := by
  have whole : w ++ [] ∈ (P * Q).matches' := Language.append_mem_mul h empty
  rwa [List.append_nil] at whole

end Language

namespace Stage

/-- What has been told at a stage. -/
def told : Stage → Words
  | .connecting | .opened | .refused | .denied | .greeting | .faulted => 1
  | .turnedAway => Words.refusal
  | .excused => Words.letter (.error (some .transport)) .open
  | .receiving | .broken | .severed | .failed => Words.conversation
  | .scanned => Words.conversation * Words.letter .qrCode .open
  | .mourned => Words.conversation * Words.farewell
  | .ended => eventGrammar

/-- The state at a stage. -/
def state : Stage → ConnectionState
  | .connecting | .opened => .connecting
  | .greeting | .faulted | .excused | .receiving | .scanned => .open
  | _ => .closed

/-- Whether the states up to a stage may have been these. -/
def Moved : Stage → List ConnectionState → Prop
  | .connecting, moves | .opened, moves => moves = [.connecting]
  | .refused, moves | .denied, moves | .turnedAway, moves => moves = [.connecting, .closed]
  | .greeting, moves | .faulted, moves | .excused, moves | .receiving, moves | .scanned, moves =>
    moves = [.connecting, .open]
  | .broken, moves | .severed, moves | .failed, moves | .mourned, moves =>
    moves = [.connecting, .open, .closed]
  | .ended, moves => moves = [.connecting, .closed] ∨ moves = [.connecting, .open, .closed]

/-- The context on record at a stage that tells an error next. -/
def blame? : Stage → Option ErrorContext
  | .denied => some .connection
  | .faulted | .failed => some .transport
  | .severed => some .close
  | _ => none

/-- What is told at a stage is a word of its own. -/
structure Tells (s : Stage) (σ : Story) : Prop where
  letters : σ.letters ∈ s.told.matches'
  state_eq : σ.state = s.state
  moved : s.Moved σ.moves
  blames : ∀ context, s.blame? = some context → σ.blame = some context

variable {s s' : Stage} {σ : Story}

theorem Tells.turn {state : ConnectionState} (h : s.Tells σ) (turned : s.turn state = some s') :
    s'.Tells (σ.step (.becomes state)) := by
  have here := h.state_eq
  have moved := h.moved
  unfold Stage.turn at turned
  split at turned
  case h_1 | h_2 | h_3 =>
    cases turned
    rw [Story.step_becomes_of_ne (by rw [here]; decide)]
    refine ⟨h.letters, rfl, ?_, by simp [blame?]⟩
    simp only [Moved] at moved ⊢
    rw [moved]
    rfl
  case h_4 | h_5 =>
    cases turned
    have still : ConnectionState.closed = σ.state := here.symm
    rw [Story.step_becomes_of_eq still]
    exact h
  case h_6 => cases turned

/-- Putting an incident on record tells of a frame, or says what the next error is about. -/
theorem Tells.record {incident : Incident} (h : s.Tells σ)
    (recorded : s.record incident.context = some s') : s'.Tells (σ.step (.recorded incident)) := by
  have here := h.state_eq
  unfold Stage.record at recorded
  split at recorded
  case h_3 isPayload =>
    cases recorded
    have told : [(Letter.payloadError, ConnectionState.open)] ∈ Words.frame.matches' := .inl rfl
    rw [Story.step_recorded_payload isPayload]
    refine ⟨?_, here, h.moved, by simp [blame?]⟩
    have longer := append_mem_mul_star h.letters told
    simp only [Story.tell, here]
    exact longer
  case h_6 => cases recorded
  all_goals
    next context =>
      cases recorded
      rw [Story.step_recorded_of_ne (by simp [context])]
      exact ⟨h.letters, here, h.moved, by simp [blame?, context]⟩

/-- An event adds a letter to the word of a stage, and that is a word of the next stage. -/
theorem told_append {e : Event} (told : s.tell e = some s') {w : List (Letter × ConnectionState)}
    (h : w ∈ s.told.matches') (blame : Option ErrorContext)
    (blames : ∀ context, s.blame? = some context → blame = some context) :
    w ++ [(.ofEvent blame e, s.state)] ∈ s'.told.matches' := by
  unfold Stage.tell at told
  split at told
  case h_1 | h_2 =>
    cases told
    obtain rfl : w = [] := h
    rw [blames _ rfl]
    rfl
  case h_3 =>
    cases told
    obtain rfl : w = [] := h
    have silent : [] ∈ Words.excuse.matches' := .inl rfl
    have opened : [(Letter.open, ConnectionState.open)] ∈
        (Words.excuse * Words.letter .open .open).matches' :=
      append_mem_mul_char silent
    exact mem_mul_of_nil_mem opened (Language.nil_mem_kstar _)
  case h_4 =>
    cases told
    have excused : w ∈ Words.excuse.matches' := .inr h
    have opened : w ++ [(Letter.open, ConnectionState.open)] ∈
        (Words.excuse * Words.letter .open .open).matches' :=
      append_mem_mul_char excused
    exact mem_mul_of_nil_mem opened (Language.nil_mem_kstar _)
  case h_5 =>
    cases told
    exact append_mem_mul_char h
  case h_6 =>
    cases told
    have silent : [] ∈ (1 + Words.letter .qrCode .open).matches' := .inl rfl
    have message : [(Letter.message, ConnectionState.open)] ∈ Words.frame.matches' :=
      .inr (append_mem_mul_char silent)
    exact append_mem_mul_star h message
  case h_7 =>
    cases told
    obtain ⟨earlier, conversation, _, rfl, rfl⟩ := Language.mem_mul.mp h
    have scanned : [(Letter.qrCode, ConnectionState.open)] ∈
        (1 + Words.letter .qrCode .open).matches' := .inr rfl
    have both : [(Letter.qrCode, ConnectionState.open), (.message, .open)] ∈ Words.frame.matches' :=
      .inr (append_mem_mul_char scanned)
    rw [List.append_assoc]
    exact append_mem_mul_star conversation both
  case h_8 =>
    cases told
    rw [blames _ rfl]
    exact Language.append_mem_mul h (.inr (.inl rfl))
  case h_9 =>
    cases told
    rw [blames _ rfl]
    exact Language.append_mem_mul h (.inr (.inr rfl))
  case h_10 =>
    cases told
    exact .inl (append_mem_mul_char h)
  case h_11 =>
    cases told
    have silent : [] ∈ Words.farewell.matches' := .inl rfl
    exact .inr (append_mem_mul_char (mem_mul_of_nil_mem h silent))
  case h_12 =>
    cases told
    exact .inr (append_mem_mul_char h)
  case h_13 => cases told

/-- An event changes no state, and there is no error to come after it. -/
theorem state_of_tell {e : Event} (told : s.tell e = some s') :
    s'.state = s.state ∧ s'.blame? = none ∧ ∀ moves, s.Moved moves → s'.Moved moves := by
  unfold Stage.tell at told
  split at told
  all_goals
    cases told
    try exact ⟨rfl, rfl, fun _ moved => moved⟩
  case h_10 => exact ⟨rfl, rfl, fun _ moved => .inl moved⟩
  case h_11 | h_12 => exact ⟨rfl, rfl, fun _ moved => .inr moved⟩

theorem Tells.tell {e : Event} (h : s.Tells σ) (told : s.tell e = some s') :
    s'.Tells (σ.step (.dispatched e)) := by
  obtain ⟨state_eq, blameless, moved⟩ := state_of_tell told
  refine ⟨?_, ?_, moved _ h.moved, by simp [blameless]⟩
  · have longer := told_append told h.letters _ h.blames
    rw [← h.state_eq] at longer
    exact longer
  · rw [state_eq]
    exact h.state_eq

/-- Whatever a session does, what is told stays a word of its stage. -/
theorem Tells.step {a : Act} (h : s.Tells σ) (stepped : s.step a = some s') :
    s'.Tells (σ.step a) := by
  cases a with
  | becomes state => exact h.turn stepped
  | recorded incident => exact h.record stepped
  | dispatched event => exact h.tell stepped
  | opened script =>
    by_cases first : s = .connecting
    · simp only [Stage.step, first, if_true, Option.some.injEq] at stepped
      subst first stepped
      exact ⟨h.letters, h.state_eq, h.moved, h.blames⟩
    · simp [Stage.step, first] at stepped
  | notice n =>
    simp only [Stage.step] at stepped
    split at stepped
    next => cases stepped
    next => cases stepped; exact h
  | closeCalled _ | closeCompleted _ | cancelled | aborted _ => cases stepped
  | _ => cases stepped; exact h

/-- What a session tells is a word of its stage. -/
theorem Tells.watch (acts : List Act) :
    ∀ {s s' : Stage} {σ : Story}, s.Tells σ → monitor.watch s acts = some s' →
      s'.Tells (σ.after acts) := by
  induction acts with
  | nil =>
    intro s s' σ h accepted
    cases accepted
    exact h
  | cons a rest ih =>
    intro s s' σ h accepted
    rw [Monitor.watch_cons, Option.bind_eq_some_iff] at accepted
    obtain ⟨middle, first, onward⟩ := accepted
    exact ih (h.step first) onward

end Stage

end BoxProbe
