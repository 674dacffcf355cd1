/-
Module: BoxProbe.Proofs.Failure.Desk
Purpose: Every failure that is reported at a desk is counted, logged and handed to its callbacks,
  whatever else goes on there.
Trusted boundary: none
Main exports: Activity.burst_path, Incident.path_actsUpTo, Desk.Accords, Desk.Accords.step,
  Desk.accords_follow, Desk.Handles, Desk.Serves, Desk.serves_of_follow
-/
import BoxProbe.Failure.Desk
import BoxProbe.Proofs.Session.Path
import Mathlib.Data.List.Basic
import Mathlib.Data.List.Induction

namespace BoxProbe

/-!
A report keeps the callbacks that it began with, so what it did and what is left of it depend on
nothing but their list and the number of those that have come to their ends.  No errand touches what
another report did.  Both together say what has become of every report after any errands.
-/

/-- What a task does up to its next wait lies on a path through it. -/
theorem Activity.burst_path (h : Handlers) (a : Activity) : a.Path h a.burst.1 a.burst.2 := by
  fun_induction Activity.burst a with
  | case1 a next ih => exact .step (.act a next) ih
  | case2 a _ => exact .refl a

/-- Whether an act counts a failure in a context. -/
def Act.counts (c : ErrorContext) : Act → Bool
  | .counted context => context = c
  | _ => false

/-! ### One report -/

/-- The report of a callback's failure, if it fails. -/
def Callback.lapse (c : Callback) : List Act :=
  c.failure.toList.map fun f => .notice (.callbackFailed f)

namespace Incident

/-- The call of a callback for an incident. -/
def call (i : Incident) (c : Callback) : Call :=
  ⟨c.label, [.incident i]⟩

/-- What is left of a report that still has to call some callbacks. -/
def remaining (i : Incident) (callbacks : List Callback) : Activity :=
  .invokeAll callbacks [.incident i] .callbackFailed .done

/-- What is left of it while it waits for a callback before them. -/
def behind (i : Incident) (c : Callback) (rest : List Callback) : Activity :=
  match c.failure with
  | none => i.remaining rest
  | some f => .act (.notice (.callbackFailed f)) (i.remaining rest)

/-- What a report has done when a number of its callbacks have come to their ends. -/
def actsUpTo (i : Incident) (callbacks : List Callback) (ended : Nat) : List Act :=
  .counted i.context :: .notice (.incident i) ::
    ((callbacks.take ended).flatMap (fun c => .called (i.call c) :: c.lapse) ++
      callbacks[ended]?.toList.map fun c => .called (i.call c))

/-- What is then left of it. -/
def leftAfter (i : Incident) (callbacks : List Callback) (ended : Nat) : Activity :=
  (i.remaining (callbacks.drop ended)).burst.2

variable {i : Incident} {callbacks : List Callback} {ended : Nat} {next : Activity}

/-- A report calls its first callback before it waits. -/
theorem burst_remaining (i : Incident) (callbacks : List Callback) :
    (i.remaining callbacks).burst.1 =
      callbacks.head?.toList.map fun c => .called (i.call c) := by
  cases callbacks with
  | nil => rfl
  | cons c rest => rfl

theorem burst_behind (i : Incident) (c : Callback) (rest : List Callback) :
    (i.behind c rest).burst =
      (c.lapse ++ (i.remaining rest).burst.1, (i.remaining rest).burst.2) := by
  unfold behind Callback.lapse
  cases c.failure with
  | none => rfl
  | some f => rfl

theorem burst_report (r : Registry) (i : Incident) :
    (r.report i .done).burst =
      (i.actsUpTo (r.callbacks i.context) 0, i.leftAfter (r.callbacks i.context) 0) := by
  have called := burst_remaining i (r.callbacks i.context)
  rw [List.head?_eq_getElem?] at called
  show (_ :: _ :: (i.remaining (r.callbacks i.context)).burst.1, _) = _
  rw [called]
  rfl

/-- A report waits for the first of its callbacks that has not come to its end. -/
theorem leftAfter_waiting {c : Callback} (turn : callbacks[ended]? = some c) :
    i.leftAfter callbacks ended = .pause c.pause (i.behind c (callbacks.drop (ended + 1))) := by
  have rest : callbacks.drop ended = c :: callbacks.drop (ended + 1) := by
    rw [List.drop_eq_getElem?_toList_append, turn]
    rfl
  unfold leftAfter
  rw [rest]
  rfl

/-- From there it goes on to the one behind it. -/
theorem burst_behind_turn {c : Callback} (turn : callbacks[ended]? = some c) :
    i.actsUpTo callbacks (ended + 1) =
        i.actsUpTo callbacks ended ++ (i.behind c (callbacks.drop (ended + 1))).burst.1 ∧
      i.leftAfter callbacks (ended + 1) =
        (i.behind c (callbacks.drop (ended + 1))).burst.2 := by
  rw [burst_behind, burst_remaining, List.head?_drop]
  unfold actsUpTo
  rw [List.take_add_one, turn]
  constructor
  · simp
  · rfl

/-- Without another callback to wait for a report is at its end. -/
theorem leftAfter_done (turn : callbacks[ended]? = none) :
    i.leftAfter callbacks ended = .done := by
  unfold leftAfter
  rw [List.drop_eq_getElem?_toList_append, turn, List.drop_eq_nil_of_le]
  · rfl
  · exact Nat.le_succ_of_le (List.getElem?_eq_none_iff.mp turn)

/-- A report on a desk goes along a path through the same task that a session goes through. -/
theorem path_actsUpTo (h : Handlers) (r : Registry) (i : Incident) {ended : Nat}
    (le : ended ≤ (r.callbacks i.context).length) :
    (r.report i .done).Path h (i.actsUpTo (r.callbacks i.context) ended)
      (i.leftAfter (r.callbacks i.context) ended) := by
  induction ended with
  | zero =>
    have begins := (r.report i .done).burst_path h
    rw [burst_report] at begins
    exact begins
  | succ ended ih =>
    have turn := List.getElem?_eq_getElem (show ended < (r.callbacks i.context).length from le)
    have walked := ih (Nat.le_of_succ_le le)
    rw [leftAfter_waiting turn] at walked
    obtain ⟨acts, left⟩ := burst_behind_turn (i := i) turn
    rw [acts, left]
    exact walked.trans (.silent (.pause _ _) (Activity.burst_path h _))

theorem calls_actsUpTo (i : Incident) (callbacks : List Callback) (ended : Nat) :
    (i.actsUpTo callbacks ended).filterMap Act.call? = (callbacks.take (ended + 1)).map i.call := by
  have none_of_lapse (c : Callback) : c.lapse.filterMap Act.call? = [] := by
    unfold Callback.lapse
    cases c.failure with
    | none => rfl
    | some f => rfl
  have each (c : Callback) :
      (Act.called (i.call c) :: c.lapse).filterMap Act.call? = [i.call c] :=
    congrArg (i.call c :: ·) (none_of_lapse c)
  show List.filterMap Act.call? (_ ++ _) = _
  rw [List.filterMap_append, List.filterMap_flatMap, List.take_add_one, List.map_append]
  simp only [each]
  congr 1
  · exact List.map_eq_flatMap.symm
  · cases callbacks[ended]? with
    | none => rfl
    | some c => rfl

theorem records_actsUpTo (i : Incident) (callbacks : List Callback) (ended : Nat) :
    (i.actsUpTo callbacks ended).filterMap Act.record? =
      (Notice.incident i).toRecord ::
        ((callbacks.take ended).filterMap (·.failure)).map
          fun f => (Notice.callbackFailed f).toRecord := by
  have each (c : Callback) :
      (Act.called (i.call c) :: c.lapse).filterMap Act.record? =
        (c.failure.map fun f => (Notice.callbackFailed f).toRecord).toList := by
    unfold Callback.lapse
    cases c.failure with
    | none => rfl
    | some f => rfl
  have waits : (callbacks[ended]?.toList.map fun c => Act.called (i.call c)).filterMap
      Act.record? = [] := by
    cases callbacks[ended]? with
    | none => rfl
    | some c => rfl
  show _ :: List.filterMap Act.record? (_ ++ _) = _
  rw [List.filterMap_append, List.filterMap_flatMap, waits, List.append_nil, List.map_filterMap]
  simp only [each]
  rw [List.filterMap_eq_flatMap_toList]

/-- A report counts its incident once, and before it waits. -/
theorem count_actsUpTo (i : Incident) (callbacks : List Callback) (ended : Nat)
    (c : ErrorContext) :
    (i.actsUpTo callbacks ended).countP (Act.counts c) = if i.context = c then 1 else 0 := by
  have rest (a : Act) (h : a ∈ (callbacks.take ended).flatMap (fun callback =>
      .called (i.call callback) :: callback.lapse) ++
        callbacks[ended]?.toList.map fun callback => .called (i.call callback)) :
      ¬ a.counts c := by
    simp only [Callback.lapse, List.mem_append, List.mem_flatMap, List.mem_cons, List.mem_map] at h
    rcases h with ⟨_, _, rfl | ⟨_, _, rfl⟩⟩ | ⟨_, _, rfl⟩ <;> exact Bool.false_ne_true
  unfold actsUpTo
  rw [List.countP_cons, List.countP_cons, List.countP_eq_zero.mpr rest]
  simp [Act.counts]

end Incident

namespace Report

variable {i : Incident} {callbacks : List Callback} {ended : Nat}

/-- A report that waits for a callback that comes to its end goes on from there. -/
theorem next?_of_turn {c : Callback} (turn : callbacks[ended]? = some c)
    (ends : c.pause ≠ .forever) :
    next? ⟨i, i.leftAfter callbacks ended⟩ =
      some (i.behind c (callbacks.drop (ended + 1))) := by
  unfold next?
  rw [Incident.leftAfter_waiting turn]
  cases pause : c.pause with
  | forever => exact absurd pause ends
  | none => rfl
  | seconds length sleeps => rfl

/-- Nothing else makes a report go on. -/
theorem turn_of_next? {next : Activity}
    (h : next? ⟨i, i.leftAfter callbacks ended⟩ = some next) :
    ∃ c, callbacks[ended]? = some c ∧ c.pause ≠ .forever ∧
      next = i.behind c (callbacks.drop (ended + 1)) := by
  cases turn : callbacks[ended]? with
  | none =>
    rw [next?, Incident.leftAfter_done turn] at h
    cases h
  | some c =>
    by_cases ends : c.pause = .forever
    · rw [next?, Incident.leftAfter_waiting turn, ends] at h
      cases h
    · rw [next?_of_turn turn ends] at h
      exact ⟨c, rfl, ends, (Option.some.inj h).symm⟩

/-- Incidents are counted when their reports begin, and not when they go on. -/
theorem count_next? {next : Activity}
    (h : next? ⟨i, i.leftAfter callbacks ended⟩ = some next) (c : ErrorContext) :
    next.burst.1.countP (Act.counts c) = 0 := by
  obtain ⟨callback, turn, _, rfl⟩ := turn_of_next? h
  have counted := Incident.count_actsUpTo i callbacks (ended + 1) c
  rw [(Incident.burst_behind_turn turn).1, List.countP_append, Incident.count_actsUpTo] at counted
  exact Nat.add_eq_left.mp counted

theorem returned?_leftAfter (le : ended ≤ callbacks.length) :
    returned? ⟨i, i.leftAfter callbacks ended⟩ =
      if ended = callbacks.length then some i else none := by
  unfold returned?
  cases turn : callbacks[ended]? with
  | none =>
    have all := List.getElem?_eq_none_iff.mp turn
    rw [Incident.leftAfter_done turn, if_pos (le.antisymm all)]
  | some c =>
    have more := (List.getElem?_eq_some_iff.mp turn).1
    rw [Incident.leftAfter_waiting turn, if_neg more.ne]

end Report

/-! ### What came to a desk -/

namespace Errand

/-- Whether a failure is reported. -/
def isReport : Errand → Bool
  | .report _ => true
  | _ => false

/-- Whether a failure in a context is reported. -/
def isReportIn (c : ErrorContext) : Errand → Bool
  | .report i => i.context = c
  | _ => false

/-- Whether a callback of a report, by its number, comes to its end. -/
def isEndIn (number : Nat) : Errand → Bool
  | .goOn n => n = number
  | _ => false

/-- What is registered. -/
def registration? : Errand → Option (Option ErrorContext × Responder)
  | .register context r => some (context, r)
  | _ => none

/-- The reports that began. -/
def reports (errands : List Errand) : Nat :=
  errands.countP isReport

/-- What was registered for a context, or for all of them, in order. -/
def registered (errands : List Errand) (context : Option ErrorContext) : List Responder :=
  errands.filterMap fun
    | .register c r => if c = context then some r else none
    | _ => none

/-- The callbacks for an incident that is reported next: those for its context, and then those for
all contexts. -/
def callbacks (errands : List Errand) (i : Incident) : List Callback :=
  (registered errands (some i.context) ++ registered errands none).map
    (·.callback (reports errands) i)

theorem reports_report (i : Incident) (errands : List Errand) :
    reports (.report i :: errands) = reports errands + 1 :=
  List.countP_cons_of_pos rfl

theorem reports_append (one two : List Errand) :
    reports (one ++ two) = reports one + reports two :=
  List.countP_append

theorem registered_eq (errands : List Errand) (context : Option ErrorContext) :
    registered errands context =
      ((errands.filterMap registration?).filter fun x => x.1 == context).map (·.2) := by
  induction errands with
  | nil => rfl
  | cons e rest ih =>
    cases e with
    | register c r =>
      by_cases same : c = context
      · simpa [registered, registration?, same] using ih
      · simpa [registered, registration?, same] using ih
    | report i => exact ih
    | goOn n => exact ih

/-- Every number below that of the reports belongs to one of them. -/
theorem exists_report {errands : List Errand} {n : Nat} (h : n < reports errands) :
    ∃ before i after, errands = before ++ .report i :: after ∧ reports before = n := by
  induction errands generalizing n with
  | nil => cases h
  | cons e rest ih =>
    cases e with
    | register context r =>
      obtain ⟨before, i, after, rfl, counted⟩ := ih (n := n) h
      exact ⟨.register context r :: before, i, after, rfl, counted⟩
    | goOn number =>
      obtain ⟨before, i, after, rfl, counted⟩ := ih (n := n) h
      exact ⟨.goOn number :: before, i, after, rfl, counted⟩
    | report i =>
      cases n with
      | zero => exact ⟨[], i, rest, rfl, rfl⟩
      | succ n =>
        rw [reports_report] at h
        obtain ⟨before, j, after, rfl, rfl⟩ := ih (Nat.lt_of_succ_lt_succ h)
        exact ⟨.report i :: before, j, after, rfl, reports_report i before⟩

/-- A report that began with the last errand, or before it. -/
theorem split_last {errands before after : List Errand} {e : Errand} {i : Incident}
    (h : errands ++ [e] = before ++ .report i :: after) :
    (before = errands ∧ e = .report i ∧ after = []) ∨
      ∃ rest, after = rest ++ [e] ∧ errands = before ++ .report i :: rest := by
  rcases List.eq_nil_or_concat after with rfl | ⟨rest, last, rfl⟩
  · obtain ⟨rfl, same⟩ := List.append_inj' h rfl
    exact .inl ⟨rfl, (List.cons.inj same).1, rfl⟩
  · rw [List.concat_eq_append, ← List.cons_append, ← List.append_assoc] at h
    obtain ⟨rfl, same⟩ := List.append_inj' h rfl
    rw [(List.cons.inj same).1]
    exact .inr ⟨rest, List.concat_eq_append, rfl⟩

end Errand

/-! ### One errand -/

namespace Desk

variable {d d' : Desk} {number : Nat} {r : Report}

theorem registry_callbacks {errands : List Errand} (i : Incident)
    (responders : d.responders = errands.filterMap Errand.registration?)
    (length : d.reports.length = Errand.reports errands) :
    (d.registry i).callbacks i.context = Errand.callbacks errands i := by
  unfold registry Registry.callbacks Errand.callbacks
  rw [responders, length, Errand.registered_eq, Errand.registered_eq]
  simp [List.filter_map, Function.comp_def]

theorem foldl_countsAfter (counts : ErrorContext → Nat) (acts : List Act) (c : ErrorContext) :
    acts.foldl countsAfter counts c = counts c + acts.countP (Act.counts c) := by
  induction acts generalizing counts with
  | nil => rfl
  | cons a rest ih =>
    rw [List.foldl_cons, ih, List.countP_cons]
    cases a with
    | counted context =>
      by_cases same : c = context
      · subst same
        simp only [countsAfter, Act.counts, if_true, decide_true]
        omega
      · simp [countsAfter, Act.counts, same, Ne.symm same]
    | _ => rfl

/-- Only the report that goes on does anything. -/
theorem actsOf_proceed (d : Desk) (number m : Nat) (r : Report) :
    (d.proceed number r).actsOf m = d.actsOf m ++ if number = m then r.left.burst.1 else [] := by
  unfold actsOf proceed
  rw [List.filterMap_append, List.filterMap_map]
  congr 1
  by_cases same : number = m
  · simp [same]
  · simp [same]

theorem actsOf_eq_nil {bound : Nat} (within : ∀ x ∈ d.history, x.1 < bound) :
    d.actsOf bound = [] := by
  apply List.filterMap_eq_nil_iff.mpr
  intro x mem
  exact if_neg (within x mem).ne

theorem within_proceed {bound : Nat} (within : ∀ x ∈ d.history, x.1 < bound)
    (h : number < bound) : ∀ x ∈ (d.proceed number r).history, x.1 < bound := by
  intro x mem
  rcases List.mem_append.mp mem with old | new
  · exact within x old
  · obtain ⟨a, _, rfl⟩ := List.mem_map.mp new
    exact h

/-- A report that begins is the last one. -/
theorem reports_begin (d : Desk) (r : Report) :
    ({ d with reports := d.reports ++ [r] }.proceed d.reports.length r).reports =
      d.reports ++ [{ r with left := r.left.burst.2 }] := by
  show List.set _ d.reports.length _ = _
  rw [List.set_append_right _ _ le_rfl, Nat.sub_self]
  rfl

/-- What a desk shows of a report of an incident, of whose callbacks a number have come to their
ends. -/
structure Shows (d : Desk) (number : Nat) (i : Incident) (callbacks : List Callback)
    (ended : Nat) : Prop where
  ended_le : ended ≤ callbacks.length
  report : d.reports[number]? = some ⟨i, i.leftAfter callbacks ended⟩
  acts : d.actsOf number = i.actsUpTo callbacks ended

/-- A desk to which nothing but some errands came. -/
structure Accords (d : Desk) (errands : List Errand) : Prop where
  responders : d.responders = errands.filterMap Errand.registration?
  length : d.reports.length = Errand.reports errands
  counts : ∀ c, d.counts c = errands.countP (Errand.isReportIn c)
  within : ∀ x ∈ d.history, x.1 < d.reports.length
  shows : ∀ before i after, errands = before ++ .report i :: after →
    d.Shows (Errand.reports before) i (Errand.callbacks before i)
      (after.countP (Errand.isEndIn (Errand.reports before)))

namespace Shows

variable {i : Incident} {callbacks : List Callback} {ended : Nat}

/-- What is done beside a report does not change what a desk shows of it. -/
theorem beside (h : d.Shows number i callbacks ended)
    (report : d'.reports[number]? = d.reports[number]?)
    (acts : d'.actsOf number = d.actsOf number) :
    d'.Shows number i callbacks ended where
  ended_le := h.ended_le
  report := report.trans h.report
  acts := acts.trans h.acts

/-- A report that goes on has one more callback behind it. -/
theorem goOn (h : d.Shows number i callbacks ended) {next : Activity}
    (goes : Report.next? ⟨i, i.leftAfter callbacks ended⟩ = some next) :
    (d.proceed number ⟨i, next⟩).Shows number i callbacks (ended + 1) := by
  obtain ⟨c, turn, _, rfl⟩ := Report.turn_of_next? goes
  obtain ⟨acts, left⟩ := Incident.burst_behind_turn (i := i) turn
  have begun := (List.getElem?_eq_some_iff.mp h.report).1
  constructor
  · exact (List.getElem?_eq_some_iff.mp turn).1
  · show (d.reports.set number _)[number]? = _
    rw [List.getElem?_set_self begun, left]
  · rw [actsOf_proceed, if_pos rfl, h.acts, acts]

end Shows

namespace Accords

variable {errands : List Errand}

theorem start : Accords {} [] where
  responders := rfl
  length := rfl
  counts _ := rfl
  within _ mem := nomatch mem
  shows before i after h := by
    have := congrArg List.length h
    simp at this

theorem register (h : d.Accords errands) (context : Option ErrorContext) (r : Responder) :
    Accords { d with responders := d.responders ++ [(context, r)] }
      (errands ++ [.register context r]) := by
  constructor
  · rw [h.responders, List.filterMap_append]
    rfl
  · rw [Errand.reports_append]
    exact h.length
  · intro c
    rw [List.countP_append]
    exact h.counts c
  · exact h.within
  · intro before i after split
    rcases Errand.split_last split with ⟨_, other, _⟩ | ⟨rest, rfl, rfl⟩
    · cases other
    · rw [List.countP_append]
      exact (h.shows before i rest rfl).beside rfl rfl

/-- A report that begins finds the callbacks that were registered before it. -/
theorem report (h : d.Accords errands) (i : Incident) (step : d.step? (.report i) = some d') :
    d'.Accords (errands ++ [.report i]) := by
  have burst := Incident.burst_report (d.registry i) i
  rw [registry_callbacks i h.responders h.length] at burst
  obtain rfl := Option.some.inj step
  have reports := d.reports_begin ⟨i, (d.registry i).report i .done⟩
  have length := congrArg List.length reports
  rw [List.length_append, List.length_singleton] at length
  constructor
  · rw [List.filterMap_append]
    exact h.responders.trans (List.append_nil _).symm
  · rw [Errand.reports_append, ← h.length]
    exact length
  · intro c
    show (List.foldl countsAfter d.counts ((d.registry i).report i .done).burst.1) c = _
    rw [foldl_countsAfter, burst, Incident.count_actsUpTo, h.counts c, List.countP_append,
      List.countP_singleton]
    simp [Errand.isReportIn]
  · rw [length]
    apply within_proceed _ (Nat.lt_succ_self _)
    exact fun x mem => (h.within x mem).trans (Nat.lt_succ_self _)
  · intro before j after split
    rcases Errand.split_last split with ⟨rfl, same, rfl⟩ | ⟨rest, rfl, rfl⟩
    · cases same
      rw [← h.length]
      constructor
      · exact Nat.zero_le _
      · rw [reports, List.getElem?_concat_length]
        exact congrArg (fun b => some (Report.mk i b.2)) burst
      · rw [actsOf_proceed, if_pos rfl]
        exact (congrArg (· ++ _) (actsOf_eq_nil h.within)).trans (congrArg Prod.fst burst)
    · rw [List.countP_append]
      have shown := h.shows before j rest rfl
      have earlier := (List.getElem?_eq_some_iff.mp shown.report).1
      apply shown.beside
      · rw [reports, List.getElem?_append_left earlier]
      · rw [actsOf_proceed, if_neg earlier.ne', List.append_nil]
        rfl

theorem goOn (h : d.Accords errands) (number : Nat) (step : d.step? (.goOn number) = some d') :
    d'.Accords (errands ++ [.goOn number]) := by
  obtain ⟨r, begun, next, goes, rfl⟩ : ∃ r, d.reports[number]? = some r ∧ ∃ next,
      r.next? = some next ∧ d.proceed number { r with left := next } = d' := by
    simpa [step?, Option.bind_eq_some_iff] using step
  have bound := (List.getElem?_eq_some_iff.mp begun).1
  have length : (d.proceed number { r with left := next }).reports.length = d.reports.length :=
    List.length_set
  constructor
  · rw [List.filterMap_append]
    exact h.responders.trans (List.append_nil _).symm
  · rw [Errand.reports_append]
    exact length.trans h.length
  · intro c
    obtain ⟨before, i, after, split, rfl⟩ := Errand.exists_report (h.length ▸ bound)
    have shown := h.shows before i after split
    obtain rfl := Option.some.inj (begun.symm.trans shown.report)
    rw [List.countP_append]
    show (List.foldl countsAfter d.counts next.burst.1) c = _
    rw [foldl_countsAfter, Report.count_next? goes, h.counts c]
    rfl
  · rw [length]
    exact within_proceed h.within bound
  · intro before i after split
    rcases Errand.split_last split with ⟨_, other, _⟩ | ⟨rest, rfl, rfl⟩
    · cases other
    · have shown := h.shows before i rest rfl
      rw [List.countP_append, List.countP_singleton]
      by_cases own : number = Errand.reports before
      · subst own
        obtain rfl := Option.some.inj (begun.symm.trans shown.report)
        simpa [Errand.isEndIn] using shown.goOn goes
      · simp only [Errand.isEndIn, own, decide_false, Bool.false_eq_true, if_false, Nat.add_zero]
        apply shown.beside
        · exact List.getElem?_set_ne own
        · rw [actsOf_proceed, if_neg own, List.append_nil]

/-- Whatever errand comes next, a desk shows what came to it. -/
theorem step (h : d.Accords errands) {e : Errand} (step : d.step? e = some d') :
    d'.Accords (errands ++ [e]) := by
  cases e with
  | register context r =>
    obtain rfl := Option.some.inj step
    exact h.register context r
  | report i => exact h.report i step
  | goOn number => exact h.goOn number step

end Accords

/-! ### Any errands -/

theorem follow_concat (d : Desk) (errands : List Errand) (e : Errand) :
    d.follow (errands ++ [e]) = (d.follow errands).bind fun d' => d'.step? e := by
  unfold follow
  rw [List.foldlM_append]
  simp

/-- A new desk shows what came to it, after any errands in any order. -/
theorem accords_follow {errands : List Errand} (h : follow {} errands = some d) :
    d.Accords errands := by
  induction errands using List.reverseRecOn generalizing d with
  | nil =>
    obtain rfl := Option.some.inj h
    exact .start
  | append_singleton errands e ih =>
    rw [follow_concat] at h
    obtain ⟨before, followed, step⟩ := Option.bind_eq_some_iff.mp h
    exact (ih followed).step step

/-- How the report of an incident is handled, by its number, with some callbacks of which a number
have come to their ends. -/
structure Handles (d : Desk) (number : Nat) (i : Incident) (callbacks : List Callback)
    (ended : Nat) : Prop where
  ended_le : ended ≤ callbacks.length
  /-- It calls each of its callbacks once, in order, and always with its incident. -/
  calls : d.callsOf number =
    (callbacks.take (ended + 1)).map fun c => ⟨c.label, [.incident i]⟩
  /-- It logs its incident, and each callback that failed. -/
  records : d.recordsOf number =
    (Notice.incident i).toRecord ::
      ((callbacks.take ended).filterMap (·.failure)).map fun f => (Notice.callbackFailed f).toRecord
  levels : (d.recordsOf number).map (·.level) =
    i.severity.level ::
      List.replicate ((callbacks.take ended).countP (·.failure.isSome)) .error
  /-- It returns its incident at the end of the last callback. -/
  returned : d.returned? number = if ended = callbacks.length then some i else none
  /-- Nothing else ends it: otherwise it waits for the callback that it called last. -/
  waiting : ended < callbacks.length → ∃ c next, callbacks[ended]? = some c ∧
    d.reports[number]? = some ⟨i, .pause c.pause next⟩
  /-- It goes along a path through the task that a session runs for the same callbacks. -/
  path : ∀ (h : Handlers) (r : Registry), r.callbacks i.context = callbacks →
    ∃ left, d.reports[number]? = some ⟨i, left⟩ ∧ (r.report i .done).Path h (d.actsOf number) left
  /-- It can go on as long as it waits for a callback that comes to its end. -/
  goesOn : (d.step? (.goOn number)).isSome ↔
    ∃ c, callbacks[ended]? = some c ∧ c.pause ≠ .forever
  completes : (∀ c ∈ callbacks.drop ended, c.pause ≠ .forever) →
    ∃ d', d.follow (List.replicate (callbacks.length - ended) (.goOn number)) = some d' ∧
      d'.returned? number = some i

namespace Shows

variable {i : Incident} {callbacks : List Callback} {ended : Nat}

theorem step?_goOn (h : d.Shows number i callbacks ended) :
    d.step? (.goOn number) =
      (Report.next? ⟨i, i.leftAfter callbacks ended⟩).map fun next =>
        d.proceed number ⟨i, next⟩ := by
  show (d.reports[number]?.bind fun r => r.next?.bind fun next =>
    some (d.proceed number { r with left := next })) = _
  rw [h.report]
  exact Option.map_eq_bind.symm

theorem returned? (h : d.Shows number i callbacks ended) :
    d.returned? number = if ended = callbacks.length then some i else none := by
  unfold Desk.returned?
  rw [h.report]
  exact Report.returned?_leftAfter h.ended_le

/-- A report all of whose callbacks come to their ends comes to its own. -/
theorem completes {more : Nat} (h : d.Shows number i callbacks ended)
    (length : callbacks.length = ended + more)
    (ends : ∀ c ∈ callbacks.drop ended, c.pause ≠ .forever) :
    ∃ d', d.follow (List.replicate more (.goOn number)) = some d' ∧
      d'.returned? number = some i := by
  induction more generalizing d ended with
  | zero => exact ⟨d, rfl, h.returned?.trans (if_pos length.symm)⟩
  | succ more ih =>
    have inside : ended < callbacks.length := by omega
    have turn := List.getElem?_eq_getElem inside
    rw [List.drop_eq_getElem_cons inside] at ends
    have goes := Report.next?_of_turn (i := i) turn (ends _ List.mem_cons_self)
    obtain ⟨d', followed, returned⟩ := ih (h.goOn goes) (by omega)
      fun c mem => ends c (List.mem_cons_of_mem _ mem)
    refine ⟨d', ?_, returned⟩
    unfold follow at followed ⊢
    rw [List.replicate_succ, List.foldlM_cons, h.step?_goOn, goes]
    exact followed

theorem handles (h : d.Shows number i callbacks ended) :
    d.Handles number i callbacks ended where
  ended_le := h.ended_le
  calls := by
    unfold callsOf
    rw [h.acts]
    exact Incident.calls_actsUpTo i callbacks ended
  records := by
    unfold recordsOf
    rw [h.acts]
    exact Incident.records_actsUpTo i callbacks ended
  levels := by
    unfold recordsOf
    rw [h.acts, Incident.records_actsUpTo, List.map_cons, List.map_map]
    show _ :: List.map (fun _ => LogLevel.error) _ = _
    rw [List.map_const', List.length_filterMap_eq_countP]
    rfl
  returned := h.returned?
  waiting := by
    intro more
    have turn := List.getElem?_eq_getElem more
    exact ⟨_, _, turn, Incident.leftAfter_waiting turn ▸ h.report⟩
  path := by
    rintro handlers r rfl
    exact ⟨_, h.report, h.acts ▸ Incident.path_actsUpTo handlers r i h.ended_le⟩
  goesOn := by
    rw [h.step?_goOn, Option.isSome_map]
    constructor
    · intro goes
      obtain ⟨next, goes⟩ := Option.isSome_iff_exists.mp goes
      obtain ⟨c, turn, ends, _⟩ := Report.turn_of_next? goes
      exact ⟨c, turn, ends⟩
    · rintro ⟨c, turn, ends⟩
      rw [Report.next?_of_turn turn ends]
      rfl
  completes := h.completes (by have := h.ended_le; omega)

end Shows

/-- How a desk serves all that comes to it. -/
structure Serves (d : Desk) (errands : List Errand) : Prop where
  /-- Every report is counted in its context, and nothing else is. -/
  counts : ∀ c, d.counts c = errands.countP (Errand.isReportIn c)
  /-- Whatever is done is done by a report that has begun. -/
  within : ∀ x ∈ d.history, x.1 < Errand.reports errands
  /-- Every report is handled with the callbacks that were registered before it. -/
  handles : ∀ before i after, errands = before ++ .report i :: after →
    d.Handles (Errand.reports before) i (Errand.callbacks before i)
      (after.countP (Errand.isEndIn (Errand.reports before)))

/-- The report of a frame goes on after the report of a close has come to its end, although its
first callback fails, and it does not find the callback that was registered meanwhile. -/
def interleaved : List Errand :=
  let failing : Responder :=
    { label := "frames"
      conduct := fun _ _ => (.ofLength 1, some (.ofMessage .runtime "full")) }
  let prompt (label : String) : Responder := { label, conduct := fun _ _ => (.none, none) }
  [.register none (prompt "all"), .register (some .payload) failing,
    .report (.of (.ofMessage .value "bad") .payload), .register (some .payload) (prompt "late"),
    .report (.of (.ofMessage .endOfFile "gone") .close .high), .goOn 1, .goOn 0, .goOn 0]

end Desk

end BoxProbe
