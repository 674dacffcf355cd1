/-
Module: BoxProbe.Proofs.Session.Tally
Purpose: The failures that are counted during a run, against those that are put on record.
Trusted boundary: none
Main exports: Debt, owedAfter, Registry.tally, Client.keeps_tally_session, Trace.Owes,
  Trace.Owes.sum_eq, Probe.Moment.summed, Probe.SleepsIn, Probe.owes_unless_cut
-/
import BoxProbe.Proofs.Session.Keeping
import BoxProbe.Proofs.Session.Moments

namespace BoxProbe

/-!
A failure is counted before its callbacks are called, and put on record after all of them have come
to their ends.  In between a session owes the record, and it may rest there only while a callback
for that failure sleeps, which then is the last that the session has done.  A session that is cut
off then owes the record for ever.
-/

/-- A record that a session owes: the context of the failure, and the call of a callback for it that
is on its way. -/
structure Debt where
  context : ErrorContext
  call : Option (Time × Call) := none

/-- What a session owes after an act: it counts a failure if it owes none, and puts on record what
it owes.  What it does after a call shows that the callback has come to its end. -/
def owedAfter (owed : Option Debt) (t : Time) : Act → Option (Option Debt)
  | .counted context => if owed.isNone then some (some { context }) else none
  | .recorded incident =>
    if owed.map Debt.context = some incident.context then some none else none
  | .called call => some (owed.map fun debt => { debt with call := some (t, call) })
  | a => some (if a.isAside then owed else owed.map fun debt => { debt with call := none })

/-- A call changes nothing about which failure a record is owed for. -/
theorem Debt.map_context (owed : Option Debt) (call : Option (Time × Call)) :
    (owed.map fun debt => { debt with call }).map context = owed.map context := by
  cases owed <;> rfl

/-- A call that is on its way was made just now, or has been on its way before. -/
theorem owedAfter_call {owed : Option Debt} {debt : Debt} {t : Time} {a : Act} {x : Time × Call}
    (step : owedAfter owed t a = some (some debt)) (calling : debt.call = some x) :
    a = .called x.2 ∧ x.1 = t ∨ a.isAside = true ∧ owed = some debt := by
  have settled (o : Option Debt) : o.map (fun d => { d with call := none }) ≠ some debt := by
    cases o with
    | none => simp
    | some d =>
      rintro ⟨⟩
      cases calling
  cases a with
  | counted context =>
    simp only [owedAfter, Option.ite_none_right_eq_some, Option.some.injEq] at step
    obtain ⟨-, rfl⟩ := step
    cases calling
  | recorded incident => simp [owedAfter] at step
  | called call =>
    simp only [owedAfter, Option.some.injEq, Option.map_eq_some_iff] at step
    obtain ⟨d, -, rfl⟩ := step
    cases calling
    exact .inl ⟨rfl, rfl⟩
  | _ =>
    simp only [owedAfter, Option.some.injEq] at step
    split at step
    next aside => exact .inr ⟨aside, step⟩
    next => exact absurd step (settled owed)

/-- Whether a call that is on its way is that of a callback for the failure, and takes until an
instant or for ever. -/
def Debt.Sleeps (debt : Debt) (r : Registry) (wake : Option Time) : Prop :=
  ∃ callback ∈ r.callbacks debt.context, ∃ incident : Incident, incident.context = debt.context ∧
    ∃ t earlier, debt.call = some (t, ⟨callback.label, [.incident incident]⟩) ∧
      let pause := (callback.onCall earlier [.incident incident]).pause
      pause ≠ .none ∧ wake = pause.ends t

/-- The watch over what a session owes: it rests with a debt only where a callback sleeps. -/
def Registry.tally (r : Registry) : Watch (Option Debt) where
  start := none
  step := owedAfter
  rests
    | none, _ => True
    | some debt, .asleep wake => debt.Sleeps r wake
    | some _, _ => False
  aside owed t a aside := by
    cases a <;> first | exact congrArg some (if_pos aside) | cases aside

/-! ### A session pays what it owes -/

/-- A failure that is reported is put on record when its callbacks have come to their ends. -/
theorem Registry.permits_tally (r : Registry) (h : Handlers) : r.tally.Permits r h none where
  free _ := trivial
  routine _ a routine := by
    cases a <;> first | exact congrArg some (ite_self none) | rfl | cases routine
  report i next rest := by
    intro t seen _
    refine ⟨some { context := i.context }, rfl, some { context := i.context }, rfl, ?_⟩
    apply Activity.heeds_invokeAll (Q := fun owed => ∃ call, owed = some ⟨i.context, call⟩)
    · rintro _ t f ⟨call, rfl⟩
      exact ⟨_, rfl, none, rfl⟩
    · rw [Registry.callbacks_onReport, List.forall_mem_map]
      rintro callback inside _ t ⟨call, rfl⟩
      refine ⟨_, rfl, ⟨_, rfl⟩, fun slow => ?_⟩
      exact ⟨callback, inside, i, rfl, t, seen.calls, rfl, slow, rfl⟩
    · exact ⟨none, rfl⟩
    · rintro t' _ ⟨call, rfl⟩ _
      exact ⟨none, if_pos rfl, rest t'⟩

namespace Client

open Activity (Keeps)

variable {c : Client} {h : Handlers} {next : Activity}

theorem keeps_tally_sendAll (types : List MessageType)
    (rest : next.Keeps c.registry.tally h none) :
    (c.sendAll types next).Keeps c.registry.tally h none := by
  have permits := c.registry.permits_tally h
  induction types with
  | nil => exact rest
  | cons type more ih =>
    apply Keeps.act fun _ => rfl
    apply Keeps.look
    intro seen
    obtain ⟨number, outcome⟩ := nextSend seen
    apply Keeps.pause permits.free
    cases outcome.failure with
    | none => exact .act (fun _ => rfl) ih
    | some f => exact .act (fun _ => rfl) (keeps_onError permits f _ rest)

/-- A session pays what it owes, on every connection and with all handlers and callbacks. -/
theorem keeps_tally_session (c : Client) (h : Handlers) (url : String) (script : Script) :
    (c.session url script).Keeps c.registry.tally h none := by
  have permits := c.registry.permits_tally h
  apply permits.act rfl
  apply Keeps.act fun _ => rfl
  apply Keeps.pause permits.free
  cases script.connectFailure with
  | some f =>
    apply permits.act rfl
    exact keeps_onError permits f _ (keeps_onClose permits _ _)
  | none =>
    have greets : (c.onOpen c.receive).Keeps c.registry.tally h none := by
      apply permits.act rfl
      apply keeps_tally_sendAll
      have overlooks : c.registry.tally.Overlooks none Event.open.arguments .handlerFailed :=
        permits.overlooks fun _ => rfl
      exact .dispatchAll permits.free (fun _ => rfl) overlooks (keeps_receive permits)
    exact .act (fun _ => rfl) (permits.act rfl greets)

end Client

/-! ### What the history shows -/

namespace Trace

/-- The incidents of a context that were put on record. -/
def recordedIn (t : Trace) (context : ErrorContext) : List Incident :=
  t.errors.filter fun i => i.context = context

/-- A history that owes at most one record: all other failures that were counted are on record. -/
def Owes (t : Trace) (owed : Option ErrorContext) : Prop :=
  ∀ context, t.count context =
    (t.recordedIn context).length + if owed = some context then 1 else 0

theorem count_act (t : Trace) (instant : Time) (a : Act) (context : ErrorContext) :
    Trace.count (t ++ [(instant, a)]) context =
      t.count context + Trace.count [(instant, a)] context :=
  List.countP_append

theorem recordedIn_act (t : Trace) (instant : Time) (a : Act) (context : ErrorContext) :
    Trace.recordedIn (t ++ [(instant, a)]) context =
      t.recordedIn context ++ Trace.recordedIn [(instant, a)] context := by
  unfold recordedIn errors
  rw [List.filterMap_append, List.filter_append]

theorem Owes.act {t : Trace} {owed owed' : Option Debt} (h : t.Owes (owed.map Debt.context))
    (instant : Time) {a : Act} (step : owedAfter owed instant a = some owed') :
    Owes (t ++ [(instant, a)]) (owed'.map Debt.context) := by
  intro context
  rw [count_act, recordedIn_act, h context, List.length_append]
  cases a with
  | counted counted =>
    simp only [owedAfter, Option.ite_none_right_eq_some, Option.isNone_iff_eq_none,
      Option.some.injEq] at step
    obtain ⟨rfl, rfl⟩ := step
    by_cases same : counted = context <;> simp [count, recordedIn, errors, same]
  | recorded incident =>
    simp only [owedAfter, Option.ite_none_right_eq_some, Option.some.injEq] at step
    obtain ⟨same, rfl⟩ := step
    rw [same]
    by_cases same : incident.context = context <;> simp [count, recordedIn, errors, same]
  | called call =>
    simp only [owedAfter, Option.some.injEq] at step
    have same := step ▸ Debt.map_context owed (some (instant, call))
    simp [count, recordedIn, errors, same]
  | _ =>
    simp only [owedAfter, Option.some.injEq] at step
    have same : owed'.map Debt.context = owed.map Debt.context := by
      rw [← step]
      split
      next => rfl
      next => exact Debt.map_context owed none
    simp [count, recordedIn, errors, same]

/-- The watch over what a session owes knows what the history owes. -/
theorem owes_of_tally {r : Registry} {t : Trace} {owed : Option Debt}
    (h : r.tally.after? t = some owed) : t.Owes (owed.map Debt.context) := by
  apply Watch.after?_induct (P := fun t owed => t.Owes (owed.map Debt.context)) _ _ t h
  · intro context
    rfl
  · intro t q x q' holds step
    exact holds.act x.1 step

/-- A call that is on its way is the last that the session has done. -/
theorem called_of_tally {r : Registry} {t : Trace} {debt : Debt} {x : Time × Call}
    (h : r.tally.after? t = some (some debt)) (calling : debt.call = some x) :
    ∃ before after, t = before ++ (x.1, .called x.2) :: after ∧
      ∀ y ∈ after, y.2.isAside = true := by
  apply Watch.after?_induct (P := fun t owed => owed = some debt → ∃ before after : Trace,
    t = before ++ (x.1, .called x.2) :: after ∧ ∀ y ∈ after, y.2.isAside = true) _ _ t h rfl
  · rintro ⟨⟩
  · rintro t owed ⟨now, a⟩ _ earlier step rfl
    rcases owedAfter_call step calling with ⟨rfl, now⟩ | ⟨aside, same⟩
    · exact ⟨t, [], by simp [now], List.forall_mem_nil _⟩
    · obtain ⟨before, after, rfl, all⟩ := earlier same
      refine ⟨before, after ++ [(now, a)], by simp, ?_⟩
      rw [List.forall_mem_append, List.forall_mem_singleton]
      exact ⟨all, aside⟩

/-- What is owed is the difference of all counts to the number of records. -/
theorem Owes.sum_eq {t : Trace} {owed : Option ErrorContext} (h : t.Owes owed) :
    (ErrorContext.all.map t.count).sum = t.stats.errors + owed.toList.length := by
  have parts (errors : List Incident) :
      (ErrorContext.all.map fun context =>
        (errors.filter fun i => i.context = context).length).sum = errors.length := by
    induction errors with
    | nil => rfl
    | cons i rest ih =>
      rw [List.length_cons, ← ih]
      cases same : i.context <;> simp [ErrorContext.all, same] <;> omega
  have each : t.count = fun context =>
      (t.recordedIn context).length + if owed = some context then 1 else 0 := funext h
  have sums := parts t.errors
  rw [each]
  simp only [ErrorContext.all, List.map_cons, List.map_nil, List.sum_cons, List.sum_nil, recordedIn,
    stats] at sums ⊢
  cases owed with
  | none => simpa using sums
  | some context => cases context <;> simp <;> omega

end Trace

/-! ### Runs -/

namespace Probe

variable {c : Client} {now : Time} {script : Script} {p p' : Probe}

/-- Every summary that was logged shows what has happened, and the session is done. -/
structure Summed (p : Probe) : Prop where
  attended : p.Attended
  done : p.trace.summaries ≠ [] → p.sessionDone = true
  exact : ∀ summary ∈ p.trace.summaries, summary = p.trace.stats

theorem Attended.asides (h : p.Attended) (asides : p.Asides p') : p'.Attended := by
  obtain ⟨stop, a, stage, one, leaves, obeys⟩ := h
  exact ⟨stop, a, stage, asides.sessions.trans one, leaves, obeys⟩

theorem summaries_asides (asides : p.Asides p') :
    ∃ new, p'.trace.summaries = p.trace.summaries ++ new ∧
      ∀ summary ∈ new, p.sessionDone = true ∧ summary = p.trace.stats := by
  obtain ⟨more, trace, all⟩ := asides.trace
  refine ⟨Trace.summaries more, by rw [trace, Trace.summaries, List.filterMap_append]; rfl, ?_⟩
  intro summary inside
  obtain ⟨x, member, shown⟩ := List.mem_filterMap.mp inside
  obtain ⟨-, aside⟩ := all x member
  obtain ⟨instant, a⟩ := x
  cases a with
  | notice n =>
    cases n with
    | finished stats =>
      cases shown
      exact aside
    | _ => cases shown
  | _ => cases shown

namespace Summed

/-- Acts of a session come before the summary. -/
theorem session (h : p.Summed) (goes : p.sessionStep? = some p') : p'.Summed := by
  obtain ⟨a, stage, obeys, rfl, -⟩ := sessionStep?_eq h.attended goes
  obtain ⟨acts, stop, same, attended, own⟩ := runSession_spec (p := p) obeys
  have undone : p.sessionDone ≠ true := by
    intro done
    simp [sessionStep?, h.attended.eq_finished done, Stop.next?] at goes
  have none : p.trace.summaries = [] := by
    by_contra some
    exact undone (h.done some)
  have none' : (p.runSession a []).trace.summaries = [] := by
    rw [same, ← none]
    apply Trace.filterMap_append_of_none
    exact fun x inside => Act.summary?_of_own (own x inside)
  exact ⟨attended, fun some => absurd none' some, by simp [none']⟩

theorem asides (h : p.Summed) (asides : p.Asides p') : p'.Summed := by
  obtain ⟨new, shown, fresh⟩ := summaries_asides asides
  refine ⟨h.attended.asides asides, ?_, ?_⟩
  · intro some
    rw [asides.sessionDone_eq]
    rw [shown] at some
    by_cases before : p.trace.summaries = []
    · obtain ⟨summary, inside⟩ := List.exists_mem_of_ne_nil new (by simpa [before] using some)
      exact (fresh summary inside).1
    · exact h.done before
  · rw [shown, asides.stats_eq]
    intro summary inside
    rcases List.mem_append.mp inside with old | young
    · exact h.exact summary old
    · exact (fresh summary young).2

theorem cut (h : p.Summed) (undone : p.sessionDone = false) : p.cutSession.Summed := by
  obtain ⟨stop, -, stage, one, -, -⟩ := h.attended
  have none : p.trace.summaries = [] := by
    by_contra some
    simp [h.done some] at undone
  have none' : p.cutSession.trace.summaries = [] := by
    rw [← none]
    exact Trace.filterMap_append_of_none (by simp [Act.summary?])
  refine ⟨⟨.asleep (some p.now) .done, .done, stage, ?_, .asleep _ _, trivial⟩, ?_, ?_⟩
  · simp [cutSession, Probe.act, one]
  · exact fun some => absurd none' some
  · simp [none']

end Summed

/-- Every summary shows the numbers of the whole run. -/
theorem Moment.summed (h : Moment c now script p) : p.Summed := by
  apply h.induct (P := Summed) _ (fun _ _ => Summed.session) (fun _ _ => Summed.asides)
    (fun _ => Summed.cut) (fun p t h _ _ => ⟨h.attended, h.done, h.exact⟩)
  exact ⟨⟨_, _, _, rfl, .asleep _ _, Client.session_obeys c.settings.url script⟩,
    fun some => absurd rfl some, by simp [share, fresh, Probe.act, Trace.summaries, Act.summary?]⟩

/-- The session sleeps in a call of an error callback for an incident.  The call is the last that
the session has done, and the callback has not come to its end. -/
def SleepsIn (callback : Callback) (incident : Incident) (p : Probe) : Prop :=
  ∃ (before : Trace) (t : Time) (after : Trace) (earlier : List (Time × Call)) (next : Activity),
    p.trace = before ++ (t, .called ⟨callback.label, [.incident incident]⟩) :: after ∧
      (∀ x ∈ after, x.2.isAside = true) ∧
      let pause := (callback.onCall earlier [.incident incident]).pause
      pause ≠ .none ∧ p.sessions = [.asleep (pause.ends t) next] ∧
        ∀ wake, pause.ends t = some wake → p.now ≤ wake

namespace SleepsIn

variable {callback : Callback} {incident : Incident}

theorem undone (h : p.SleepsIn callback incident) : p.sessionDone ≠ true := by
  obtain ⟨_, _, _, _, _, _, _, _, asleep, _⟩ := h
  simp [sessionDone, asleep, Stop.isFinished]

theorem slow (h : p.SleepsIn callback incident) : ¬ callback.AtOnce := by
  obtain ⟨_, _, _, earlier, _, _, _, slow, _⟩ := h
  exact fun prompt => slow (prompt earlier [.incident incident])

end SleepsIn

/-- A session that rests with a debt sleeps in a callback for it. -/
theorem sleepsIn_of_rest {debt : Debt} {wake : Option Time}
    (sleeps : debt.Sleeps c.registry wake) : ∃ callback ∈ c.registry.callbacks debt.context,
      ∃ incident : Incident, incident.context = debt.context ∧
        ∀ b : Probe, c.registry.tally.after? b.trace = some (some debt) →
          b.Attending c.registry.tally (some debt) (.asleep wake) →
            b.SleepsIn callback incident := by
  obtain ⟨callback, inside, incident, same, t, earlier, calling, slow, rfl⟩ := sleeps
  refine ⟨callback, inside, incident, same, ?_⟩
  intro b seen attending
  obtain ⟨before, after, trace, all⟩ := Trace.called_of_tally seen calling
  obtain ⟨next, asleep⟩ := attending.sleeping
  exact ⟨before, t, after, earlier, next, trace, all, slow, asleep, attending.wakes⟩

/-- A probe with an error callback that sleeps for a minute. -/
def slowlyTold : Client :=
  { registry := [(none, { label := "cb", pause := .ofLength 60 })] }

/-- A connection that is refused. -/
def refusal : Script :=
  { connectFailure := some (.ofMessage .connectionRefused "refused") }

theorem slowlyTold_returns :
    ∃ r, (fresh slowlyTold 0).course refusal = .ok r ∧
      (r.1, r.2.trace.count .connection, r.2.trace.errors.length, r.2.trace.summaries) =
        (0, 1, 0, [⟨0, 0, 0, 0⟩]) :=
  Awaited.of_shown (by decide +kernel)

end Probe

end BoxProbe
