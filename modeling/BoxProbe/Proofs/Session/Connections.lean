/-
Module: BoxProbe.Proofs.Session.Connections
Purpose: Which acts change the connections of a run.
Trusted boundary: none
Main exports: Act.opened?, Trace.length_sockets, Act.Quiet, Trace.isClosed_append_of_quiet
-/
import BoxProbe.Session.Trace

namespace BoxProbe

/-- The connection that an act opens. -/
def Act.opened? : Act → Option Script
  | .opened script => some script
  | _ => none

/-- Whether an act leaves all connections and their state alone. -/
def Act.Quiet : Act → Prop
  | .notice _ | .received _ | .qrCode _ | .counted _ | .recorded _ | .dispatched _ | .called _ =>
    True
  | _ => False

namespace Trace

/-- The scripts of the connections that were opened. -/
def opened (t : Trace) : List Script :=
  t.filterMap fun x => x.2.opened?

theorem sockets_append (t : Trace) (instant : Time) (a : Act) :
    Trace.sockets (t ++ [(instant, a)]) = socketsAfter t.sockets instant a := by
  simp [sockets]

/-- Only the acts that open connections add to them. -/
theorem length_socketsAfter (sockets : List Socket) (instant : Time) (a : Act) :
    (socketsAfter sockets instant a).length = sockets.length + a.opened?.toList.length := by
  cases a <;> simp [socketsAfter, Act.opened?]

theorem length_sockets (t : Trace) : t.sockets.length = t.opened.length := by
  have grown : ∀ (t : Trace) (sockets : List Socket),
      (t.foldl (fun sockets x => socketsAfter sockets x.1 x.2) sockets).length =
        sockets.length + t.opened.length := by
    intro t
    induction t with
    | nil =>
      intro sockets
      rfl
    | cons x rest ih =>
      intro sockets
      rw [List.foldl_cons, ih, length_socketsAfter]
      cases opened : x.2.opened? <;> simp [Trace.opened, opened, Nat.add_assoc, Nat.add_comm]
  simpa [sockets] using grown t []

/-! ### Acts that leave the connections alone -/

theorem sockets_append_of_quiet {w : Trace} (quiet : ∀ x ∈ w, x.2.Quiet) :
    ∀ t : Trace, Trace.sockets (t ++ w) = t.sockets := by
  induction w with
  | nil =>
    intro t
    rw [List.append_nil]
  | cons x rest ih =>
    intro t
    have same : socketsAfter t.sockets x.1 x.2 = t.sockets := by
      have first := quiet x List.mem_cons_self
      cases act : x.2 <;> simp [act, Act.Quiet] at first <;> rfl
    have onward := ih (fun y inside => quiet y (List.mem_cons_of_mem x inside)) (t ++ [x])
    rw [List.append_assoc] at onward
    exact onward.trans ((sockets_append t x.1 x.2).trans same)

theorem isClosed_append_of_quiet {t w : Trace} (quiet : ∀ x ∈ w, x.2.Quiet) (socket : Option Nat) :
    Trace.isClosed (t ++ w) socket = t.isClosed socket := by
  unfold isClosed
  rw [sockets_append_of_quiet quiet]

theorem stateFrom_of_quiet {w : Trace} (quiet : ∀ x ∈ w, x.2.Quiet) (state : ConnectionState) :
    w.stateFrom state = state := by
  induction w with
  | nil => rfl
  | cons x rest ih =>
    have onward := ih fun y inside => quiet y (List.mem_cons_of_mem x inside)
    have first := quiet x List.mem_cons_self
    obtain ⟨instant, a⟩ := x
    cases a <;> simp only [Act.Quiet] at first
    all_goals exact onward

theorem state_append_of_quiet {t w : Trace} (quiet : ∀ x ∈ w, x.2.Quiet) :
    Trace.state (t ++ w) = t.state := by
  rw [state, stateFrom, List.foldl_append]
  exact stateFrom_of_quiet quiet _

end Trace

end BoxProbe
