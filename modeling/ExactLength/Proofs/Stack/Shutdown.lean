import ExactLength.Proofs.Sink.Recorded
import ExactLength.Proofs.Stack.History
import ExactLength.Script.Sinks

/-!
# Shutdowns through a stack

How far a shutdown goes that is asked of the top of a stack. A gate with nothing owed that passes a shutdown on
yields to it: the shutdown is noted and goes on to the next gate. It stops at the first gate that does not yield
(`Stack.shutdown_cascade`), which is one that was asked before, one that keeps a shutdown to itself, or one that still
owes bytes. The last turns the shutdown into a truncation, which goes through all gates below and to the base
whatever they say (`Stack.truncate_stacked`). If all gates yield, the base is terminated.

The base is an arbitrary sink, and the list of the calls that it hears shows what reaches it.
-/

namespace ExactLength

namespace Gate

/-- The gate once a shutdown is requested of it. -/
def requested (g : Gate) : Gate :=
  { g with budget := { g.budget with closing := true } }

/-- The gate lets a shutdown through: none was requested before, nothing is owed, and it passes a shutdown on. -/
structure Yields (g : Gate) : Prop where
  /-- No shutdown was requested before. -/
  closing : g.budget.closing = false
  /-- Nothing is owed. -/
  remaining : g.budget.remaining = 0
  /-- A shutdown is passed on. -/
  passesClose : g.passesClose = true

end Gate

namespace Stack

variable {σ : Type} (S : Sink σ)

/-! ### One gate more -/

theorem terminate_push_of_closing {n : Nat} {g : Gate} (h : g.budget.closing = true) (below : Stack σ n) :
    (S.stacked (n + 1)).terminate (push g below) = .ok () (push g below) := by
  show Gated.terminate (S.stacked n) ⟨g, below⟩ = _
  rw [Gated.terminate, Budget.close_of_closing h]
  rfl

theorem terminate_push_of_yields {n : Nat} {g : Gate} (h : g.Yields) (below : Stack σ n) :
    (S.stacked (n + 1)).terminate (push g below) =
      (((S.stacked n).terminate below).mapState (push g.requested)).after [.closePassedOn] := by
  show Gated.terminate (S.stacked n) ⟨g, below⟩ = _
  rw [Gated.terminate, Budget.close_of_clean h.closing h.remaining]
  exact if_pos h.passesClose

theorem terminate_push_of_keeps {n : Nat} {g : Gate} (h : g.budget.closing = false) (hr : g.budget.remaining = 0)
    (hkeeps : g.passesClose = false) (below : Stack σ n) :
    (S.stacked (n + 1)).terminate (push g below) = .ok () (push g.requested below) := by
  show Gated.terminate (S.stacked n) ⟨g, below⟩ = _
  rw [Gated.terminate, Budget.close_of_clean h hr]
  exact if_neg (Bool.eq_false_iff.1 hkeeps)

theorem terminate_push_of_owes {n : Nat} {g : Gate} (h : g.budget.closing = false) (hr : 0 < g.budget.remaining)
    (below : Stack σ n) :
    ((S.stacked (n + 1)).terminate (push g below)).result = .error (.underflow g.budget.remaining) ∧
      ((S.stacked (n + 1)).terminate (push g below)).state =
        push g.giveUp ((S.stacked n).truncate below).state := by
  show (Gated.terminate (S.stacked n) ⟨g, below⟩).result = _ ∧ (Gated.terminate (S.stacked n) ⟨g, below⟩).state = _
  rw [Gated.terminate, Budget.close_of_short h hr]
  exact ⟨rfl, rfl⟩

/-! ### Through the stack -/

/-- A truncation gives every gate up, and reaches the base. -/
theorem truncate_stacked {n : Nat} (s : Stack σ n) :
    ((S.stacked n).truncate s).state.gates = s.gates.map Gate.giveUp ∧
      ((S.stacked n).truncate s).state.base = (S.truncate s.base).state := by
  induction n with
  | zero => exact ⟨rfl, rfl⟩
  | succ n ih =>
    obtain ⟨gate, below, rfl⟩ := s.exists_push
    obtain ⟨hgates, hbase⟩ := ih below
    exact ⟨congrArg (gate.giveUp :: ·) hgates, hbase⟩

/-- What a shutdown of a stack comes to. -/
structure ShutsDown {n : Nat} (s : Stack σ n) (result : Except SinkError Unit) (gates : List Gate) (base : σ) :
    Prop where
  /-- What the caller gets. -/
  result : ((S.stacked n).terminate s).result = result
  /-- The gates afterwards. -/
  gates : ((S.stacked n).terminate s).state.gates = gates
  /-- The base afterwards. -/
  base : ((S.stacked n).terminate s).state.base = base

variable {S} {n : Nat} {s : Stack σ n} {outer inner : List Gate} {g : Gate}

/-- A shutdown goes through the gates that yield, and comes to what it comes to for the rest of the stack. -/
theorem shutsDown_of_yields {rest rest' : List Gate} {result : Except SinkError Unit} {base' : σ}
    (hgates : s.gates = outer ++ rest) (hyields : ∀ g ∈ outer, g.Yields)
    (hrest : ∀ {m : Nat} (t : Stack σ m), t.gates = rest → t.base = s.base → t.ShutsDown S result rest' base') :
    s.ShutsDown S result (outer.map Gate.requested ++ rest') base' := by
  induction outer generalizing n with
  | nil => exact hrest s hgates rfl
  | cons g outer ih =>
    cases n with
    | zero => cases hgates
    | succ n =>
      obtain ⟨gate, below, rfl⟩ := s.exists_push
      obtain ⟨rfl, hbelow⟩ := List.cons.inj hgates
      have hinner := ih hbelow (fun g hg => hyields g (List.mem_cons_of_mem _ hg)) hrest
      have hgate := terminate_push_of_yields S (hyields gate List.mem_cons_self) below
      refine ⟨?_, ?_, ?_⟩
      · rw [hgate]
        exact hinner.result
      · rw [hgate]
        exact congrArg (gate.requested :: ·) hinner.gates
      · rw [hgate]
        exact hinner.base

/-- A shutdown stops at the first gate that does not yield. -/
theorem shutsDown_at {stopped : List Gate} {result : Except SinkError Unit} {base' : σ}
    (hgates : s.gates = outer ++ g :: inner) (hyields : ∀ g ∈ outer, g.Yields)
    (hstop : ∀ {m : Nat} (below : Stack σ m), below.gates = inner → below.base = s.base →
      (push g below).ShutsDown S result stopped base') :
    s.ShutsDown S result (outer.map Gate.requested ++ stopped) base' := by
  refine shutsDown_of_yields hgates hyields fun {m} t ht hbase => ?_
  cases m with
  | zero => cases ht
  | succ m =>
    obtain ⟨gate, below, rfl⟩ := t.exists_push
    obtain ⟨rfl, hbelow⟩ := List.cons.inj ht
    exact hstop below hbelow hbase

theorem shutsDown_of_ok {s' : Stack σ n} (h : (S.stacked n).terminate s = .ok () s') :
    s.ShutsDown S (.ok ()) s'.gates s'.base := by
  refine ⟨?_, ?_, ?_⟩ <;> rw [h] <;> rfl

theorem shutsDown_at_closing (hgates : s.gates = outer ++ g :: inner) (hyields : ∀ g ∈ outer, g.Yields)
    (h : g.budget.closing = true) :
    s.ShutsDown S (.ok ()) (outer.map Gate.requested ++ g :: inner) s.base := by
  refine shutsDown_at hgates hyields fun below hbelow hbase => ?_
  rw [← hbelow, ← hbase]
  exact shutsDown_of_ok (terminate_push_of_closing S h below)

theorem shutsDown_at_keeps (hgates : s.gates = outer ++ g :: inner) (hyields : ∀ g ∈ outer, g.Yields)
    (h : g.budget.closing = false) (hr : g.budget.remaining = 0) (hkeeps : g.passesClose = false) :
    s.ShutsDown S (.ok ()) (outer.map Gate.requested ++ g.requested :: inner) s.base := by
  refine shutsDown_at hgates hyields fun below hbelow hbase => ?_
  rw [← hbelow, ← hbase]
  exact shutsDown_of_ok (terminate_push_of_keeps S h hr hkeeps below)

theorem shutsDown_at_owes (hgates : s.gates = outer ++ g :: inner) (hyields : ∀ g ∈ outer, g.Yields)
    (h : g.budget.closing = false) (hr : 0 < g.budget.remaining) :
    s.ShutsDown S (.error (.underflow g.budget.remaining))
      (outer.map Gate.requested ++ (g :: inner).map Gate.giveUp) (S.truncate s.base).state := by
  refine shutsDown_at hgates hyields fun below hbelow hbase => ?_
  obtain ⟨hresult, hstate⟩ := terminate_push_of_owes S h hr below
  obtain ⟨hinner, hbase'⟩ := truncate_stacked S below
  refine ⟨hresult, ?_, ?_⟩
  · rw [hstate, gates_push, hinner, hbelow]
    rfl
  · rw [hstate, base_push, hbase', hbase]

/-- If all gates yield, the base is terminated. -/
theorem shutsDown_at_base (hyields : ∀ g ∈ s.gates, g.Yields) :
    s.ShutsDown S (S.terminate s.base).result (s.gates.map Gate.requested) (S.terminate s.base).state := by
  rw [← List.append_nil (s.gates.map Gate.requested)]
  refine shutsDown_of_yields (List.append_nil _).symm hyields fun {m} t ht hbase => ?_
  cases m with
  | zero =>
    obtain rfl : t = s.base := hbase
    exact ⟨rfl, rfl, rfl⟩
  | succ m =>
    obtain ⟨gate, below, rfl⟩ := t.exists_push
    cases ht

end Stack

/-! ### Once in a cycle -/

/-- A gate was shut down and passed that on, as a shutdown or as a truncation. -/
def Exchange.isPassedShutdown (x : Exchange) : Bool :=
  x.call == .terminate && x.below.isSome

/-- A gate passes a shutdown on only if none was requested before. -/
theorem Gate.closing_of_isPassedShutdown {g : Gate} {x : Exchange} (h : g.Hears x)
    (hx : x.isPassedShutdown = true) : g.budget.closing = false := by
  obtain ⟨call, below⟩ := x
  simp only [Exchange.isPassedShutdown, Bool.and_eq_true, beq_iff_eq] at hx
  obtain ⟨rfl, hbelow⟩ := hx
  rw [Bool.eq_false_iff, Ne, ← Budget.close_fst_eq_repeated_iff]
  intro hrepeated
  simp only [Hears, plan, planShutdown, hrepeated] at h
  rw [h] at hbelow
  cases hbelow

namespace Cycle

/-- Of the shutdowns of a gate in the cycle, one at most was passed on. -/
def PassesOnce (c : Cycle) : Prop :=
  c.past.countP Exchange.isPassedShutdown ≤ 1

theorem PassesOnce.next {c : Cycle} (hsound : c.Sound) (h : c.PassesOnce) {e : Episode} (he : c.gate.Meets e) :
    (c.next e).PassesOnce := by
  cases e with
  | cycle length passesClose checked => exact Nat.zero_le 1
  | exchange x =>
    show (c.past ++ [x]).countP Exchange.isPassedShutdown ≤ 1
    rw [List.countP_append, List.countP_singleton]
    by_cases hx : x.isPassedShutdown = true
    · -- no shutdown was requested before, so none was passed on
      have hnone : c.past.countP Exchange.isPassedShutdown = 0 := by
        rw [List.countP_eq_zero]
        intro y hy hpassed
        have hrequest : y.IsRequest := by
          simp only [Exchange.isPassedShutdown, Bool.and_eq_true, beq_iff_eq] at hpassed
          exact Or.inl hpassed.1
        have hclosing := hsound.closing.2 ⟨y, hy, hrequest⟩
        rw [Gate.closing_of_isPassedShutdown he hx] at hclosing
        cases hclosing
      simp [hnone, hx]
    · simpa [PassesOnce, hx] using h

theorem PassesOnce.follow {c : Cycle} (hsound : c.Sound) (h : c.PassesOnce) {episodes : List Episode}
    (he : c.gate.MeetsAll episodes) : (c.follow episodes).PassesOnce := by
  induction episodes generalizing c with
  | nil => exact h
  | cons e rest ih =>
    obtain ⟨hfirst, hrest⟩ := he
    rw [← gate_next] at hrest
    exact ih (hsound.next hfirst) (h.next hsound hfirst) hrest

end Cycle

namespace Stack

variable {σ : Type}

/-- **How far a shutdown goes.** Of a stack over any base, whose calls are listed, the shutdown goes through the
gates that yield. At the first that does not, it stops: one that was asked before keeps what is below as it is, and
so does one that has nothing owed and keeps the shutdown to itself; one that owes bytes is given up with all gates
below it, the base is truncated, once, and the shortfall is the result whatever comes of that. If all yield, the
base is terminated, once, and answers. In any run, a gate passes one of the shutdowns of a cycle on at most. -/
theorem shutdown_cascade (S : Sink σ) {n : Nat} (s : Stack (σ × List Call) n) :
    (∀ outer g inner, s.gates = outer ++ g :: inner → (∀ h ∈ outer, h.Yields) →
      (g.budget.closing = true →
        s.ShutsDown S.recorded (.ok ()) (outer.map Gate.requested ++ g :: inner) s.base) ∧
      (g.budget.closing = false → g.budget.remaining = 0 → g.passesClose = false →
        s.ShutsDown S.recorded (.ok ()) (outer.map Gate.requested ++ g.requested :: inner) s.base) ∧
      (g.budget.closing = false → 0 < g.budget.remaining →
        s.ShutsDown S.recorded (.error (.underflow g.budget.remaining))
          (outer.map Gate.requested ++ (g :: inner).map Gate.giveUp)
          ((S.truncate s.base.1).state, s.base.2 ++ [.truncate]))) ∧
    ((∀ g ∈ s.gates, g.Yields) →
      s.ShutsDown S.recorded (S.terminate s.base.1).result (s.gates.map Gate.requested)
        ((S.terminate s.base.1).state, s.base.2 ++ [.terminate])) ∧
    (s.IsNew → ∀ level g, s.gates[level]? = some g → ∀ moves,
      (s.cycle S.recorded level g moves).past.countP Exchange.isPassedShutdown ≤ 1) := by
  refine ⟨?_, shutsDown_at_base, ?_⟩
  · intro outer g inner hgates hyields
    refine ⟨?_, ?_, ?_⟩
    · intro hclosing
      exact shutsDown_at_closing hgates hyields hclosing
    · intro hopen hnothing hkeeps
      exact shutsDown_at_keeps hgates hyields hopen hnothing hkeeps
    · intro hopen howed
      exact shutsDown_at_owes hgates hyields hopen howed
  · intro hnew level g hg moves
    have hsound := (hnew g (List.mem_of_getElem? hg)).sound
    have hstart : Cycle.PassesOnce ⟨g, true, []⟩ := Nat.zero_le 1
    exact hstart.follow hsound (s.lived_run S.recorded moves level g hg).1

/-- A gate with nothing to pass over one that owes two bytes and one that owes seven, over a base that fails to be
truncated. -/
def owing : Stack (Script × List Call) 3 :=
  push (gateFor 0) (push (gateFor 2) (push (gateFor 7) (ofBase ({ truncations := [.fail .closedChannel] }, []))))

/-- The second gate reports its shortfall, the third is given up, and of two shutdowns the first gate passed one. -/
theorem shutdown_cascade_owing :
    owing.gates = [gateFor 0, gateFor 2, gateFor 7] ∧ (gateFor 0).Yields ∧
      (Script.leastSink.truncate owing.base.1).result = .error .closedChannel ∧
      owing.ShutsDown Script.leastSink.recorded (.error (.underflow 2))
        [(gateFor 0).requested, (gateFor 2).giveUp, (gateFor 7).giveUp]
        ((Script.leastSink.truncate owing.base.1).state, [.truncate]) ∧
      owing.IsNew ∧
      let past := (owing.cycle Script.leastSink.recorded 0 (gateFor 0) [.call 0 .terminate, .call 0 .terminate]).past
      past.map Exchange.call = [.terminate, .terminate] ∧ past.countP Exchange.isPassedShutdown ≤ 1 := by
  have hyields : (gateFor 0).Yields := ⟨rfl, rfl, rfl⟩
  have hnew : owing.IsNew := by
    apply IsNew.push (isNew_gateFor (by decide))
    apply IsNew.push (isNew_gateFor (by decide))
    exact IsNew.push (isNew_gateFor (by decide)) (isNew_ofBase _)
  obtain ⟨hwalk, -, honce⟩ := shutdown_cascade Script.leastSink owing
  have hshort := (hwalk [gateFor 0] (gateFor 2) [gateFor 7] rfl (by simpa using hyields)).2.2 rfl (by decide)
  exact ⟨rfl, hyields, rfl, hshort, hnew, rfl, honce hnew 0 _ rfl _⟩

end Stack

end ExactLength
