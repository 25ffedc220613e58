import ExactLength.Proofs.Gate.Cycle
import ExactLength.Stack.Move

/-!
# Histories of a stack

What happens to the gates of a stack in a run, gate by gate. `Stack.exchanges` lists the exchanges of one call,
each with the level of its gate, in the order in which they end: a gate that passes a call on has its answer when
all that lies below is done. `Stack.history` does so for a list of moves, and `heardAt` picks out what concerns one
level.

The main statement is `Stack.lived_run`: over any sink, the gates after a run are those at its start, each having
lived through its own part of the history. Hence every gate is at any time in a sound cycle (`Stack.cycle_sound`).

What one exchange has, a history has: `Stack.Pervasive` states what is to be shown of a gate that answers and of one
that passes a call on, and `Stack.Pervasive.history` carries it through the levels and the moves of a run.
-/

namespace ExactLength

/-! ### What concerns one level -/

/-- What happened one level further down. -/
def deeper {α : Type} (happened : List (Nat × α)) : List (Nat × α) :=
  happened.map fun (level, a) => (level + 1, a)

/-- What happened at a level. -/
def heardAt {α : Type} (level : Nat) (happened : List (Nat × α)) : List α :=
  happened.filterMap fun (l, a) => if l = level then some a else none

section Levels

variable {α : Type}

@[simp] theorem heardAt_append (level : Nat) (first rest : List (Nat × α)) :
    heardAt level (first ++ rest) = heardAt level first ++ heardAt level rest := by
  simp [heardAt]

theorem heardAt_self (level : Nat) (a : α) : heardAt level [(level, a)] = [a] := by
  simp [heardAt]

theorem heardAt_of_ne {level l : Nat} (h : l ≠ level) (a : α) : heardAt level [(l, a)] = [] := by
  simp [heardAt, h]

@[simp] theorem heardAt_zero_deeper (happened : List (Nat × α)) : heardAt 0 (deeper happened) = [] := by
  simp [heardAt, deeper, List.filterMap_map]

@[simp] theorem heardAt_succ_deeper (level : Nat) (happened : List (Nat × α)) :
    heardAt (level + 1) (deeper happened) = heardAt level happened := by
  unfold heardAt deeper
  rw [List.filterMap_map]
  congr 1
  funext ⟨l, a⟩
  simp

end Levels

/-- Each gate of a list lived through what happened at its level, and stands as that leaves it. -/
def Lived (gates gates' : List Gate) (happened : List (Nat × Episode)) : Prop :=
  ∀ level g, gates[level]? = some g →
    g.MeetsAll (heardAt level happened) ∧
      gates'[level]? = some ((heardAt level happened).foldl Gate.live g)

namespace Lived

theorem refl (gates : List Gate) : Lived gates gates [] :=
  fun _ _ h => ⟨trivial, h⟩

theorem trans {gates gates' gates'' : List Gate} {first rest : List (Nat × Episode)}
    (h : Lived gates gates' first) (h' : Lived gates' gates'' rest) : Lived gates gates'' (first ++ rest) := by
  intro level g hg
  obtain ⟨hmeets, hg'⟩ := h level g hg
  obtain ⟨hmeets', hg''⟩ := h' level _ hg'
  rw [heardAt_append, Gate.meetsAll_append, List.foldl_append]
  exact ⟨⟨hmeets, hmeets'⟩, hg''⟩

/-- What happened below a gate does not concern it. -/
theorem below (g : Gate) {gates gates' : List Gate} {happened : List (Nat × Episode)}
    (h : Lived gates gates' happened) : Lived (g :: gates) (g :: gates') (deeper happened) := by
  intro level g' hg'
  cases level with
  | zero =>
    rw [heardAt_zero_deeper]
    exact ⟨trivial, hg'⟩
  | succ level =>
    rw [heardAt_succ_deeper]
    exact h level g' hg'

/-- What happens to the top gate concerns no other. -/
theorem top {g : Gate} {e : Episode} (h : g.Meets e) (gates : List Gate) :
    Lived (g :: gates) (g.live e :: gates) [(0, e)] := by
  intro level g' hg'
  cases level with
  | zero =>
    cases hg'
    exact ⟨⟨h, trivial⟩, rfl⟩
  | succ level =>
    rw [heardAt_of_ne (Nat.succ_ne_zero level).symm]
    exact ⟨trivial, hg'⟩

/-- What happens to one gate concerns no other. -/
theorem set {gates : List Gate} {level : Nat} {g : Gate} {e : Episode} (hg : gates[level]? = some g)
    (h : g.Meets e) : Lived gates (gates.set level (g.live e)) [(level, e)] := by
  intro l g' hg'
  by_cases hl : level = l
  · subst hl
    obtain rfl : g = g' := Option.some.inj (hg.symm.trans hg')
    rw [heardAt_self]
    obtain ⟨hlt, -⟩ := List.getElem?_eq_some_iff.1 hg
    exact ⟨⟨h, trivial⟩, by simp [hlt]⟩
  · rw [heardAt_of_ne hl]
    exact ⟨trivial, by rw [List.getElem?_set_ne hl]; exact hg'⟩

/-- What happens where there is no gate concerns none. -/
theorem beyond {gates : List Gate} {level : Nat} (h : gates[level]? = none) (e : Episode) :
    Lived gates gates [(level, e)] := by
  intro l g hg
  have hl : level ≠ l := by
    rintro rfl
    rw [h] at hg
    cases hg
  rw [heardAt_of_ne hl]
  exact ⟨trivial, hg⟩

end Lived

namespace Stack

variable {σ : Type} (S : Sink σ)

/-! ### Histories -/

/-- The exchanges of the gates of a stack in a call that does not bring the last data. -/
def exchanges : {n : Nat} → Stack σ n → Call → List (Nat × Episode)
  | 0, _, _ => []
  | n + 1, ⟨gate, below⟩, call =>
    match gate.plan call with
    | .answer _ => [(0, .exchange ⟨call, none⟩)]
    | .pass down _ =>
      deeper (exchanges below down) ++ [(0, .exchange ⟨call, some ((S.stacked n).perform below down).result⟩)]

/-- The exchanges of the gates of a stack in any call: those of its opening, and those of the termination that may
follow. -/
def callExchanges {n : Nat} (s : Stack σ n) (call : Call) : List (Nat × Episode) :=
  let opened := (S.stacked n).perform s call.opening
  s.exchanges S call.opening ++
    if Sink.goesOn call opened then exchanges S opened.state.1 .terminate else []

/-- The exchanges of the gates of a stack in a call that enters at a level. -/
def exchangesAt : {n : Nat} → Stack σ n → (level : Nat) → Call → List (Nat × Episode)
  | _, s, 0, call => s.callExchanges S call
  | 0, _, _ + 1, _ => []
  | _ + 1, ⟨_, below⟩, level + 1, call => deeper (exchangesAt below level call)

/-- What happens to the gates of a stack in a move. -/
def episodes {n : Nat} (s : Stack σ n) : Move → List (Nat × Episode)
  | .call level call => s.exchangesAt S level call
  | .renew level length passesClose =>
    match s.renew level length passesClose with
    | .ok _ => [(level, .cycle length passesClose true)]
    | .error _ => []
  | .restart level length passesClose => [(level, .cycle length passesClose false)]

/-- The stack after a number of moves. -/
def run {n : Nat} (s : Stack σ n) : List Move → Stack σ n
  | [] => s
  | m :: rest => run (s.move S m).state.1 rest

/-- What happens to the gates of a stack in a number of moves. -/
def history {n : Nat} (s : Stack σ n) : List Move → List (Nat × Episode)
  | [] => []
  | m :: rest => s.episodes S m ++ history (s.move S m).state.1 rest

theorem run_append {n : Nat} (s : Stack σ n) (first rest : List Move) :
    s.run S (first ++ rest) = (s.run S first).run S rest := by
  induction first generalizing s with
  | nil => rfl
  | cons m first ih => exact ih _

/-! ### One gate more -/

theorem exists_push {n : Nat} (s : Stack σ (n + 1)) : ∃ gate below, s = push gate below :=
  ⟨Gated.gate s, Gated.below s, rfl⟩

/-- A call that the top gate answers by itself. -/
theorem perform_push_answer {n : Nat} {gate : Gate} {call : Call} {result : Except SinkError Yield}
    (hlast : call.isLast = false) (h : gate.plan call = .answer result) (below : Stack σ n) :
    ((S.stacked (n + 1)).perform (push gate below) call).result = result ∧
      ((S.stacked (n + 1)).perform (push gate below) call).state = (push (gate.hear call) below, call) :=
  (S.stacked n).perform_gated_answer (g := ⟨gate, below⟩) hlast h

/-- A call that the top gate passes on. -/
theorem perform_push_pass {n : Nat} {gate : Gate} {call down : Call} {shortfall : Option UInt64}
    (hlast : call.isLast = false) (h : gate.plan call = .pass down shortfall) (below : Stack σ n) :
    ((S.stacked (n + 1)).perform (push gate below) call).result =
        shortfall.elim ((S.stacked n).perform below down).result (fun owed => .error (.underflow owed)) ∧
      ((S.stacked (n + 1)).perform (push gate below) call).state =
        (push ((gate.hear call).learn call ((S.stacked n).perform below down).result)
            ((S.stacked n).perform below down).state.1,
          call.restore ((S.stacked n).perform below down).state.2) :=
  (S.stacked n).perform_gated_pass (g := ⟨gate, below⟩) hlast h

theorem exchanges_push_answer {n : Nat} {gate : Gate} {call : Call} {result : Except SinkError Yield}
    (h : gate.plan call = .answer result) (below : Stack σ n) :
    (push gate below).exchanges S call = [(0, .exchange ⟨call, none⟩)] := by
  simp only [push, exchanges, h]

theorem exchanges_push_pass {n : Nat} {gate : Gate} {call down : Call} {shortfall : Option UInt64}
    (h : gate.plan call = .pass down shortfall) (below : Stack σ n) :
    (push gate below).exchanges S call =
      deeper (below.exchanges S down) ++
        [(0, .exchange ⟨call, some ((S.stacked n).perform below down).result⟩)] := by
  simp only [push, exchanges, h]

/-! ### What all exchanges have in common -/

/-- A property that every exchange of a gate over the sink has if its call is of some kind. What a gate passes on of such
a call is of that kind again. -/
structure Pervasive (S : Sink σ) (Kind : Call → Prop) (P : Episode → Prop) : Prop where
  /-- What is passed on is of the kind. -/
  down : ∀ {g : Gate} {call down : Call} {shortfall : Option UInt64},
    g.Passes call down shortfall → Kind call → Kind down
  /-- A gate answers the call by itself. -/
  answered : ∀ {call : Call}, Kind call → P (.exchange ⟨call, none⟩)
  /-- A gate passes the call on. -/
  passed : ∀ {n : Nat} {g : Gate} {call down : Call} {shortfall : Option UInt64} (below : Stack σ n),
    g.Passes call down shortfall → Kind call → P (.exchange ⟨call, some ((S.stacked n).perform below down).result⟩)

namespace Pervasive

variable {S} {Kind : Call → Prop} {P : Episode → Prop} (h : Pervasive S Kind P)

include h

theorem exchanges {n : Nat} (s : Stack σ n) {call : Call} (hlast : call.isLast = false) (hcall : Kind call) :
    ∀ e ∈ s.exchanges S call, P e.2 := by
  induction n generalizing call with
  | zero => exact fun _ he => absurd he List.not_mem_nil
  | succ n ih =>
    obtain ⟨gate, below, rfl⟩ := s.exists_push
    cases hplan : gate.plan call with
    | answer result =>
      rw [exchanges_push_answer S hplan]
      exact List.forall_mem_singleton.2 (h.answered hcall)
    | pass down shortfall =>
      have hpass := Gate.passes_of_plan hlast hplan
      rw [exchanges_push_pass S hplan, List.forall_mem_append]
      refine ⟨?_, List.forall_mem_singleton.2 (h.passed below hpass hcall)⟩
      exact List.forall_mem_map.2 (ih below hpass.isLast_down (h.down hpass hcall))

/-- The termination that may follow the last data has to be of the kind, too. -/
theorem callExchanges {n : Nat} (s : Stack σ n) {call : Call} (hopening : Kind call.opening)
    (hending : call.isLast = true → Kind .terminate) : ∀ e ∈ s.callExchanges S call, P e.2 := by
  rw [Stack.callExchanges, List.forall_mem_append]
  refine ⟨h.exchanges s call.isLast_opening hopening, ?_⟩
  split
  · next hgoesOn =>
    simp only [Sink.goesOn, Bool.and_eq_true] at hgoesOn
    exact h.exchanges _ rfl (hending hgoesOn.1.1)
  · exact fun _ he => absurd he List.not_mem_nil

theorem exchangesAt {n : Nat} (s : Stack σ n) (level : Nat) {call : Call} (hopening : Kind call.opening)
    (hending : call.isLast = true → Kind .terminate) : ∀ e ∈ s.exchangesAt S level call, P e.2 := by
  induction n generalizing level with
  | zero =>
    cases level with
    | zero => exact h.callExchanges s hopening hending
    | succ level => exact fun _ he => absurd he List.not_mem_nil
  | succ n ih =>
    cases level with
    | zero => exact h.callExchanges s hopening hending
    | succ level =>
      obtain ⟨gate, below, rfl⟩ := s.exists_push
      exact List.forall_mem_map.2 (ih below level)

/-- If all calls of a run are of the kind, all that happens to its gates has the property, new cycles included. -/
theorem history (hcycle : ∀ length passesClose checked, P (.cycle length passesClose checked)) {n : Nat}
    (s : Stack σ n) {moves : List Move}
    (hmoves : ∀ level call, .call level call ∈ moves → Kind call.opening ∧ (call.isLast = true → Kind .terminate)) :
    ∀ e ∈ s.history S moves, P e.2 := by
  induction moves generalizing s with
  | nil => exact fun _ he => absurd he List.not_mem_nil
  | cons m rest ih =>
    refine List.forall_mem_append.2 ⟨?_, ih _ fun level call hm => hmoves level call (List.mem_cons_of_mem m hm)⟩
    cases m with
    | call level call =>
      obtain ⟨hopening, hending⟩ := hmoves level call List.mem_cons_self
      exact h.exchangesAt s level hopening hending
    | renew level length passesClose =>
      simp only [episodes]
      split
      · exact List.forall_mem_singleton.2 (hcycle length passesClose true)
      · exact fun _ he => absurd he List.not_mem_nil
    | restart level length passesClose => exact List.forall_mem_singleton.2 (hcycle length passesClose false)

end Pervasive

/-! ### The gates live through their histories -/

theorem lived_exchanges {n : Nat} (s : Stack σ n) {call : Call} (hlast : call.isLast = false) :
    Lived s.gates (gates ((S.stacked n).perform s call).state.1) (s.exchanges S call) := by
  induction n generalizing call with
  | zero => exact Lived.refl _
  | succ n ih =>
    obtain ⟨gate, below, rfl⟩ := s.exists_push
    cases hplan : gate.plan call with
    | answer result =>
      rw [(perform_push_answer S hlast hplan below).2, exchanges_push_answer S hplan, gates_push, gates_push]
      have hmeets : gate.Meets (.exchange ⟨call, none⟩) := by simp [Gate.Meets, Gate.Hears, hplan]
      exact Lived.top hmeets _
    | pass down shortfall =>
      rw [(perform_push_pass S hlast hplan below).2, exchanges_push_pass S hplan, gates_push, gates_push]
      have hmeets : gate.Meets (.exchange ⟨call, some ((S.stacked n).perform below down).result⟩) := by
        simp [Gate.Meets, Gate.Hears, hplan]
      exact (Lived.below gate (ih below (Gate.passes_of_plan hlast hplan).isLast_down)).trans
        (Lived.top hmeets _)

theorem lived_callExchanges {n : Nat} (s : Stack σ n) (call : Call) :
    Lived s.gates (gates ((S.stacked n).perform s call).state.1) (s.callExchanges S call) := by
  have hopen := s.lived_exchanges S call.isLast_opening
  rw [Sink.perform_state, callExchanges]
  split
  · exact hopen.trans (lived_exchanges S _ rfl)
  · rw [List.append_nil]
    exact hopen

theorem lived_exchangesAt {n : Nat} (s : Stack σ n) (level : Nat) (call : Call) :
    Lived s.gates (gates (s.performAt S level call).state.1) (s.exchangesAt S level call) := by
  induction n generalizing level with
  | zero =>
    cases level with
    | zero => exact s.lived_callExchanges S call
    | succ level => exact Lived.refl _
  | succ n ih =>
    cases level with
    | zero => exact s.lived_callExchanges S call
    | succ level =>
      obtain ⟨gate, below, rfl⟩ := s.exists_push
      exact Lived.below gate (ih below level)

theorem renew_eq_ok_iff {n : Nat} {s s' : Stack σ n} {level : Nat} {length : UInt64} {passesClose : Bool} :
    s.renew level length passesClose = .ok s' ↔
      (∃ g, s.gates[level]? = some g ∧ g.budget.ended = true ∧ length ≤ maxContentLength ∧
          s' = s.setGate level (g.restart length passesClose)) ∨
        s.gates[level]? = none ∧ s' = s := by
  unfold renew
  cases hg : s.gates[level]? with
  | none =>
    simp only [Except.ok.injEq, true_and, reduceCtorEq, false_and, exists_false, false_or]
    exact eq_comm
  | some g =>
    simp only [map_eq_ok_iff, Gate.renew_eq_ok_iff]
    constructor
    · rintro ⟨g', ⟨he, hle, rfl⟩, rfl⟩
      exact Or.inl ⟨g, rfl, he, hle, rfl⟩
    · rintro (⟨g', hg', he, hle, rfl⟩ | ⟨hnone, -⟩)
      · cases hg'
        exact ⟨_, ⟨he, hle, rfl⟩, rfl⟩
      · cases hnone

theorem lived_renew {n : Nat} {s s' : Stack σ n} {level : Nat} {length : UInt64} {passesClose : Bool}
    (h : s.renew level length passesClose = .ok s') :
    Lived s.gates s'.gates [(level, .cycle length passesClose true)] := by
  rcases renew_eq_ok_iff.1 h with ⟨g, hg, he, hle, rfl⟩ | ⟨hnone, rfl⟩
  · rw [gates_setGate]
    exact Lived.set (e := .cycle length passesClose true) hg fun _ => ⟨he, hle⟩
  · exact Lived.beyond hnone _

theorem lived_restart {n : Nat} (s : Stack σ n) (level : Nat) (length : UInt64) (passesClose : Bool) :
    Lived s.gates (s.restart level length passesClose).2.gates [(level, .cycle length passesClose false)] := by
  unfold restart
  cases hg : s.gates[level]? with
  | none => exact Lived.beyond hg _
  | some g =>
    rw [gates_setGate]
    exact Lived.set (e := .cycle length passesClose false) hg fun h => by cases h

theorem lived_move {n : Nat} (s : Stack σ n) (m : Move) :
    Lived s.gates (s.move S m).state.1.gates (s.episodes S m) := by
  cases m with
  | call level call => exact s.lived_exchangesAt S level call
  | renew level length passesClose =>
    simp only [move, episodes]
    cases hr : s.renew level length passesClose with
    | ok s' => exact lived_renew hr
    | error e => exact Lived.refl _
  | restart level length passesClose => exact s.lived_restart level length passesClose

/-- The gates after a run are those at its start, each having lived through its part of the history. -/
theorem lived_run {n : Nat} (s : Stack σ n) (moves : List Move) :
    Lived s.gates (s.run S moves).gates (s.history S moves) := by
  induction moves generalizing s with
  | nil => exact Lived.refl _
  | cons m rest ih => exact (s.lived_move S m).trans (ih _)

/-! ### Cycles -/

/-- All gates of the stack are as they were made. -/
def IsNew {n : Nat} (s : Stack σ n) : Prop :=
  ∀ g ∈ s.gates, g.IsNew

theorem isNew_ofBase (b : σ) : (ofBase b).IsNew := by
  intro g hg
  cases hg

theorem IsNew.push {n : Nat} {g : Gate} {s : Stack σ n} (hg : g.IsNew) (hs : s.IsNew) : (push g s).IsNew := by
  intro g' hg'
  rcases List.mem_cons.1 hg' with rfl | hg'
  · exact hg
  · exact hs g' hg'

/-- A new gate for so many bytes that passes a shutdown on. -/
def gateFor (length : UInt64) : Gate :=
  ⟨Budget.fresh length, true, true, true, 0⟩

theorem isNew_gateFor {length : UInt64} (h : length ≤ maxContentLength) : (gateFor length).IsNew :=
  ⟨⟨length, true, true⟩, true, Gate.ofConfig_eq_ok_iff.2 ⟨h, rfl⟩⟩

/-- The cycle that a gate at a level is in after a run, when it was new at the start. -/
def cycle {n : Nat} (s : Stack σ n) (level : Nat) (g : Gate) (moves : List Move) : Cycle :=
  Cycle.follow ⟨g, true, []⟩ (heardAt level (s.history S moves))

/-- After any run each gate is in a sound cycle. -/
theorem cycle_sound {n : Nat} {s : Stack σ n} (hnew : s.IsNew) {level : Nat} {g : Gate}
    (hg : s.gates[level]? = some g) (moves : List Move) :
    (s.cycle S level g moves).Sound ∧
      (s.run S moves).gates[level]? = some (s.cycle S level g moves).gate := by
  obtain ⟨hmeets, hrun⟩ := s.lived_run S moves level g hg
  have hsound := (hnew g (List.mem_of_getElem? hg)).sound
  refine ⟨hsound.follow hmeets, ?_⟩
  rw [cycle, Cycle.gate_follow]
  exact hrun

end Stack

end ExactLength
