import ExactLength.Proofs.Gate.Closed
import ExactLength.Proofs.Stack.Delivery
import ExactLength.Proofs.Stack.Shutdown
import ExactLength.Proofs.Stack.Uncounted

/-!
# Closed gates in a stack

A gate of a stack that was closed lets nothing through until a new cycle of it starts, whatever is done with the stack
meanwhile and at whatever level. `Stack.KeepsBytesOut` says so of a gate of which a shutdown was requested: its part of
the history has no call in it that brought bytes and was passed on, and calls leave their arguments alone.
`Stack.KeepsAllOut` says it of a gate whose cycle is over, with or without a request. Waits and truncations are passed on
at any time.

Nothing is assumed of the base. That no bytes are counted for a call that brings none follows from what such calls
yield (`Stack.countsBrought_history`). The main statement is `Stack.closed_gate`.

Of a gate whose cycle is over without a request for shutdown, the statement leaves out what is offered in several
sources and cannot be counted in sixty-four bits. The count wraps, and sources that count for none pass, bytes and all
(`Stack.over_passes_uncounted`). A request for shutdown keeps these out as well.
-/

namespace ExactLength

theorem mem_heardAt {α : Type} {level : Nat} {happened : List (Nat × α)} {a : α} :
    a ∈ heardAt level happened ↔ (level, a) ∈ happened := by
  simp only [heardAt, List.mem_filterMap]
  constructor
  · rintro ⟨⟨l, b⟩, hmem, heq⟩
    by_cases hl : l = level
    · subst hl
      rw [if_pos rfl] at heq
      cases heq
      exact hmem
    · rw [if_neg hl] at heq
      cases heq
  · exact fun hmem => ⟨(level, a), hmem, if_pos rfl⟩

namespace Sink

variable {σ : Type} (S : Sink σ)

/-- Only a call that brings bytes is answered with a count. -/
theorem brings_of_credited {sink : σ} {call : Call} (h : credited (S.perform sink call).result ≠ 0) :
    call.brings = true := by
  cases call with
  | flush => exact absurd (credited_map_flag _) h
  | wait milliseconds => exact absurd (credited_map_ofUnit _) h
  | terminate => exact absurd (credited_map_ofUnit _) h
  | truncate => exact absurd (credited_map_ofUnit _) h
  | isResumed => exact absurd rfl h
  | wake => exact absurd rfl h
  | _ => rfl

theorem endWrite_of_error {κ : Type} (drained : κ → Bool) {reply : Reply (σ × κ) UInt64} {e : SinkError}
    (h : reply.result = .error e) : S.endWrite drained reply = reply := by
  unfold endWrite
  rw [h]

/-- A call whose opening fails fails with it, and stops there. -/
theorem perform_of_opening_error {sink : σ} {call : Call} {e : SinkError}
    (h : (S.perform sink call.opening).result = .error e) :
    (S.perform sink call).result = .error e ∧
      (S.perform sink call).state.1 = (S.perform sink call.opening).state.1 := by
  have hwrite {result : Except SinkError UInt64} (hr : result.map Yield.count = .error e) : result = .error e := by
    cases result <;> cases hr
    rfl
  refine ⟨?_, ?_⟩
  · cases call with
    | writeLast src =>
      show (S.writeLast sink src).result.map Yield.count = _
      rw [writeLast, S.endWrite_of_error _ (hwrite h)]
      exact h
    | writeManyLast sources =>
      show (S.writeManyLast sink sources).result.map Yield.count = _
      rw [writeManyLast, S.endWrite_of_error _ (hwrite h)]
      exact h
    | _ => exact h
  · rw [S.perform_state, if_neg]
    simp [goesOn, h, Except.toBool]

end Sink

theorem Call.restore_opening (call : Call) : call.restore call.opening = call := by
  cases call <;> rfl

namespace Cycle

theorem past_follow (c : Cycle) (past : List Exchange) :
    (c.follow (past.map .exchange)).past = c.past ++ past := by
  induction past generalizing c with
  | nil => exact (List.append_nil _).symm
  | cons x rest ih =>
    show ((c.next (.exchange x)).follow (rest.map .exchange)).past = _
    rw [ih]
    exact List.append_assoc _ _ _

/-- A cycle that is over owes nothing, unless a shutdown was requested. -/
theorem Sound.over {c : Cycle} (h : c.Sound) (hended : c.gate.budget.ended = true) : c.gate.Over where
  ended := hended
  nothing := by
    cases hclosing : c.gate.budget.closing with
    | true => exact Or.inl rfl
    | false => exact Or.inr (h.remaining_of_finished (h.finished_of_ended hended hclosing))

end Cycle

/-! ### Counts in a history -/

/-- If the exchange counts bytes, its call brought them. -/
def Exchange.CountsBrought (x : Exchange) : Prop :=
  x.accepted ≠ 0 → x.call.brings = true

namespace Gate.Passes

variable {g : Gate} {call down : Call} {shortfall : Option UInt64}

/-- What is passed on brings bytes if and only if the call does. -/
theorem brings_down (h : g.Passes call down shortfall) : down.brings = call.brings := by
  cases h <;> rfl

/-- A call of which nothing was taken has its arguments. -/
theorem restore_down (h : g.Passes call down shortfall) : call.restore down = call := by
  cases h <;> rfl

end Gate.Passes

namespace Stack

variable {σ : Type} (S : Sink σ)

/-- All exchanges count only bytes that their calls brought. -/
def CountsBrought (happened : List (Nat × Episode)) : Prop :=
  ∀ level x, (level, Episode.exchange x) ∈ happened → x.CountsBrought

theorem pervasive_countsBrought :
    Pervasive S (fun _ => True) fun e => ∀ x, e = .exchange x → x.CountsBrought where
  down _ _ := trivial
  answered _ := by
    rintro x ⟨rfl⟩ hcount
    exact absurd rfl hcount
  passed {n _ _ down _} below hpass _ := by
    rintro x ⟨rfl⟩ hcount
    have hcredited : credited ((S.stacked n).perform below down).result ≠ 0 := by
      rcases hr : ((S.stacked n).perform below down).result with e | _ | m | _ <;> rw [hr] at hcount <;> exact hcount
    exact hpass.brings_down.symm.trans ((S.stacked n).brings_of_credited hcredited)

/-- In every run, an exchange counts only bytes that its call brought. -/
theorem countsBrought_history {n : Nat} (s : Stack σ n) (moves : List Move) :
    CountsBrought (s.history S moves) := by
  have hcycle (length : UInt64) (passesClose checked : Bool) (x : Exchange)
      (hx : Episode.cycle length passesClose checked = .exchange x) : x.CountsBrought := by
    cases hx
  intro level x hx
  exact (pervasive_countsBrought S).history hcycle s (fun _ _ _ => ⟨trivial, fun _ => trivial⟩) _ hx x rfl

/-! ### Calls that a gate answers by itself -/

variable {S} {n : Nat} {s : Stack σ n} {level : Nat} {g : Gate} {call : Call}

/-- A call that the gate at a level answers by itself, and stops there. -/
theorem performAt_answer (hg : s.gates[level]? = some g) {result : Except SinkError Yield}
    (hplan : g.plan call = .answer result) (hhear : g.hear call.opening = g)
    (hstops : call.isLast = false ∨ ∃ e, result = .error e) :
    (s.performAt S level call).result = result ∧ (s.performAt S level call).state = (s, call) := by
  induction n generalizing level with
  | zero => cases hg
  | succ n ih =>
    obtain ⟨gate, below, rfl⟩ := s.exists_push
    cases level with
    | succ level =>
      obtain ⟨hresult, hstate⟩ := ih (s := below) hg
      refine ⟨hresult, ?_⟩
      show (push gate (below.performAt S level call).state.1, (below.performAt S level call).state.2) = _
      rw [hstate]
    | zero =>
      cases hg
      rw [performAt_zero]
      obtain ⟨hresult, hstate⟩ :=
        perform_push_answer S call.isLast_opening ((g.plan_opening call).trans hplan) below
      rw [hhear] at hstate
      rcases hstops with hlast | ⟨e, rfl⟩
      · rw [Call.opening_of_isLast_eq_false hlast] at hresult hstate
        exact ⟨hresult, hstate⟩
      · obtain ⟨hfails, hends⟩ := (S.stacked (n + 1)).perform_of_opening_error hresult
        refine ⟨hfails, Prod.ext ?_ ?_⟩
        · rw [hends, hstate]
        · rw [Sink.perform_arguments, hstate]
          exact call.restore_opening

/-- A call that brings bytes to a stack, or to a part of it, keeps them if a gate in it was asked to end. -/
theorem arguments_perform_of_closing (hg : s.gates[level]? = some g) (h : g.budget.closing = true)
    (hlast : call.isLast = false) (hcall : call.brings = true) :
    ((S.stacked n).perform s call).state.2 = call := by
  induction n generalizing level call with
  | zero => cases hg
  | succ n ih =>
    obtain ⟨gate, below, rfl⟩ := s.exists_push
    cases hplan : gate.plan call with
    | answer result => rw [(perform_push_answer S hlast hplan below).2]
    | pass down shortfall =>
      have hpass := Gate.passes_of_plan hlast hplan
      rw [(perform_push_pass S hlast hplan below).2]
      cases level with
      | zero =>
        cases hg
        obtain ⟨result, hanswer⟩ := Gate.exists_answer_of_closing h hcall
        rw [hplan] at hanswer
        cases hanswer
      | succ level =>
        rw [ih (s := below) hg hpass.isLast_down (hpass.brings_down.trans hcall)]
        exact hpass.restore_down

/-- A call that brings bytes and enters at a gate or above it keeps them if the gate was asked to end. -/
theorem arguments_performAt_of_closing (hg : s.gates[level]? = some g) (h : g.budget.closing = true) {entry : Nat}
    (hentry : entry ≤ level) (hcall : call.brings = true) : (s.performAt S entry call).state.2 = call := by
  induction n generalizing entry level with
  | zero => cases hg
  | succ n ih =>
    cases entry with
    | zero =>
      rw [performAt_zero, Sink.perform_arguments,
        arguments_perform_of_closing hg h call.isLast_opening ((call.brings_opening).trans hcall)]
      exact call.restore_opening
    | succ entry =>
      obtain ⟨gate, below, rfl⟩ := s.exists_push
      obtain ⟨level, rfl⟩ : ∃ l, level = l + 1 := ⟨level - 1, by omega⟩
      exact ih (s := below) hg (Nat.le_of_succ_le_succ hentry)

/-! ### The main statement -/

/-- The gate at a level, of which a shutdown was requested when it stood at `g`, lets no bytes through: neither in its
exchanges since, nor now. -/
structure KeepsBytesOut (S : Sink σ) {n : Nat} (now : Stack σ n) (level : Nat) (g : Gate) (past : List Exchange) :
    Prop where
  /-- What remains has not changed, and the request stands. -/
  remaining : ∃ g', now.gates[level]? = some g' ∧ g'.budget.remaining = g.budget.remaining ∧ g'.budget.closing = true
  /-- No call that brought bytes was passed on. -/
  passed : ∀ x ∈ past, x.call.brings = true → x.below = none
  /-- A call that brings bytes and enters at the gate or above it leaves its arguments alone. -/
  arguments : ∀ entry call, entry ≤ level → call.brings = true → (now.performAt S entry call).state.2 = call
  /-- A call that needs leave is refused, and changes nothing. -/
  refused : ∀ call : Call, call.NeedsLeave →
    (now.performAt S level call).result = .error .closedChannel ∧ (now.performAt S level call).state = (now, call)

/-- The gate at a level, whose cycle was over when it stood at `g`, lets no bytes, flushes, wake-ups or questions
through, and one shutdown at most: neither in its exchanges since, nor now. Bytes that are offered in several sources
are meant as far as they can be counted. -/
structure KeepsAllOut (S : Sink σ) {n : Nat} (now : Stack σ n) (level : Nat) (g : Gate) (past : List Exchange) :
    Prop where
  /-- The cycle is still over. -/
  ended : ∃ g', now.gates[level]? = some g' ∧ g'.budget.ended = true
  /-- A call that was passed on had no bytes. -/
  bytes : ∀ x ∈ past, x.below.isSome = true → x.call.Fits → x.call.opening.asked = 0
  /-- No flush, no wake-up and no question was passed on. -/
  signals : ∀ x ∈ past, x.call.isSignal = true → x.below = none
  /-- One shutdown at most was passed on. -/
  shutdowns : past.countP Exchange.isPassedShutdown ≤ 1
  /-- A shutdown was passed on in order. -/
  inOrder : ∀ before x after, past = before ++ x :: after → x.isPassedShutdown = true →
    (before.foldl Gate.react g).plan .terminate = .pass .terminate none
  /-- A call with bytes is refused, and changes nothing. -/
  refused : ∀ call : Call, call.Fits → 0 < call.opening.asked →
    ((now.performAt S level call).result = .error .closedChannel ∨
      (now.performAt S level call).result = .error .overflow) ∧ (now.performAt S level call).state = (now, call)
  /-- A flush finds everything flushed, writes are not resumed, and a wake-up wakes nobody. -/
  signalled : ∀ call : Call, call.isSignal = true →
    (now.performAt S level call).result = .ok (Gate.signalAnswer call) ∧
      (now.performAt S level call).state = (now, call)

theorem keepsBytesOut {now : Stack σ n} {past : List Exchange} (hpast : g.MeetsAll (past.map .exchange))
    (hcounts : ∀ x ∈ past, x.CountsBrought) (hnow : now.gates[level]? = some (past.foldl Gate.react g))
    (h : g.budget.closing = true) : now.KeepsBytesOut S level g past := by
  obtain ⟨hclosing, hremaining, hpassed⟩ := Gate.shut_foldl hpast hcounts h
  refine ⟨⟨_, hnow, hremaining, hclosing⟩, hpassed, ?_, ?_⟩
  · exact fun entry call hentry hcall => arguments_performAt_of_closing hnow hclosing hentry hcall
  · intro call hcall
    refine performAt_answer hnow (Gate.plan_of_closing hclosing hcall) ?_ (Or.inr ⟨_, rfl⟩)
    refine Gate.hear_of_brings _ (call.brings_opening.trans ?_)
    cases call <;> first | rfl | exact absurd hcall id

theorem keepsAllOut {now : Stack σ n} {past : List Exchange} (hpast : g.MeetsAll (past.map .exchange))
    (honce : past.countP Exchange.isPassedShutdown ≤ 1)
    (hnow : now.gates[level]? = some (past.foldl Gate.react g)) (h : g.Over) : now.KeepsAllOut S level g past := by
  have hover := h.foldl past
  have hmoment {x : Exchange} (hx : x ∈ past) : ∃ g' : Gate, g'.Over ∧ g'.Hears x := by
    obtain ⟨before, after, hsplit⟩ := List.append_of_mem hx
    exact ⟨_, h.foldl before, Gate.hears_of_split hpast hsplit⟩
  refine ⟨⟨_, hnow, hover.ended⟩, ?_, ?_, honce, ?_, ?_, ?_⟩
  · intro x hx hbelow hfits
    obtain ⟨g', hover', hhears⟩ := hmoment hx
    exact hhears.asked_of_over hover' hfits hbelow
  · intro x hx hcall
    obtain ⟨g', hover', hhears⟩ := hmoment hx
    exact hhears.below_of_over hover' hcall
  · intro before x after hsplit hx
    refine (h.foldl before).plan_terminate.resolve_left fun hanswer => ?_
    have hhears := Gate.hears_of_split hpast hsplit
    simp only [Exchange.isPassedShutdown, Bool.and_eq_true, beq_iff_eq] at hx
    rw [Gate.Hears, hx.1, hanswer] at hhears
    rw [hhears] at hx
    cases hx.2
  · intro call hfits hasked
    have hhear : Gate.hear (past.foldl Gate.react g) call.opening = past.foldl Gate.react g := by
      refine Gate.hear_of_brings _ ?_
      cases call <;> first | rfl | cases hasked
    obtain ⟨hresult, hstate⟩ := performAt_answer (S := S) hnow (hover.plan hfits hasked) hhear (Or.inr ⟨_, rfl⟩)
    refine ⟨?_, hstate⟩
    rw [hresult]
    unfold Gate.refusal
    split
    · exact Or.inl rfl
    · exact Or.inr rfl
  · intro call hcall
    have hopening : call.opening = call := by cases call <;> first | rfl | cases hcall
    refine performAt_answer hnow (hover.plan_signal hcall) ?_ (Or.inl ?_)
    · rw [hopening]
      exact Gate.hear_of_isSignal _ hcall
    · cases call <;> first | rfl | cases hcall

/-- **A closed gate lets nothing through.** Take any run of new gates over any sink, and in it a gate that does not
start a new cycle from some time on, whatever else is done. If a shutdown was requested of it by that time, it lets no
bytes through any more, and keeps what remains. If its cycle was over, with or without such a request, it keeps out
bytes that can be counted, flushes, wake-ups and questions, and passes on one shutdown at most, in order. -/
theorem closed_gate (S : Sink σ) (hnew : s.IsNew) {moves rest : List Move}
    (hg : (s.run S moves).gates[level]? = some g) {past : List Exchange}
    (hpast : heardAt level ((s.run S moves).history S rest) = past.map .exchange) :
    (g.budget.closing = true → ((s.run S moves).run S rest).KeepsBytesOut S level g past) ∧
      (g.budget.ended = true → ((s.run S moves).run S rest).KeepsAllOut S level g past) := by
  obtain ⟨hmeets, hnow⟩ := (s.run S moves).lived_run S rest level g hg
  rw [hpast] at hmeets hnow
  rw [List.foldl_map] at hnow
  refine ⟨fun hclosing => ?_, fun hended => ?_⟩
  · refine keepsBytesOut hmeets (fun x hx => ?_) hnow hclosing
    refine (s.run S moves).countsBrought_history S rest level x (mem_heardAt.1 ?_)
    rw [hpast]
    exact List.mem_map_of_mem hx
  · -- the gate is in a cycle since its start, whose shutdowns are counted from there
    have hlevel : level < s.gates.length := by
      rw [length_gates, ← length_gates (s.run S moves)]
      exact (List.getElem?_eq_some_iff.1 hg).1
    have hg₀ : s.gates[level]? = some s.gates[level] := List.getElem?_eq_getElem hlevel
    obtain ⟨hsound, hgate⟩ := cycle_sound (S := S) hnew hg₀ moves
    obtain rfl : g = (s.cycle S level s.gates[level] moves).gate := Option.some.inj (hg.symm.trans hgate)
    have hstart : Cycle.PassesOnce ⟨s.gates[level], true, []⟩ := Nat.zero_le 1
    have hsofar : (s.cycle S level s.gates[level] moves).PassesOnce :=
      hstart.follow (hnew _ (List.getElem_mem hlevel)).sound (s.lived_run S moves level _ hg₀).1
    have honce := hsofar.follow hsound hmeets
    rw [Cycle.PassesOnce, Cycle.past_follow, List.countP_append] at honce
    exact keepsAllOut hmeets (by omega) hnow (hsound.over hended)

/-- A gate for two bytes over one for three, over a base that does everything itself. -/
def twoOverThree : Stack Script 2 :=
  push (gateFor 2) (push (gateFor 3) (ofBase {}))

/-- Two bytes and a flush complete the cycle of the outer gate. -/
def completed : List Move :=
  [.call 0 (.write (.ofBytes [1, 2])), .call 0 .flush]

/-- Two empty sources, a shutdown, a byte, and a flush. -/
def afterwards : List Move :=
  [.call 0 (.writeMany [.ofBytes [], .ofBytes []]), .call 0 .terminate, .call 0 (.write (.ofBytes [9])),
    .call 0 .flush]

/-- What the outer gate exchanges then. -/
def heardAfterwards : List Exchange :=
  [⟨.writeMany [.ofBytes [], .ofBytes []], some (.ok (.count 0))⟩, ⟨.terminate, some (.error (.underflow 1))⟩,
    ⟨.write (.ofBytes [9]), none⟩, ⟨.flush, none⟩]

/-- The outer gate passes on the empty sources and the shutdown, which the inner gate fails. It was over before. -/
theorem closed_gate_completed :
    twoOverThree.IsNew ∧
      (twoOverThree.run Script.selfReliantSink completed).gates[0]? =
        some ⟨⟨0, false, true, true⟩, true, true, true, 1⟩ ∧
      heardAt 0 ((twoOverThree.run Script.selfReliantSink completed).history Script.selfReliantSink afterwards) =
        heardAfterwards.map .exchange ∧
      ((twoOverThree.run Script.selfReliantSink completed).run Script.selfReliantSink afterwards).KeepsAllOut
        Script.selfReliantSink 0 ⟨⟨0, false, true, true⟩, true, true, true, 1⟩ heardAfterwards := by
  have hnew : twoOverThree.IsNew := by
    apply IsNew.push (isNew_gateFor (by decide))
    exact IsNew.push (isNew_gateFor (by decide)) (isNew_ofBase _)
  have hg : (twoOverThree.run Script.selfReliantSink completed).gates[0]? =
      some ⟨⟨0, false, true, true⟩, true, true, true, 1⟩ := rfl
  have hpast : heardAt 0 ((twoOverThree.run Script.selfReliantSink completed).history Script.selfReliantSink
      afterwards) = heardAfterwards.map .exchange := rfl
  obtain ⟨-, hover⟩ := closed_gate Script.selfReliantSink hnew hg hpast
  exact ⟨hnew, hg, hpast, hover rfl⟩

/-- A gate for two bytes over an empty tank. -/
def twoOverEmpty : Stack (Outlet Bytes) 1 :=
  push (gateFor 2) (ofBase (.ofDevice []))

/-- With its cycle complete, the gate passes four quarters of `2 ^ 64` bytes on, and the tank takes two of their
bytes. -/
theorem over_passes_uncounted :
    let now := twoOverEmpty.run tank.sink completed
    let offer : Call := .writeMany (quarters.map .ofBytes)
    twoOverEmpty.IsNew ∧ now.gates = [⟨⟨0, false, true, true⟩, true, true, true, 1⟩] ∧
      now.base = .ofDevice [1, 2] ∧ offer.opening.asked = 18446744073709551616 ∧
      (now.performAt tank.sink 0 offer).result = .ok (.count 2) ∧
      (now.performAt tank.sink 0 offer).state.1.base = .ofDevice [1, 2, 0, 0] := by
  intro now offer
  have hgates : now.gates = [⟨⟨0, false, true, true⟩, true, true, true, 1⟩] := rfl
  have hbase : now.base = .ofDevice [1, 2] := rfl
  have hspent : ∀ g ∈ now.gates, g.Spent := by
    rw [hgates]
    exact List.forall_mem_singleton.2 ⟨rfl, rfl⟩
  obtain ⟨hresult, hstate⟩ :=
    perform_of_uncounted tank.sink hspent two_le_length_quarters length_joined_quarters_mod
  have hspace : ([1, 2] : Bytes).length < 4 := by decide
  obtain ⟨htaken, hafter⟩ := perform_quarters_tank hspace
  refine ⟨(isNew_ofBase _).push (isNew_gateFor (by decide)), hgates, hbase, length_joined_quarters, ?_, ?_⟩
  · rw [performAt_zero, hresult, hbase]
    exact htaken
  · rw [performAt_zero, hstate, base_mapBase, hbase]
    exact hafter

end Stack

end ExactLength
