import ExactLength.Proofs.Polled.Excess
import ExactLength.Proofs.Polled.History
import ExactLength.Proofs.Polled.LastFlush

/-!
# When the base of a stack is closed

The base of a stack over a polled device hears of a close only if every gate on the way passes it on, and a gate does so
only when its cycle is complete: nothing is owed, and a flush was done after the last byte
(`Stack.baseHears_of_close`). That the flush lies back, and that the base has taken nothing since, is a fact about the
cycle of the innermost gate (`PollCycle.Sound.flushedLast`), since all that the base hears goes through it.

The main statement is `Stack.base_closed_complete`. The base is recorded, so what it has heard can be read off its list.
A gate that is closed with bytes owed lets nothing through any more, and is treated there as well.

That the base has taken nothing since the flush is said of writes whose bytes can be counted in sixty-four bits. Runs
that count for none pass gates whose cycles are complete, and no flush follows them before the close
(`Stack.close_after_uncounted`).
-/

namespace ExactLength

/-- A poll enters at one of so many gates, and not at the base. -/
def PollMove.ThroughGate (height : Nat) : PollMove → Prop
  | .poll entry _ => entry < height
  | .renew .. => True

/-! ### What the base hears -/

/-- A gate passes a close on only if nothing is owed and everything is flushed. -/
theorem Gated.of_close_mem_passedOn {ω : Type} {D : PolledDevice ω} {g : Gated ω}
    (h : PollCall.close ∈ g.passedOn D .close) :
    g.gate.budget.remaining = 0 ∧ g.isFlushedBelow D = true ∧ g.gate.passesClose = true := by
  cases hplan : g.gate.pollPlan .close with
  | answer result =>
    simp only [passedOn, hplan] at h
    cases h
  | pass => exact absurd hplan g.gate.pollPlan_close_ne_pass
  | windUp =>
    refine ⟨Gate.pollPlan_close_eq_windUp_iff.1 hplan, ?_⟩
    simp only [passedOn, hplan, List.mem_append] at h
    rcases h with hflush | hclose
    · split at hflush
      · cases hflush
      · cases List.mem_singleton.1 hflush
    · split at hclose
      · next hboth => exact Bool.and_eq_true_iff.1 hboth
      · cases hclose

/-- A gate that has passed a close on with its cycle complete. -/
structure Gate.PassedClose (g : Gate) : Prop where
  /-- A close is passed on. -/
  passesClose : g.passesClose = true
  /-- Nothing is owed. -/
  remaining : g.budget.remaining = 0
  /-- The cycle is over. -/
  ended : g.budget.ended = true

theorem Gate.passedClose_woundUp {g : Gate} (hpasses : g.passesClose = true) (hnothing : g.budget.remaining = 0) :
    g.woundUp.PassedClose :=
  ⟨g.passesClose_woundUp.trans hpasses, g.remaining_woundUp.trans hnothing, g.ended_woundUp⟩

namespace Stack

variable {ω : Type} {D : PolledDevice ω}

/-- The base hears through the innermost gate. -/
theorem baseHears_eq {n : Nat} (s : Stack ω (n + 1)) (call : PollCall) :
    s.baseHears D call = (s.pollExchanges D n call).flatMap (·.passed) := by
  induction n generalizing call with
  | zero => exact (List.flatMap_singleton _ _).symm
  | succ n ih =>
    obtain ⟨gate, below, rfl⟩ := s.exists_push
    have htell : (fun (s : Stack ω (n + 1)) call => (s.pollExchanges D n call).flatMap (·.passed)) =
        fun s call => s.baseHears D call := funext fun s => funext fun call => (ih s call).symm
    show _ = ((D.stacked (n + 1)).along (fun below call => below.pollExchanges D n call) below _).flatMap _
    rw [PolledDevice.flatMap_along, htell]
    rfl

/-- What the base hears of a poll is answered honestly. -/
theorem fair_baseHears {out : ω → Bytes} (h : D.Honest out) {n : Nat} (s : Stack ω n) (call : PollCall) :
    ∀ heard ∈ s.baseHears D call, heard.Fair := by
  induction n generalizing call with
  | zero =>
    intro heard hmem
    rw [List.mem_singleton.1 hmem]
    exact (h s call).1
  | succ n ih =>
    obtain ⟨gate, below, rfl⟩ := s.exists_push
    intro heard hmem
    obtain ⟨s', down, -, hmem'⟩ := (D.stacked n).mem_along hmem
    exact ih s' down heard hmem'

/-- The base hears of a close only if the stack is closed. -/
theorem eq_close_of_baseHears {n : Nat} (s : Stack ω n) {call : PollCall} {heard : PollHeard}
    (hmem : heard ∈ s.baseHears D call) (hclose : heard.call = .close) : call = .close := by
  induction n generalizing call with
  | zero =>
    rw [List.mem_singleton.1 hmem] at hclose
    exact hclose
  | succ n ih =>
    obtain ⟨gate, below, rfl⟩ := s.exists_push
    obtain ⟨s', down, hdown, hmem'⟩ := (D.stacked n).mem_along hmem
    have hdown' := ih s' hmem'
    rcases Gated.mem_passedOn hdown with rfl | ⟨hcall, -⟩
    · exact hdown'
    · exact hcall

/-- **When the base hears of a close**, it is the last that it hears in the poll, and all gates on the way have passed it
on, each with its cycle complete. -/
theorem baseHears_of_close {n : Nat} (s : Stack ω n) (hclose : ∃ heard ∈ s.baseHears D .close, heard.call = .close) :
    (∃ early answer, s.baseHears D .close = early ++ [⟨.close, answer⟩]) ∧
      ∀ g ∈ gates ((D.stacked n).perform s .close).state, g.PassedClose := by
  induction n with
  | zero => exact ⟨⟨[], _, rfl⟩, fun _ hmem => by cases hmem⟩
  | succ n ih =>
    obtain ⟨gate, below, rfl⟩ := s.exists_push
    obtain ⟨heard, hmem, hcall⟩ := hclose
    let g : Gated (Stack ω n) := ⟨gate, below⟩
    have hpassed : PollCall.close ∈ g.passedOn (D.stacked n) .close := by
      obtain ⟨s', down, hdown, hmem'⟩ := (D.stacked n).mem_along hmem
      obtain rfl := s'.eq_close_of_baseHears hmem' hcall
      exact hdown
    obtain ⟨hnothing, hflushed, hpasses⟩ := Gated.of_close_mem_passedOn hpassed
    obtain ⟨-, hstate⟩ := Gated.perform_close_of_flushed hnothing hflushed
    rw [if_pos hpasses] at hstate
    -- first comes the flush, if there is one, and the close after it
    generalize hfirst : (if gate.budget.ended then [] else [PollCall.flush]) = first
    have hafter : (if gate.budget.ended then below else ((D.stacked n).perform below .flush).state) =
        (D.stacked n).afterPolls below first := by
      rw [← hfirst]
      split <;> rfl
    have hheard : baseHears D (push gate below) .close =
        (D.stacked n).along (fun s call => s.baseHears D call) below first ++
          baseHears D ((D.stacked n).afterPolls below first) .close := by
      show (D.stacked n).along _ below (g.passedOn (D.stacked n) .close) = _
      rw [Gated.passedOn_close hnothing hflushed, if_pos hpasses, hfirst, PolledDevice.along_append]
      exact congrArg _ (List.append_nil _)
    rw [hheard] at hmem ⊢
    have hlate : heard ∈ baseHears D ((D.stacked n).afterPolls below first) .close := by
      refine (List.mem_append.1 hmem).resolve_left fun hearly => ?_
      obtain ⟨s', down, hdown, hmem'⟩ := (D.stacked n).mem_along hearly
      obtain rfl := s'.eq_close_of_baseHears hmem' hcall
      rw [← hfirst] at hdown
      split at hdown
      · cases hdown
      · cases List.mem_singleton.1 hdown
    obtain ⟨⟨early, answer, hlast⟩, hgates⟩ := ih _ ⟨heard, hlate, hcall⟩
    refine ⟨⟨_ ++ early, answer, by rw [hlast, List.append_assoc]⟩, ?_⟩
    have hstate' : ((D.stacked (n + 1)).perform (push gate below) .close).state =
        push gate.woundUp ((D.stacked n).perform ((D.stacked n).afterPolls below first) .close).state :=
      hstate.trans (congrArg (fun s => push gate.woundUp ((D.stacked n).perform s .close).state) hafter)
    rw [hstate', gates_push]
    intro g' hg'
    rcases List.mem_cons.1 hg' with rfl | hg'
    · exact Gate.passedClose_woundUp hpasses hnothing
    · exact hgates g' hg'

/-! ### The list of a recorded base -/

theorem log_along {n : Nat} (s : Stack (ω × List PollHeard) n)
    (hlog : ∀ (s : Stack (ω × List PollHeard) n) call,
      (base ((D.recorded.stacked n).perform s call).state).2 = s.base.2 ++ s.baseHears D.recorded call)
    (calls : List PollCall) :
    (base ((D.recorded.stacked n).afterPolls s calls)).2 =
      s.base.2 ++ (D.recorded.stacked n).along (fun s call => s.baseHears D.recorded call) s calls := by
  induction calls generalizing s with
  | nil => exact (List.append_nil _).symm
  | cons call rest ih =>
    show (base ((D.recorded.stacked n).afterPolls ((D.recorded.stacked n).perform s call).state rest)).2 = _
    rw [ih, hlog, PolledDevice.along, List.append_assoc]

/-- A recorded base adds to its list what it hears. -/
theorem log_perform {n : Nat} (s : Stack (ω × List PollHeard) n) (call : PollCall) :
    (base ((D.recorded.stacked n).perform s call).state).2 = s.base.2 ++ s.baseHears D.recorded call := by
  induction n generalizing call with
  | zero =>
    obtain ⟨device, heard⟩ := s
    show (D.recorded.perform (device, heard) call).state.2 = heard ++ [⟨call, _⟩]
    rw [PolledDevice.perform_recorded]
    rfl
  | succ n ih =>
    obtain ⟨gate, below, rfl⟩ := s.exists_push
    rw [(perform_push_poll D.recorded gate below call).2]
    exact log_along below ih _

/-- A poll that enters at a gate reaches the base through the innermost one. -/
theorem log_pollAt {n : Nat} (s : Stack (ω × List PollHeard) (n + 1)) {entry : Nat} (hentry : entry ≤ n)
    (call : PollCall) :
    (s.pollAt D.recorded entry call).state.base.2 =
      s.base.2 ++ (s.pollExchangesAt D.recorded entry n call).flatMap (·.passed) := by
  induction entry generalizing n with
  | zero =>
    have hlog := s.log_perform (D := D) call
    rw [baseHears_eq] at hlog
    exact hlog
  | succ entry ih =>
    obtain ⟨n, rfl⟩ : ∃ m, n = m + 1 := ⟨n - 1, by omega⟩
    obtain ⟨gate, below, rfl⟩ := s.exists_push
    exact ih below (Nat.le_of_succ_le_succ hentry)

/-- What the innermost gate passed on in its cycle ends the list of the base, and was answered honestly. -/
structure Logged {n : Nat} (s : Stack (ω × List PollHeard) n) (c : PollCycle) : Prop where
  /-- It ends the list. -/
  log : ∃ earlier, s.base.2 = earlier ++ c.past.flatMap (·.passed)
  /-- It was answered honestly. -/
  fair : ∀ heard ∈ c.past.flatMap (·.passed), heard.Fair

theorem fair_pollExchangesAt {out : ω → Bytes} (h : D.Honest out) {n : Nat} (s : Stack ω (n + 1)) {entry : Nat}
    (hentry : entry ≤ n) (call : PollCall) :
    ∀ heard ∈ (s.pollExchangesAt D entry n call).flatMap (·.passed), heard.Fair := by
  induction entry generalizing n with
  | zero =>
    have hfair := fair_baseHears h s call
    rw [baseHears_eq] at hfair
    exact hfair
  | succ entry ih =>
    obtain ⟨n, rfl⟩ : ∃ m, n = m + 1 := ⟨n - 1, by omega⟩
    obtain ⟨gate, below, rfl⟩ := s.exists_push
    exact ih below (Nat.le_of_succ_le_succ hentry)

theorem base_renew {n : Nat} {s s' : Stack ω n} {level : Nat} {length : UInt64} {passesClose : Bool}
    (h : s.renew level length passesClose = .ok s') : s'.base = s.base := by
  rcases renew_eq_ok_iff.1 h with ⟨g, -, -, -, rfl⟩ | ⟨-, rfl⟩
  · exact base_setGate s level _
  · rfl

namespace Logged

variable {out : ω → Bytes} {n : Nat} {s : Stack (ω × List PollHeard) (n + 1)} {c : PollCycle}

theorem poll (h : D.Honest out) (hs : Logged s c) {entry : Nat} (hentry : entry ≤ n) (call : PollCall) :
    Logged (s.pollAt D.recorded entry call).state (s.cycleAfter D.recorded n c (.poll entry call)) := by
  obtain ⟨⟨earlier, hlog⟩, hfair⟩ := hs
  refine ⟨⟨earlier, ?_⟩, ?_⟩
  · rw [log_pollAt s hentry, hlog, cycleAfter, List.flatMap_append, List.append_assoc]
  · intro heard hmem
    rw [cycleAfter, List.flatMap_append] at hmem
    rcases List.mem_append.1 hmem with hmem | hmem
    · exact hfair heard hmem
    · exact fair_pollExchangesAt h.recorded s hentry call heard hmem

theorem renew (hs : Logged s c) (entry : Nat) (length : UInt64) (passesClose : Bool) :
    Logged (s.pollMove D.recorded (.renew entry length passesClose)).state
      (s.cycleAfter D.recorded n c (.renew entry length passesClose)) := by
  simp only [cycleAfter, pollMove]
  cases hr : s.renew entry length passesClose with
  | error e =>
    rw [if_neg]
    · exact hs
    · rintro ⟨-, hok⟩
      cases hok
  | ok s' =>
    simp only [Except.toBool, and_true]
    by_cases heq : entry = n
    · rw [if_pos heq]
      exact ⟨⟨s'.base.2, (List.append_nil _).symm⟩, fun _ hmem => by cases hmem⟩
    · rw [if_neg heq]
      exact ⟨by rw [base_renew hr]; exact hs.log, hs.fair⟩

theorem run (h : D.Honest out) (hs : Logged s c) {moves : List PollMove}
    (hgate : ∀ m ∈ moves, m.ThroughGate (n + 1)) :
    Logged (s.pollRun D.recorded moves) (s.pollCycle D.recorded n c moves) := by
  induction moves generalizing s c with
  | nil => exact hs
  | cons m rest ih =>
    have hnext : Logged (s.pollMove D.recorded m).state (s.cycleAfter D.recorded n c m) := by
      have hthrough := hgate m List.mem_cons_self
      cases m with
      | poll entry call => exact hs.poll h (Nat.le_of_lt_succ hthrough) call
      | renew entry length passesClose => exact hs.renew entry length passesClose
    exact ih hnext fun m' hm' => hgate m' (List.mem_cons_of_mem m hm')

end Logged

/-! ### The main statement -/

/-- A poll in which the base hears of a close is a close, which is the last that the base hears in it. -/
theorem pollAt_of_close {n : Nat} (s : Stack (ω × List PollHeard) (n + 1)) {entry : Nat} (hentry : entry ≤ n)
    {call : PollCall} {heard : List PollHeard}
    (hheard : (s.pollAt D.recorded entry call).state.base.2 = s.base.2 ++ heard)
    (hclose : ∃ x ∈ heard, x.call = .close) :
    call = .close ∧ (∃ early answer, heard = early ++ [⟨.close, answer⟩]) ∧
      ∀ level g, entry ≤ level → (s.pollAt D.recorded entry call).state.gates[level]? = some g → g.PassedClose := by
  induction entry generalizing n with
  | zero =>
    obtain rfl : heard = s.baseHears D.recorded call :=
      List.append_cancel_left (hheard.symm.trans (s.log_perform call))
    obtain ⟨x, hx, hcall⟩ := hclose
    obtain rfl := s.eq_close_of_baseHears hx hcall
    obtain ⟨hlast, hgates⟩ := s.baseHears_of_close ⟨x, hx, hcall⟩
    exact ⟨rfl, hlast, fun level g _ hg => hgates g (List.mem_of_getElem? hg)⟩
  | succ entry ih =>
    obtain ⟨n, rfl⟩ : ∃ m, n = m + 1 := ⟨n - 1, by omega⟩
    obtain ⟨gate, below, rfl⟩ := s.exists_push
    obtain ⟨hcall, hlast, hgates⟩ := ih below (Nat.le_of_succ_le_succ hentry) hheard
    refine ⟨hcall, hlast, fun level g hle hg => ?_⟩
    obtain ⟨level, rfl⟩ : ∃ l, level = l + 1 := ⟨level - 1, by omega⟩
    exact hgates level g (Nat.le_of_succ_le_succ hle) hg

/-- If the list of the base ends in a close that the innermost gate passed on with its cycle complete, the base has done a
flush before, and has taken nothing since. -/
theorem flushed_before_close {out : ω → Bytes} (h : D.Honest out) {n : Nat}
    {s : Stack (ω × List PollHeard) (n + 1)} (hnew : s.IsNew) {moves : List PollMove}
    (hmoves : ∀ m ∈ moves, m.ThroughGate (n + 1)) {log : List PollHeard} {answer : Poll Yield}
    (hlog : (s.pollRun D.recorded moves).base.2 = log ++ [⟨.close, answer⟩])
    (hpassed : ∀ g, (s.pollRun D.recorded moves).gates[n]? = some g → g.PassedClose) :
    ∃ early late,
      (s.pollRun D.recorded moves).base.2 = early ++ ⟨.flush, .ready (.ok .unit)⟩ :: late ++ [⟨.close, answer⟩] ∧
        ∀ x ∈ late, x.TakesNothing := by
  have hlt : n < s.gates.length := by
    rw [length_gates]
    exact Nat.lt_succ_self n
  obtain ⟨hsound, hgate⟩ := pollCycle_sound (D := D.recorded) hnew (List.getElem?_eq_getElem hlt) moves
  have hcomplete := hpassed _ hgate
  -- what the innermost gate passed on in its cycle ends the list of the base
  have hstart : Logged s ⟨s.gates[n], []⟩ :=
    ⟨⟨s.base.2, (List.append_nil _).symm⟩, fun _ hmem => by cases hmem⟩
  obtain ⟨⟨earlier, hends⟩, hfair⟩ := hstart.run h hmoves
  obtain ⟨before, late, hflushed, hquiet⟩ := hsound.flushedLast hfair hcomplete.ended hcomplete.remaining
  rw [hflushed] at hends
  have hjoined : (earlier ++ before) ++ ⟨.flush, .ready (.ok .unit)⟩ :: late = log ++ [⟨.close, answer⟩] := by
    rw [List.append_assoc]
    exact hends.symm.trans hlog
  obtain ⟨late, rfl⟩ := exists_concat_of_flush hjoined PollCall.noConfusion
  refine ⟨earlier ++ before, late, ?_, fun x hx => hquiet x (List.mem_append_left _ hx)⟩
  rw [hends]
  simp

/-- **The base is closed only after a complete cycle.** Take any run of new gates over a recorded honest base.

If the base hears of a close in a poll, every gate from where the poll enters down passes a close on, owes nothing, and
is finished, with its completion hook run once in the present cycle. If all polls so far entered at a gate, the base has
done a flush before, and has taken nothing since from any write whose bytes can be counted.

If a close finds a gate with bytes owed, the gate owes them for the rest of its cycle. It reports how many they are at
the first such close, and says of all later ones that they are done. It passes nothing on any more, and its completion
hook does not run in the cycle. -/
theorem base_closed_complete {out : ω → Bytes} (h : D.HonestBase out) {n : Nat}
    {s : Stack (ω × List PollHeard) (n + 1)} (hnew : s.IsNew) (moves : List PollMove) :
    (∀ entry call heard, entry ≤ n →
      let after := s.pollRun D.recorded (moves ++ [.poll entry call])
      after.base.2 = (s.pollRun D.recorded moves).base.2 ++ heard → (∃ x ∈ heard, x.call = .close) →
        (∀ level g, entry ≤ level → s.gates[level]? = some g →
          let c := s.pollCycle D.recorded level ⟨g, []⟩ (moves ++ [.poll entry call])
          after.gates[level]? = some c.gate ∧ c.gate.passesClose = true ∧ c.gate.budget.remaining = 0 ∧
            c.gate.budget.finished = true ∧ c.gate.completions = c.start.completions + 1) ∧
          ((∀ m ∈ moves, m.ThroughGate (n + 1)) → ∃ early late answer,
            after.base.2 = early ++ ⟨.flush, .ready (.ok .unit)⟩ :: late ++ [⟨.close, answer⟩] ∧
              ∀ x ∈ late, x.call.Countable → x.answer.credit = 0)) ∧
      ∀ level g, s.gates[level]? = some g →
        let c := s.pollCycle D.recorded level ⟨g, []⟩ moves
        ∀ before x after, c.past = before ++ x :: after → x.call = .close →
          0 < (before.foldl Gate.reactPoll c.start).budget.remaining →
            c.gate.budget.remaining = (before.foldl Gate.reactPoll c.start).budget.remaining ∧
              x.answer = (if ∃ y ∈ before, y.call = .close then .ready (.ok .unit)
                else .ready (.error (SinkError.underflow c.gate.budget.remaining).toIo)) ∧
              x.passed = [] ∧ (∀ y ∈ after, y.passed = [] ∧ (y.call = .close → y.answer = .ready (.ok .unit))) ∧
              c.gate.completions = c.start.completions := by
  refine ⟨?_, ?_⟩
  · intro entry call heard hentry after hheard hclose
    have hafter : after = ((s.pollRun D.recorded moves).pollAt D.recorded entry call).state :=
      s.pollRun_append D.recorded moves [.poll entry call]
    have hheard' := hheard
    rw [hafter] at hheard'
    obtain ⟨rfl, ⟨early, answer, rfl⟩, hgates⟩ := pollAt_of_close (s.pollRun D.recorded moves) hentry hheard' hclose
    rw [← hafter] at hgates
    refine ⟨fun level g hle hg => ?_, fun hmoves => ?_⟩
    · obtain ⟨hsound, hgate⟩ := pollCycle_sound (D := D.recorded) hnew hg (moves ++ [.poll entry .close])
      have hpassed := hgates level _ hle hgate
      have hfinished := hsound.orderly.finished.2 ⟨hpassed.ended, hpassed.remaining⟩
      refine ⟨hgate, hpassed.passesClose, hpassed.remaining, hfinished, ?_⟩
      rw [hsound.completions, if_pos hfinished]
    · have hall : ∀ m ∈ moves ++ [.poll entry .close], m.ThroughGate (n + 1) := by
        intro m hm
        rcases List.mem_append.1 hm with hm | hm
        · exact hmoves m hm
        · rw [List.mem_singleton.1 hm]
          exact Nat.lt_succ_of_le hentry
      have hlog : after.base.2 = ((s.pollRun D.recorded moves).base.2 ++ early) ++ [⟨.close, answer⟩] :=
        hheard.trans (List.append_assoc _ _ _).symm
      obtain ⟨before, late, hflushed, hquiet⟩ :=
        flushed_before_close h.honest hnew hall hlog fun g hg => hgates n g hentry hg
      exact ⟨before, late, answer, hflushed, hquiet⟩
  · intro level g hg c before x after hpast hcall howed
    exact (pollCycle_sound hnew hg moves).1.after_shortfall hpast hcall howed

/-- Two gates for three bytes over an empty tank that is recorded. -/
def overRecordedTank : Stack (Bytes × List PollHeard) 2 :=
  push (gateFor 3) (push (gateFor 3) (ofBase ([], [])))

/-- Three bytes in two writes, and a flush. -/
def fillAndFlush : List PollMove :=
  [.poll 0 (.write [1, 2, 3]), .poll 0 (.write [3]), .poll 0 .flush]

theorem throughGate_of_mem_fillAndFlush {m : PollMove} (h : m ∈ fillAndFlush) : m.ThroughGate 2 := by
  simp only [fillAndFlush, List.mem_cons, List.not_mem_nil, or_false] at h
  rcases h with rfl | rfl | rfl <;> exact Nat.zero_lt_two

theorem isNew_overRecordedTank : overRecordedTank.IsNew :=
  have hthree : (gateFor 3).IsNew := isNew_gateFor (by decide)
  .push hthree (.push hthree (isNew_ofBase _))

/-- The base hears of the close, and both completion hooks have run. -/
theorem base_closed_complete_tank :
    polledTank.HonestBase id ∧ overRecordedTank.IsNew ∧
      (∀ m ∈ fillAndFlush, m.ThroughGate 2) ∧
      (overRecordedTank.pollRun polledTank.recorded (fillAndFlush ++ [.poll 0 .close])).gates.map Gate.completions =
        [1, 1] ∧
      ∃ early late answer,
        (overRecordedTank.pollRun polledTank.recorded (fillAndFlush ++ [.poll 0 .close])).base.2 =
          early ++ ⟨.flush, .ready (.ok .unit)⟩ :: late ++ [⟨.close, answer⟩] ∧
            ∀ x ∈ late, x.call.Countable → x.answer.credit = 0 := by
  have hmoves : ∀ m ∈ fillAndFlush, m.ThroughGate 2 := fun _ => throughGate_of_mem_fillAndFlush
  obtain ⟨hclosed, -⟩ := base_closed_complete polledTank_honest isNew_overRecordedTank fillAndFlush
  obtain ⟨-, hflushed⟩ := hclosed 0 .close [⟨.close, .ready (.ok .unit)⟩] (Nat.zero_le 1) rfl
    ⟨_, List.mem_singleton_self _, rfl⟩
  exact ⟨polledTank_honest, isNew_overRecordedTank, hmoves, rfl, hflushed hmoves⟩

/-- The same moves, and then a write of four quarters of `2 ^ 64` bytes. -/
def fillFlushAndWrite : List PollMove :=
  fillAndFlush ++ [.poll 0 (.writeMany quarters)]

theorem throughGate_of_mem_fillFlushAndWrite {m : PollMove} (h : m ∈ fillFlushAndWrite) : m.ThroughGate 2 := by
  rcases List.mem_append.1 h with h | h
  · exact throughGate_of_mem_fillAndFlush h
  · rw [List.mem_singleton.1 h]
    exact Nat.zero_lt_two

/-- What the base has heard when its tank holds three bytes. -/
def heardSoFar : List PollHeard :=
  [⟨.write [1, 2, 3], .ready (.ok (.count 2))⟩, ⟨.write [3], .ready (.ok (.count 1))⟩, ⟨.flush, .ready (.ok .unit)⟩]

/-- A gate for three bytes after a complete cycle. -/
def completeGate : Gate :=
  ⟨⟨0, false, true, true⟩, true, true, true, 1⟩

/-- Two such gates over a recorded tank that holds three bytes. -/
def overFilledTank : Stack (Bytes × List PollHeard) 2 :=
  push completeGate (push completeGate (ofBase ([1, 2, 3], heardSoFar)))

theorem pollRun_fillAndFlush : overRecordedTank.pollRun polledTank.recorded fillAndFlush = overFilledTank :=
  rfl

/-- Both gates pass a close on without a flush, whatever was done to the base. -/
theorem base_perform_close_overFilledTank (f : Bytes × List PollHeard → Bytes × List PollHeard) :
    base ((polledTank.recorded.stacked 2).perform (overFilledTank.mapBase f) .close).state =
      (polledTank.recorded.perform (f overFilledTank.base) .close).state :=
  rfl

/-- A tank that is not full takes two bytes of the quarters. -/
theorem perform_quarters_polledTank {stored : Bytes} (h : stored.length < 4) (heard : List PollHeard) :
    (polledTank.recorded.perform (stored, heard) (.writeMany quarters)).state =
      (stored ++ [0, 0], heard ++ [⟨.writeMany quarters, .ready (.ok (.count 2))⟩]) := by
  have hpour (runs : List Bytes) : polledTank.perform stored (.writeMany runs) =
      ⟨.ready ((pourInto stored runs.flatten).1.map .count), (pourInto stored runs.flatten).2, []⟩ :=
    rfl
  rw [PolledDevice.perform_recorded, hpour, pourInto_quarters h]
  rfl

/-- The quarters count for none, so both gates pass them on. The base is closed after it has taken two of their bytes,
without another flush. -/
theorem close_after_uncounted :
    polledTank.HonestBase id ∧ overRecordedTank.IsNew ∧ (∀ m ∈ fillFlushAndWrite, m.ThroughGate 2) ∧
      (overRecordedTank.pollRun polledTank.recorded (fillFlushAndWrite ++ [.poll 0 .close])).base.2 =
        heardSoFar ++ [⟨.writeMany quarters, .ready (.ok (.count 2))⟩, ⟨.close, .ready (.ok .unit)⟩] := by
  have hspent : ∀ g ∈ overFilledTank.gates, g.Spent :=
    List.forall_mem_cons.2 ⟨⟨rfl, rfl⟩, List.forall_mem_singleton.2 ⟨rfl, rfl⟩⟩
  obtain ⟨-, hwritten⟩ :=
    perform_poll_of_uncounted polledTank.recorded hspent quarters_ne_nil length_flatten_quarters_mod
  have htank : overFilledTank.base = ([1, 2, 3], heardSoFar) := rfl
  refine ⟨polledTank_honest, isNew_overRecordedTank, fun _ => throughGate_of_mem_fillFlushAndWrite, ?_⟩
  rw [pollRun_append_poll, fillFlushAndWrite, pollRun_append_poll, pollRun_fillAndFlush, hwritten,
    base_perform_close_overFilledTank, htank, perform_quarters_polledTank (by decide)]
  rfl

end Stack

end ExactLength
