import ExactLength.Proofs.Polled.History
import ExactLength.Script.Devices

/-!
# Closing again

A close of a gate over a polled device is done when everything is flushed and, if the gate passes closes on, what lies
below is closed; or when it finds that an earlier close reported a shortfall. In either case a shutdown is requested and
the cycle is over (`Gate.ClosedDown`), and nothing changes the gate any more until a new cycle.

The gate does not remember whether the close below was done. So there are two ways for a later close to go. If bytes are
owed, or the gate keeps closes to itself, it is done at once and nothing below hears of it. Otherwise what lies below is
closed once more, and the answer is the one from there, which may be an error. A gate over a sink is different: it passes
a shutdown on once, and says of any further one that it is done.

The main statement is `Stack.closed_again`, and `Stack.closed_again_fails` is a close that fails after one that was done.
-/

namespace ExactLength

theorem Poll.map_ofUnit_eq_done_iff {answer : Poll Unit} :
    answer.map Yield.ofUnit = .ready (.ok .unit) ↔ answer = .ready (.ok ()) := by
  rcases answer with _ | e | ⟨⟩ <;> simp [Poll.map, Except.map, Yield.ofUnit]

namespace Gate

variable {g : Gate} {x : PollExchange}

/-- A gate of which a close was done: a shutdown was requested, and the cycle is over. -/
structure ClosedDown (g : Gate) : Prop where
  /-- A shutdown was requested. -/
  closing : g.budget.closing = true
  /-- The cycle is over. -/
  ended : g.budget.ended = true

namespace ClosedDown

variable (h : g.ClosedDown)

include h

/-- It hears nothing new in any operation. -/
theorem hearPoll (call : PollCall) : g.hearPoll call = g := by
  cases call with
  | close =>
    show { g with budget := g.budget.close.2 } = g
    rw [Budget.close_of_closing h.closing]
  | _ => rfl

/-- It has gone through the flush of a close already. -/
theorem woundUp : g.woundUp = g := by
  unfold Gate.woundUp
  rw [if_pos h.ended]
  exact h.hearPoll .close

/-- It flushes nothing any more. -/
theorem flushing : g.flushing = [] :=
  if_pos h.ended

/-- It does not pass writes on. -/
theorem pollPlan_ne_pass {call : PollCall} (hcall : call ≠ .flush) : g.pollPlan call ≠ .pass := by
  intro hpass
  have hopen := closing_of_pass hcall hpass
  rw [h.closing] at hopen
  cases hopen

/-- What it makes of a close by itself: it is done, and bytes are owed. -/
theorem of_answer_close {result : Except IoError Yield} (hplan : g.pollPlan .close = .answer result) :
    result = .ok .unit ∧ g.budget.remaining ≠ 0 := by
  have hclose : g.planClose = .answer result := hplan
  unfold planClose at hclose
  rw [Budget.close_of_closing h.closing] at hclose
  simp only at hclose
  split at hclose
  · next howed =>
    cases hclose
    exact ⟨rfl, UInt64.pos_iff_ne_zero.1 howed⟩
  · cases hclose

/-- **What a gate makes of operations once it is closed down.** It stays as it is. It passes a close on if nothing is owed
and it does so at all, says of any other close that it is done, and passes nothing else on. -/
theorem hears (hx : g.HearsPoll x) :
    g.reactPoll x = g ∧
      (x.call ≠ .close → x.passed = []) ∧
      (x.call = .close → if g.budget.remaining = 0 ∧ g.passesClose = true then x.passed = [⟨.close, x.answer⟩]
        else x.passed = [] ∧ x.answer = .ready (.ok .unit)) := by
  cases hx with
  | @answer call result hplan =>
    refine ⟨h.hearPoll call, fun _ => rfl, ?_⟩
    rintro rfl
    obtain ⟨rfl, howed⟩ := h.of_answer_close hplan
    rw [if_neg fun hboth => howed hboth.1]
    exact ⟨rfl, rfl⟩
  | write hcall hplan => exact absurd hplan (h.pollPlan_ne_pass hcall)
  | flush hopen =>
    rw [h.ended] at hopen
    cases hopen
  | stalled hnothing hopen =>
    rw [h.ended] at hopen
    cases hopen
  | kept hnothing hkeeps =>
    rw [reactPoll_kept, h.flushing]
    refine ⟨h.woundUp, fun _ => rfl, fun _ => ?_⟩
    simp [hkeeps]
  | closed hnothing hpasses answer =>
    rw [reactPoll_closed, h.flushing]
    refine ⟨h.woundUp, fun hcall => absurd rfl hcall, fun _ => ?_⟩
    simp [hnothing, hpasses]

end ClosedDown

/-- A close that is done leaves the gate closed down. -/
theorem HearsPoll.closedDown (hx : g.HearsPoll x) (horderly : g.Orderly) (hcall : x.call = .close)
    (hdone : x.answer = .ready (.ok .unit)) : (g.reactPoll x).ClosedDown := by
  refine ⟨hx.closing_of_close hcall, ?_⟩
  cases hx with
  | @answer call result hplan =>
    -- the gate found bytes owed, and a shutdown requested before
    obtain rfl : call = .close := hcall
    obtain rfl : result = .ok .unit := by simpa using hdone
    have hclose : g.planClose = .answer (.ok .unit) := hplan
    cases hclosing : g.budget.closing with
    | true =>
      have howed : 0 < g.budget.remaining := by
        simp only [planClose, Budget.close_of_closing hclosing] at hclose
        split at hclose
        · assumption
        · cases hclose
      exact g.budget.ended_close.trans (by simp [horderly.endsShort hclosing howed])
    | false =>
      by_cases howed : 0 < g.budget.remaining
      · simp [planClose, Budget.close_of_short hclosing howed] at hclose
      · have hnothing : g.budget.remaining = 0 := by simpa [UInt64.pos_iff_ne_zero] using howed
        simp [planClose, Budget.close_of_clean hclosing hnothing] at hclose
  | write hne hplan =>
    obtain rfl := hcall
    exact absurd hplan g.pollPlan_close_ne_pass
  | flush => cases hcall
  | stalled hnothing hopen hanswer => exact absurd (Poll.map_ofUnit_eq_done_iff.1 hdone) hanswer
  | kept =>
    rw [reactPoll_kept]
    exact g.ended_woundUp
  | closed =>
    rw [reactPoll_closed]
    exact g.ended_woundUp

/-- A gate that is closed down is so for all times, and its exchanges are those of `ClosedDown.hears`. -/
theorem ClosedDown.hearsPolls (h : g.ClosedDown) {past : List PollExchange} (hpast : g.HearsPolls past) :
    past.foldl Gate.reactPoll g = g ∧ ∀ y ∈ past, g.HearsPoll y := by
  induction past with
  | nil => exact ⟨rfl, fun _ hy => (List.not_mem_nil hy).elim⟩
  | cons y rest ih =>
    obtain ⟨hy, hrest⟩ := hpast
    have hsame := (h.hears hy).1
    rw [hsame] at hrest
    obtain ⟨hend, hall⟩ := ih hrest
    refine ⟨by rw [List.foldl_cons, hsame, hend], ?_⟩
    intro z hz
    rcases List.mem_cons.1 hz with rfl | hz
    · exact hy
    · exact hall z hz

end Gate

/-! ### The rest of a cycle -/

/-- Once a close is done, the gate is closed down for the rest of the cycle, and stays as it is. -/
theorem PollCycle.Sound.after_close {c : PollCycle} (h : c.Sound) {before after : List PollExchange}
    {x : PollExchange} (hpast : c.past = before ++ x :: after) (hcall : x.call = .close)
    (hdone : x.answer = .ready (.ok .unit)) :
    c.gate.ClosedDown ∧
      (∀ first rest, after = first ++ rest → (before ++ x :: first).foldl Gate.reactPoll c.start = c.gate) ∧
      ∀ y ∈ after, c.gate.HearsPoll y := by
  have hheard := h.heard
  rw [hpast, Gate.hearsPolls_append] at hheard
  obtain ⟨hbefore, hx, hafter⟩ := hheard
  have horderly : (before.foldl Gate.reactPoll c.start).Orderly := orderly (c := ⟨c.start, before⟩) ⟨h.fresh, hbefore⟩
  have hclosed := hx.closedDown horderly hcall hdone
  obtain ⟨hend, hall⟩ := hclosed.hearsPolls hafter
  have hgate : c.gate = (before.foldl Gate.reactPoll c.start).reactPoll x := by
    rw [gate, hpast, List.foldl_append, List.foldl_cons, hend]
  rw [hgate]
  refine ⟨hclosed, ?_, hall⟩
  rintro first rest rfl
  rw [List.foldl_append, List.foldl_cons]
  exact (hclosed.hearsPolls (Gate.hearsPolls_append.1 hafter).1).1

namespace Stack

variable {ω : Type} {n : Nat} {s : Stack ω n} {level : Nat} {g : Gate}

/-- **Closing again.** Take any run of new gates over any polled device, and in the present cycle of one of them a close
that was done. From there on the gate has stayed as it was, with its count of completions, and flushes and writes were
kept from what lies below. A later close was done at once, and kept from there too, if bytes are owed or the gate keeps
closes to itself. If not, what lies below was closed once more, and its answer became that of the gate. A gate that stands
like this over a sink passes no shutdown on. -/
theorem closed_again (D : PolledDevice ω) (hnew : s.IsNew) (hg : s.gates[level]? = some g) (moves : List PollMove)
    {before after : List PollExchange} {x : PollExchange}
    (hpast : (s.pollCycle D level ⟨g, []⟩ moves).past = before ++ x :: after) (hcall : x.call = .close)
    (hdone : x.answer = .ready (.ok .unit)) :
    let c := s.pollCycle D level ⟨g, []⟩ moves
    (s.pollRun D moves).gates[level]? = some c.gate ∧
      (∀ first rest, after = first ++ rest → (before ++ x :: first).foldl Gate.reactPoll c.start = c.gate) ∧
      (∀ y ∈ after, y.call ≠ .close → y.passed = []) ∧
      (∀ y ∈ after, y.call = .close →
        if c.gate.budget.remaining = 0 ∧ c.gate.passesClose = true then y.passed = [⟨.close, y.answer⟩]
        else y.passed = [] ∧ y.answer = .ready (.ok .unit)) ∧
      ∀ (σ : Type) (S : Sink σ) (below : σ), S.gated.terminate ⟨c.gate, below⟩ = .ok () ⟨c.gate, below⟩ := by
  intro c
  obtain ⟨hsound, hgate⟩ := pollCycle_sound (D := D) hnew hg moves
  obtain ⟨hclosed, hsame, hall⟩ := hsound.after_close hpast hcall hdone
  refine ⟨hgate, hsame, ?_, ?_, ?_⟩
  · intro y hy
    exact (hclosed.hears (hall y hy)).2.1
  · intro y hy
    exact (hclosed.hears (hall y hy)).2.2
  · intro σ S below
    show Gated.terminate S ⟨c.gate, below⟩ = _
    simp only [Gated.terminate, c, Budget.close_of_closing hclosed.closing]

/-- A gate for one byte, which keeps closes to itself, over a script. -/
def keptOverScript : Stack Script 1 :=
  push ⟨Budget.fresh 1, true, false, true, 0⟩ (ofBase { flushes := [.pending] })

/-- A byte, a close that has to wait for the flush, and two more. -/
def closeThrice : List PollMove :=
  [.poll 0 (.write [7]), .poll 0 .close, .poll 0 .close, .poll 0 .close]

/-- The second close is done, and the third is kept from the script. -/
theorem closed_again_kept :
    keptOverScript.IsNew ∧
      (∃ before after, (keptOverScript.pollCycle Script.polledDevice 0
          ⟨⟨Budget.fresh 1, true, false, true, 0⟩, []⟩ closeThrice).past =
        before ++ ⟨.close, [⟨.flush, .ready (.ok .unit)⟩], .ready (.ok .unit)⟩ :: after ∧
        ∃ y ∈ after, y.call = .close ∧ y.passed = [] ∧ y.answer = .ready (.ok .unit)) ∧
      (keptOverScript.pollRun Script.polledDevice closeThrice).gates =
        [⟨⟨0, true, true, true⟩, true, false, true, 1⟩] := by
  have hnew : keptOverScript.IsNew := by
    apply IsNew.push _ (isNew_ofBase _)
    exact ⟨⟨1, true, false⟩, true, rfl⟩
  have hpast : (keptOverScript.pollCycle Script.polledDevice 0
      ⟨⟨Budget.fresh 1, true, false, true, 0⟩, []⟩ closeThrice).past =
      [⟨.write [7], [⟨.write [7], .ready (.ok (.count 1))⟩], .ready (.ok (.count 1))⟩,
        ⟨.close, [⟨.flush, .pending⟩], .pending⟩] ++
        ⟨.close, [⟨.flush, .ready (.ok .unit)⟩], .ready (.ok .unit)⟩ :: [⟨.close, [], .ready (.ok .unit)⟩] := rfl
  obtain ⟨-, -, -, hclose, -⟩ := closed_again Script.polledDevice hnew rfl closeThrice hpast rfl rfl
  refine ⟨hnew, ⟨_, _, hpast, _, List.mem_singleton_self _, rfl, ?_⟩, rfl⟩
  exact hclose _ (List.mem_singleton_self _) rfl

/-- A gate for three bytes over a script that can be closed once. -/
def overClosedOnce : Stack Script 1 :=
  push (gateFor 3) (ofBase { closes := [.plain, .fail (.io (.plain .notConnected))] })

/-- The second close of a complete body closes the script again, and fails as that does. -/
theorem closed_again_fails :
    let s := overClosedOnce.pollRun Script.polledDevice [.poll 0 (.write [97, 98, 99])]
    let once := (Script.polledDevice.stacked 1).perform s .close
    let twice := (Script.polledDevice.stacked 1).perform once.state .close
    once.result = .ready (.ok .unit) ∧ twice.result = .ready (.error (.plain .notConnected)) ∧
      (base once.state).heard = [.writeRun 3, .flush, .close] ∧
      (base twice.state).heard = [.writeRun 3, .flush, .close, .close] ∧ gates twice.state = gates once.state :=
  ⟨rfl, rfl, rfl, rfl, rfl⟩

end Stack

end ExactLength
