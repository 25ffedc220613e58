import ExactLength.Polled.Stack

/-!
# What a gate over a polled device makes of an operation

A gate over a polled device, seen without the device. An operation either gets its answer from the gate itself, or is
passed on as it is, or is a close that has to flush first; `Gate.pollPlan` says which. The gate changes when it hears
of a close (`Gate.hearPoll`), and when it learns the answer to what it passed on (`Gate.learnPoll`).
`PolledDevice.perform_gated` states that a gate over any polled device behaves so.
-/

namespace ExactLength

/-- What a gate over a polled device makes of an operation before anything below hears of it. -/
inductive Gate.PollPlan where
  /-- It answers by itself. -/
  | answer (result : Except IoError Yield)
  /-- It passes the operation on. -/
  | pass
  /-- It flushes, and then closes what lies below if it passes that on. -/
  | windUp

namespace Gate

/-- The plan for a write of so many bytes. -/
def planPolled (g : Gate) (size : Nat) : PollPlan :=
  match g.budget.permit size with
  | .error e => .answer (.error e.toIo)
  | .ok _ => .pass

/-- The plan for a close. -/
def planClose (g : Gate) : PollPlan :=
  match g.budget.close.1 with
  | .short owed => .answer (.error (SinkError.underflow owed).toIo)
  | .repeated => if g.budget.remaining > 0 then .answer (.ok .unit) else .windUp
  | .clean => .windUp

/-- What the gate makes of an operation. -/
def pollPlan (g : Gate) : PollCall → PollPlan
  | .write bytes => if bytes.isEmpty then .answer (.ok (.count 0)) else g.planPolled bytes.length
  | .writeMany runs => if runs.isEmpty then .answer (.ok (.count 0)) else g.planPolled (Gated.totalLength runs).toNat
  | .flush => if g.isEnded then .answer (.ok .unit) else .pass
  | .close => g.planClose

/-- Only a close makes a gate wind up. -/
theorem pollPlan_ne_windUp (g : Gate) {call : PollCall} (h : call ≠ .close) : g.pollPlan call ≠ .windUp := by
  intro hplan
  cases call with
  | close => exact h rfl
  | _ =>
    simp only [pollPlan, planPolled] at hplan
    repeat' split at hplan
    all_goals cases hplan

/-- The gate once it has heard of an operation, whether or not it passes anything on. -/
def hearPoll (g : Gate) : PollCall → Gate
  | .close => { g with budget := g.budget.close.2 }
  | _ => g

/-- The gate once it has learnt the answer to what it passed on. -/
def learnPoll (g : Gate) (call : PollCall) (answer : Poll Yield) : Gate :=
  match call, answer with
  | .flush, .ready (.ok .unit) => (g.settle true).2
  | _, .ready (.ok (.count accepted)) => g.spend accepted
  | _, _ => g

end Gate

namespace PolledDevice

variable {ω : Type} (D : PolledDevice ω)

theorem chargePoll_result (gate : Gate) (event : UInt64 → UInt64 → Event) (reply : PollReply ω UInt64) :
    (Gated.chargePoll gate event reply).result = reply.result := by
  unfold Gated.chargePoll
  split <;> rfl

theorem chargePoll_state (gate : Gate) (event : UInt64 → UInt64 → Event) (reply : PollReply ω UInt64)
    (call : PollCall) :
    (Gated.chargePoll gate event reply).state = ⟨gate.learnPoll call (reply.result.map .count), reply.state⟩ := by
  unfold Gated.chargePoll
  rcases reply with ⟨_ | e | n, state, events⟩ <;> cases call <;> rfl

/-- Carries out what a gate makes of an operation. -/
def follow (g : Gated ω) (call : PollCall) : Gate.PollPlan → Poll Yield × Gated ω
  | .answer result => (.ready result, ⟨g.gate.hearPoll call, g.below⟩)
  | .pass =>
    let reply := D.perform g.below call
    (reply.result, ⟨g.gate.learnPoll call reply.result, reply.state⟩)
  | .windUp =>
    let reply := Gated.pollFlushAndClose D ⟨g.gate.hearPoll call, g.below⟩
    (reply.result.map Yield.ofUnit, reply.state)

/-- A gate over any polled device follows its plan. -/
theorem perform_gated (g : Gated ω) (call : PollCall) :
    ((D.gated.perform g call).result, (D.gated.perform g call).state) = D.follow g call (g.gate.pollPlan call) := by
  obtain ⟨gate, below⟩ := g
  cases call with
  | write bytes =>
    simp only [perform, gated, Gated.pollWrite, Gate.pollPlan, Gate.planPolled]
    split
    · rfl
    · cases gate.budget.permit bytes.length with
      | error e => rfl
      | ok _ =>
        simp only [Outcome.mapResult_result, Outcome.mapResult_state, chargePoll_result,
          chargePoll_state _ _ _ (.write bytes)]
        rfl
  | writeMany runs =>
    simp only [perform, gated, Gated.pollWriteMany, Gate.pollPlan, Gate.planPolled]
    split
    · rfl
    · cases gate.budget.permit (Gated.totalLength runs).toNat with
      | error e => rfl
      | ok _ =>
        simp only [Outcome.mapResult_result, Outcome.mapResult_state, chargePoll_result,
          chargePoll_state _ _ _ (.writeMany runs)]
        rfl
  | flush =>
    simp only [perform, gated, Gated.pollFlush, Gate.pollPlan]
    split
    · rfl
    · rcases hr : (D.pollFlush below).result with _ | e | ⟨⟩ <;>
        simp [follow, perform, hr, Poll.map, Except.map, Yield.ofUnit, Gate.learnPoll]
  | close =>
    simp only [perform, gated, Gated.pollClose, Gate.pollPlan, Gate.planClose]
    rcases hc : gate.budget.close with ⟨_ | _ | owed, budget⟩
    · have hsame := Budget.close_snd_of_repeated (congrArg Prod.fst hc)
      rw [hc] at hsame
      obtain rfl : budget = gate.budget := hsame
      dsimp only
      split
      · simp only [follow, Gate.hearPoll, hc]
        rfl
      · simp only [follow, Gate.hearPoll, hc]
        rfl
    · simp only [follow, Gate.hearPoll, hc]
      rfl
    · simp only [follow, Gate.hearPoll, hc]
      rfl

/-- An operation that the gate answers by itself. -/
theorem perform_gated_answer {g : Gated ω} {call : PollCall} {result : Except IoError Yield}
    (h : g.gate.pollPlan call = .answer result) :
    (D.gated.perform g call).result = .ready result ∧
      (D.gated.perform g call).state = ⟨g.gate.hearPoll call, g.below⟩ := by
  have heq := D.perform_gated g call
  rw [h] at heq
  exact ⟨congrArg Prod.fst heq, congrArg Prod.snd heq⟩

/-- An operation that the gate passes on. -/
theorem perform_gated_pass {g : Gated ω} {call : PollCall} (h : g.gate.pollPlan call = .pass) :
    (D.gated.perform g call).result = (D.perform g.below call).result ∧
      (D.gated.perform g call).state =
        ⟨g.gate.learnPoll call (D.perform g.below call).result, (D.perform g.below call).state⟩ := by
  have heq := D.perform_gated g call
  rw [h] at heq
  exact ⟨congrArg Prod.fst heq, congrArg Prod.snd heq⟩

/-- A close that is kept to the gate is a flush. -/
theorem pollFlushAndClose_of_keeps {g : Gated ω} (hkeeps : g.gate.passesClose = false) :
    Gated.pollFlushAndClose D g = Gated.pollFlush D g := by
  have hsame : (Gated.pollFlush D g).state.gate.passesClose = false := by
    unfold Gated.pollFlush
    split
    · exact hkeeps
    · dsimp only
      split <;> exact hkeeps
  unfold Gated.pollFlushAndClose
  dsimp only
  split
  · rw [hsame]
    rfl
  · rfl

end PolledDevice

end ExactLength
