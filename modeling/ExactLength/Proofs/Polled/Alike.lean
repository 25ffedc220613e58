import ExactLength.Proofs.Gate.Plan
import ExactLength.Proofs.Polled.Plan

/-!
# Gates that stand alike

A gate over a sink and a gate over a polled device with the same budget. They ask it in the same order, so they make
the same of whatever is asked of them (`Gate.samePlans`): both refuse, for the same reason, or both pass on what they
heard. If the answers to that match (`Matches`), the gates learn the same from them and stay alike
(`Gate.Alike.learn`).

What a sink counts as nothing taken yet, or not flushed yet, is a pending answer of a polled device.
-/

namespace ExactLength

/-! ### Gates that stand alike -/

namespace Budget

/-- A cycle that is to end with bytes owed is over. -/
def EndsShort (b : Budget) : Prop :=
  b.closing = true → 0 < b.remaining → b.ended = true

theorem endsShort_fresh (length : UInt64) : (fresh length).EndsShort := by
  intro h
  cases h

namespace EndsShort

variable {b : Budget}

theorem spend (h : b.EndsShort) (n : UInt64) : (b.spend n).EndsShort := by
  intro hclosing hpos
  have hspent := b.toNat_remaining_spend n
  rw [UInt64.lt_iff_toNat_lt, UInt64.toNat_zero] at hpos
  refine h hclosing ?_
  rw [UInt64.lt_iff_toNat_lt, UInt64.toNat_zero]
  omega

theorem settle (h : b.EndsShort) (flushed : Bool) : (b.settle flushed).2.EndsShort := by
  intro hclosing hpos
  rw [closing_settle] at hclosing
  rw [remaining_settle] at hpos
  rw [ended_settle, h hclosing hpos, Bool.true_or]

theorem close (h : b.EndsShort) : b.close.2.EndsShort := by
  intro _ hpos
  rw [remaining_close] at hpos
  rw [ended_close]
  cases hc : b.closing with
  | true => rw [h hc hpos, Bool.true_or]
  | false => simp [hpos]

end EndsShort

end Budget

namespace Gate

/-- Two gates have the same budget and have run their hooks equally often. If it is to end with bytes owed, the cycle
is over. -/
structure Alike (g d : Gate) : Prop where
  /-- The budgets are equal. -/
  budget : g.budget = d.budget
  /-- The hooks have run equally often. -/
  completions : g.completions = d.completions
  /-- A cycle that is to end with bytes owed is over. -/
  endsShort : g.budget.EndsShort

namespace Alike

variable {g d : Gate}

theorem spend (h : Alike g d) (n : UInt64) : Alike (g.spend n) (d.spend n) where
  budget := congrArg (Budget.spend · n) h.budget
  completions := h.completions
  endsShort := h.endsShort.spend n

theorem settle (h : Alike g d) (flushed : Bool) : Alike (g.settle flushed).2 (d.settle flushed).2 where
  budget := congrArg (fun b => (b.settle flushed).2) h.budget
  completions := by
    unfold Gate.settle
    rw [h.budget, h.completions]
  endsShort := h.endsShort.settle flushed

theorem close (h : Alike g d) : Alike (g.hear .terminate) (d.hearPoll .close) where
  budget := congrArg (fun b => b.close.2) h.budget
  completions := h.completions
  endsShort := h.endsShort.close

theorem restart (h : Alike g d) (length : UInt64) (passesClose : Bool) :
    Alike (g.restart length passesClose) (d.restart length passesClose) where
  budget := rfl
  completions := h.completions
  endsShort := Budget.endsShort_fresh length

end Alike

end Gate

/-! ### Answers and results -/

/-- The answer of a sink and that of a polled device match. -/
inductive Matches : Except SinkError Yield → Poll Yield → Prop where
  /-- Both took so many bytes. -/
  | count (n : UInt64) : Matches (.ok (.count n)) (.ready (.ok (.count n)))
  /-- Neither took any yet. -/
  | noneYet : Matches (.ok (.count 0)) .pending
  /-- Both are flushed. -/
  | flushed : Matches (.ok (.flag true)) (.ready (.ok .unit))
  /-- Neither is flushed yet. -/
  | notFlushed : Matches (.ok (.flag false)) .pending
  /-- Both failed, and neither error has a refusal of a gate in it. -/
  | failed {cause cause' : IoError} (h : cause.holdsSinkError = false) (h' : cause'.holdsSinkError = false) :
    Matches (.error (.io cause)) (.ready (.error cause'))

/-- The results of a step agree: they match as answers from below do, or both gates refuse for the same reason. -/
inductive Agrees : Except SinkError Yield → PollResult → Prop where
  /-- The results match. -/
  | answered {result : Except SinkError Yield} {answer : Poll Yield} (h : Matches result answer) :
    Agrees result (.polled answer)
  /-- Both gates refuse. -/
  | refused {e : SinkError} (h : ∀ cause, e ≠ .io cause) : Agrees (.error e) (.polled (.ready (.error e.toIo)))
  /-- The step did not concern what lies below. -/
  | settled (result : Except SinkError Yield) : Agrees result (.settled result)

/-- The sink error that a step over a polled device fails with, or that its I/O error stands for. -/
def PollResult.failure? : PollResult → Option SinkError
  | .polled (.ready (.error cause)) => some (.ofIo cause)
  | .settled (.error e) => some e
  | _ => none

/-- If the results agree, both or neither fail with a given refusal of a gate. -/
theorem Agrees.error_iff {result : Except SinkError Yield} {polled : PollResult} (h : Agrees result polled)
    {e : SinkError} (he : ∀ cause, e ≠ .io cause) : result = .error e ↔ polled.failure? = some e := by
  cases h with
  | answered h =>
    cases h with
    | failed h h' =>
      rw [PollResult.failure?, SinkError.ofIo_of_not_holds h']
      simp [Ne.symm (he _)]
    | _ => simp [PollResult.failure?]
  | refused hown =>
    rw [PollResult.failure?, SinkError.ofIo_toIo hown]
    simp
  | settled => cases result <;> simp [PollResult.failure?]

/-! ### Plans -/

/-- The call of a sink that stands for an operation of a polled device. A close begins with a shutdown. -/
def PollCall.forSink : PollCall → Call
  | write bytes => .write (.ofBytes bytes)
  | writeMany runs => .writeMany (runs.map .ofBytes)
  | flush => .flush
  | close => .terminate

/-- The runs of an operation have lengths that can be counted. -/
def PollCall.Fits : PollCall → Prop
  | writeMany runs => ∀ run ∈ runs, run.length < UInt64.size
  | _ => True

/-- An operation that offers at least one byte, or is no write. -/
def PollCall.Tells : PollCall → Prop
  | write bytes => bytes ≠ []
  | writeMany runs => runs.flatten ≠ []
  | _ => True

theorem PollCall.isLast_forSink (call : PollCall) : call.forSink.isLast = false := by
  cases call <;> rfl

theorem Source.total_map_ofBytes (runs : List Bytes) : total (runs.map ofBytes) = Gated.totalLength runs := by
  induction runs with
  | nil => rfl
  | cons run rest ih => rw [List.map_cons, total, Gated.totalLength, remaining_ofBytes, ih]

namespace Gate

variable {g d : Gate}

/-- Two gates make the same of a call and of an operation. -/
inductive SamePlans : Plan → PollPlan → Prop where
  /-- Both answer by themselves, and agree. -/
  | answer {result : Except SinkError Yield} {answer : Except IoError Yield}
    (h : Agrees result (.polled (.ready answer))) : SamePlans (.answer result) (.answer answer)
  /-- Both pass on what they heard. -/
  | pass (down : Call) : SamePlans (.pass down none) .pass

theorem samePlans_write (h : g.budget = d.budget) (size : Nat) (down : Call) :
    SamePlans (g.planWrite size down) (d.planPolled size) := by
  unfold planWrite planPolled
  rw [h]
  cases hp : d.budget.permit size with
  | error e => exact .answer (.refused (Budget.ne_io_of_permit hp))
  | ok _ => exact .pass down

/-- Gates with the same budget make the same of one run of bytes. -/
theorem samePlans_source (h : g.budget = d.budget) {bytes : Bytes} (hbytes : bytes ≠ []) :
    SamePlans (g.planSource (.ofBytes bytes)) (d.planPolled bytes.length) := by
  have hlive : ¬ (Source.ofBytes bytes).isEmpty = true := by
    rw [Source.isEmpty_iff, Source.bytes_ofBytes]
    exact hbytes
  unfold planSource
  rw [if_neg hlive, Source.remaining_ofBytes]
  exact samePlans_write h _ _

/-- Gates with the same budget make the same of an operation that offers anything. -/
theorem samePlans (h : g.budget = d.budget) {call : PollCall} (hcall : call ≠ .close) (hfits : call.Fits)
    (htells : call.Tells) : SamePlans (g.plan call.forSink) (d.pollPlan call) := by
  cases call with
  | close => exact absurd rfl hcall
  | write bytes =>
    have hbytes : bytes ≠ [] := htells
    have hlive : ¬ bytes.isEmpty = true := by
      rw [List.isEmpty_iff]
      exact hbytes
    simp only [PollCall.forSink, plan, pollPlan, if_neg hlive]
    exact samePlans_source h hbytes
  | writeMany runs =>
    have hruns : runs.flatten ≠ [] := htells
    rcases runs with _ | ⟨run, _ | ⟨next, rest⟩⟩
    · exact absurd rfl hruns
    · have hlength : (Gated.totalLength [run]).toNat = run.length := by
        have hrun : run.length < UInt64.size := hfits run List.mem_cons_self
        rw [Gated.totalLength, Gated.totalLength, UInt64.add_zero, UInt64.toNat_ofNat_of_lt' hrun]
      have hrun : run ≠ [] := by simpa using hruns
      show SamePlans (g.planSource (.ofBytes run)) (d.planPolled (Gated.totalLength [run]).toNat)
      rw [hlength]
      exact samePlans_source h hrun
    · show SamePlans (g.planWrite (Source.total ((run :: next :: rest).map .ofBytes)).toNat _) (d.planPolled _)
      rw [Source.total_map_ofBytes]
      exact samePlans_write h _ _
  | flush =>
    have hended : g.isEnded = d.isEnded := congrArg Budget.ended h
    simp only [PollCall.forSink, plan, pollPlan, hended]
    cases d.isEnded with
    | true => exact .answer (.answered .flushed)
    | false => exact .pass .flush

/-- Gates that learn matching answers stay alike. -/
theorem Alike.learn (h : Alike g d) {result : Except SinkError Yield} {answer : Poll Yield}
    (hm : Matches result answer) (call : PollCall) :
    Alike (g.learn call.forSink result) (d.learnPoll call answer) := by
  cases hm with
  | count n =>
    rw [learn_count]
    cases call <;> exact h.spend n
  | noneYet =>
    rw [learn_count, spend_zero]
    cases call <;> exact h
  | flushed =>
    cases call with
    | flush => exact h.settle true
    | _ => exact h
  | notFlushed =>
    cases call with
    | flush =>
      show Alike (g.learn .flush (.ok (.flag false))) d
      rw [learn_flush, settle_false]
      exact h
    | _ => exact h
  | failed =>
    rw [learn_error]
    cases call <;> exact h

end Gate

end ExactLength
