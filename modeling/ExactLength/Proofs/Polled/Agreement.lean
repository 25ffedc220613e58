import ExactLength.Proofs.Polled.Alike
import ExactLength.Proofs.Sink.Base

/-!
# Agreement of the two kinds of gate

A gate over a sink and a gate over a polled device side by side, with cycles of the same length. Both take the same
steps, where a close of the polled gate is a shutdown of the other, and a flush unless the shutdown fails. Whenever
the gates pass on what offers anything, what lies below them gives answers that match. Nothing else is said of what
lies below, except that no bytes are reported where none are offered.

Then the gates stay alike: a step keeps their budgets equal, and its results agree (`agrees_take`). A close that the
gates keep to themselves is a flush, unless bytes are owed. The main statement is `gates_agree`.
-/

namespace ExactLength

/-! ### Steps -/

/-- A step that both gates take. -/
inductive JointStep where
  /-- An operation. -/
  | poll (call : PollCall)
  /-- A new cycle after a complete one. -/
  | renew (length : UInt64) (passesClose : Bool)
  deriving DecidableEq

namespace Gated

variable {σ ω : Type}

/-- Starts a new cycle of the gate after a complete one. -/
def renew (g : Gated σ) (length : UInt64) (passesClose : Bool) : Except SinkError Yield × Gated σ :=
  match g.gate.renew length passesClose with
  | .ok gate => (.ok .unit, ⟨gate, g.below⟩)
  | .error e => (.error e, g)

/-- The gate over a sink takes a step. A close is a shutdown, and a flush after one that succeeds. -/
def take (S : Sink σ) (g : Gated σ) : JointStep → Except SinkError Yield × Gated σ
  | .poll .close =>
    let ended := S.gated.perform g .terminate
    match ended.result with
    | .error e => (.error e, ended.state.1)
    | .ok _ =>
      let flushed := S.gated.perform ended.state.1 .flush
      (flushed.result, flushed.state.1)
  | .poll call =>
    let reply := S.gated.perform g call.forSink
    (reply.result, reply.state.1)
  | .renew length passesClose => g.renew length passesClose

/-- The gate over a polled device takes a step. -/
def takePoll (D : PolledDevice ω) (d : Gated ω) : JointStep → PollResult × Gated ω
  | .poll call =>
    let reply := D.gated.perform d call
    (.polled reply.result, reply.state)
  | .renew length passesClose =>
    let reply := d.renew length passesClose
    (.settled reply.1, reply.2)

/-- The gate over a sink after a number of steps. -/
def takes (S : Sink σ) (g : Gated σ) (steps : List JointStep) : Gated σ :=
  steps.foldl (fun g step => (g.take S step).2) g

/-- The gate over a polled device after a number of steps. -/
def takesPoll (D : PolledDevice ω) (d : Gated ω) (steps : List JointStep) : Gated ω :=
  steps.foldl (fun d step => (d.takePoll D step).2) d

end Gated

section Matched

variable {σ ω : Type} (S : Sink σ) (D : PolledDevice ω)

/-- A step that offers at least one byte, or is no write. -/
def JointStep.Tells : JointStep → Prop
  | .poll call => call.Tells
  | .renew _ _ => True

/-- Where nothing is offered, a sink reports no bytes. -/
def Sink.IdleOnNothing : Prop :=
  ∀ sink sources, Source.joined sources = [] → counted (S.writeMany sink sources).result = 0

/-- Where nothing is offered, a polled device reports no bytes. -/
def PolledDevice.IdleOnNothing : Prop :=
  ∀ device runs n, runs.flatten = [] → (D.pollWriteMany device runs).result = .ready (.ok n) → n = 0

/-- If the gate over the sink passes an operation on, what lies below both gates gives matching answers. -/
def AnswersMatch (g : Gated σ) (d : Gated ω) (call : PollCall) : Prop :=
  match g.gate.plan call.forSink with
  | .answer _ => True
  | .pass down _ => Matches (S.perform g.below down).result (D.perform d.below call).result

/-- What a step demands. Answers match where anything is offered, a run of bytes has a length that can be counted, and
a close is one of gates that keep it to themselves: it is flushed if the shutdown succeeds. -/
def JointStep.Matched (g : Gated σ) (d : Gated ω) : JointStep → Prop
  | .poll .close =>
    g.gate.passesClose = false ∧ d.gate.passesClose = false ∧
      let ended := S.gated.perform g .terminate
      (ended.result = .ok .unit → AnswersMatch S D ended.state.1 d .flush)
  | .poll call => call.Fits ∧ (call.Tells → AnswersMatch S D g d call)
  | .renew _ _ => True

/-- Every step of a run has what it demands when it is taken. -/
def AllMatched (g : Gated σ) (d : Gated ω) : List JointStep → Prop
  | [] => True
  | step :: rest => step.Matched S D g d ∧ AllMatched (g.take S step).2 (d.takePoll D step).2 rest

end Matched

/-! ### One operation -/

section Steps

variable {σ ω : Type} {S : Sink σ} {D : PolledDevice ω} {g : Gated σ} {d : Gated ω}

open Gate (Alike)

/-- An operation that is no close, and offers anything if it is a write. -/
theorem agrees_perform (h : Alike g.gate d.gate) (call : PollCall) (hcall : call ≠ .close) (hfits : call.Fits)
    (htells : call.Tells) (hm : AnswersMatch S D g d call) :
    Alike (S.gated.perform g call.forSink).state.1.gate (D.gated.perform d call).state.gate ∧
      Agrees (S.gated.perform g call.forSink).result (.polled (D.gated.perform d call).result) := by
  have hplans := Gate.samePlans h.budget hcall hfits htells
  have hlast := call.isLast_forSink
  have hhear : g.gate.hear call.forSink = g.gate := by cases call <;> first | rfl | exact absurd rfl hcall
  have hhearPoll : d.gate.hearPoll call = d.gate := by cases call <;> first | rfl | exact absurd rfl hcall
  unfold AnswersMatch at hm
  generalize hplan : g.gate.plan call.forSink = plan at hplans hm
  generalize hplan' : d.gate.pollPlan call = plan' at hplans
  cases hplans with
  | answer hagrees =>
    obtain ⟨hresult, hstate⟩ := S.perform_gated_answer hlast hplan
    obtain ⟨hresult', hstate'⟩ := D.perform_gated_answer hplan'
    rw [hresult, hstate, hresult', hstate', hhear, hhearPoll]
    exact ⟨h, hagrees⟩
  | pass down =>
    obtain ⟨hresult, hstate⟩ := S.perform_gated_pass hlast hplan
    obtain ⟨hresult', hstate'⟩ := D.perform_gated_pass hplan'
    rw [hresult, hstate, hresult', hstate', hhear]
    exact ⟨h.learn hm call, .answered hm⟩

/-- A write that offers nothing leaves the gate over the sink as it is. -/
theorem gate_perform_of_nothing (hS : S.IdleOnNothing) (g : Gated σ) {call : PollCall} (hnothing : ¬ call.Tells) :
    (S.gated.perform g call.forSink).state.1.gate = g.gate := by
  cases call with
  | write bytes =>
    obtain rfl : bytes = [] := Decidable.not_not.1 hnothing
    rfl
  | writeMany runs =>
    have hjoined : Source.joined (runs.map .ofBytes) = [] := by
      rw [Source.joined_map_ofBytes]
      exact Decidable.not_not.1 hnothing
    show (S.gated.perform g (.writeMany (runs.map .ofBytes))).state.1.gate = g.gate
    generalize runs.map Source.ofBytes = sources at hjoined
    cases hplan : g.gate.plan (.writeMany sources) with
    | answer result =>
      rw [(S.perform_gated_answer rfl hplan).2]
      rfl
    | pass down shortfall =>
      rw [(S.perform_gated_pass rfl hplan).2]
      cases Gate.passes_of_plan rfl hplan with
      | only src hlive =>
        have hempty : src.isEmpty = true := src.isEmpty_iff.2 (by simpa using hjoined)
        rw [hempty] at hlive
        cases hlive
      | many =>
        have hnone := hS g.below sources hjoined
        show g.gate.learn (.writeMany sources) ((S.writeMany g.below sources).result.map .count) = g.gate
        cases hr : (S.writeMany g.below sources).result with
        | error e => exact Gate.learn_error _ _ e
        | ok n =>
          rw [hr, counted_ok] at hnone
          obtain rfl : n = 0 := UInt64.toNat_inj.1 hnone
          exact g.gate.spend_zero
  | flush => exact absurd trivial hnothing
  | close => exact absurd trivial hnothing

/-- A write that offers nothing leaves the gate over the polled device as it is. -/
theorem gate_poll_of_nothing (hD : D.IdleOnNothing) (d : Gated ω) {call : PollCall} (hnothing : ¬ call.Tells) :
    (D.gated.perform d call).state.gate = d.gate := by
  cases call with
  | write bytes =>
    obtain rfl : bytes = [] := Decidable.not_not.1 hnothing
    rfl
  | writeMany runs =>
    have hruns : runs.flatten = [] := Decidable.not_not.1 hnothing
    cases hplan : d.gate.pollPlan (.writeMany runs) with
    | answer result =>
      rw [(D.perform_gated_answer hplan).2]
      rfl
    | windUp => exact absurd hplan (d.gate.pollPlan_ne_windUp nofun)
    | pass =>
      rw [(D.perform_gated_pass hplan).2]
      show d.gate.learnPoll (.writeMany runs) ((D.pollWriteMany d.below runs).result.map .count) = d.gate
      rcases hr : (D.pollWriteMany d.below runs).result with _ | e | n
      · rfl
      · rfl
      · obtain rfl : n = 0 := hD _ _ _ hruns hr
        exact d.gate.spend_zero
  | flush => exact absurd trivial hnothing
  | close => exact absurd trivial hnothing

/-! ### Closing -/

/-- A shutdown with nothing owed, or asked for again, is kept to the gate. -/
theorem perform_terminate_of_keeps (S : Sink σ) {g : Gated σ} (hkeeps : g.gate.passesClose = false)
    (hshort : ∀ owed, g.gate.budget.close.1 ≠ .short owed) :
    (S.gated.perform g .terminate).result = .ok .unit ∧
      (S.gated.perform g .terminate).state.1 = ⟨g.gate.hear .terminate, g.below⟩ := by
  have hplan : g.gate.plan .terminate = .answer (.ok .unit) := by
    show g.gate.planShutdown = _
    unfold Gate.planShutdown
    cases hc : g.gate.budget.close.1 with
    | repeated => rfl
    | short owed => exact absurd hc (hshort owed)
    | clean => exact if_neg (Bool.eq_false_iff.1 hkeeps)
  obtain ⟨hresult, hstate⟩ := S.perform_gated_answer rfl hplan
  exact ⟨hresult, by rw [hstate]⟩

/-- A shutdown with bytes owed fails, whatever becomes of the truncation. -/
theorem perform_terminate_of_short (S : Sink σ) {g : Gated σ} {owed : UInt64}
    (hshort : g.gate.budget.close.1 = .short owed) :
    (S.gated.perform g .terminate).result = .error (.underflow owed) ∧
      (S.gated.perform g .terminate).state.1.gate = g.gate.hear .terminate := by
  have hplan : g.gate.plan .terminate = .pass .truncate (some owed) := by
    simp only [Gate.plan, Gate.planShutdown, hshort]
  obtain ⟨hresult, hstate⟩ := S.perform_gated_pass rfl hplan
  refine ⟨hresult, ?_⟩
  rw [hstate]
  show (g.gate.hear .terminate).learn .terminate ((S.truncate g.below).result.map Yield.ofUnit) = _
  cases (S.truncate g.below).result with
  | error e => exact Gate.learn_error _ _ e
  | ok _ => exact Gate.learn_unit _ _

/-- A close with nothing owed, or asked for again, is a flush if the gate keeps it to itself. -/
theorem perform_close_of_keeps (D : PolledDevice ω) {d : Gated ω} (hkeeps : d.gate.passesClose = false)
    (hends : d.gate.budget.EndsShort) (hshort : ∀ owed, d.gate.budget.close.1 ≠ .short owed) :
    (D.gated.perform d .close).result = (D.gated.perform ⟨d.gate.hearPoll .close, d.below⟩ .flush).result ∧
      (D.gated.perform d .close).state = (D.gated.perform ⟨d.gate.hearPoll .close, d.below⟩ .flush).state := by
  by_cases howes : d.gate.budget.closing = true ∧ 0 < d.gate.budget.remaining
  · -- the cycle ended short before, and neither has anything left to do
    obtain ⟨hclosing, hpos⟩ := howes
    have hclose := Budget.close_of_closing hclosing
    have hplan : d.gate.pollPlan .close = .answer (.ok .unit) := by
      simp only [Gate.pollPlan, Gate.planClose, hclose]
      exact if_pos hpos
    have hflush : (d.gate.hearPoll .close).pollPlan .flush = .answer (.ok .unit) := by
      have hended : (d.gate.hearPoll .close).isEnded = true := by
        show d.gate.budget.close.2.ended = true
        rw [hclose]
        exact hends hclosing hpos
      exact if_pos hended
    obtain ⟨hresult, hstate⟩ := D.perform_gated_answer hplan
    obtain ⟨hresult', hstate'⟩ := D.perform_gated_answer (g := ⟨d.gate.hearPoll .close, d.below⟩) hflush
    rw [hresult, hstate, hresult', hstate']
    exact ⟨rfl, rfl⟩
  · have hplan : d.gate.pollPlan .close = .windUp := by
      show d.gate.planClose = _
      unfold Gate.planClose
      cases hc : d.gate.budget.close.1 with
      | repeated => exact if_neg fun hpos => howes ⟨Budget.close_fst_eq_repeated_iff.1 hc, hpos⟩
      | short owed => exact absurd hc (hshort owed)
      | clean => rfl
    have hpolled := D.perform_gated d .close
    rw [hplan, PolledDevice.follow, D.pollFlushAndClose_of_keeps (g := ⟨d.gate.hearPoll .close, d.below⟩) hkeeps]
      at hpolled
    exact ⟨congrArg Prod.fst hpolled, congrArg Prod.snd hpolled⟩

/-- A close of gates that keep it to themselves. -/
theorem agrees_close (h : Alike g.gate d.gate) (hm : JointStep.Matched S D g d (.poll .close)) :
    Alike (g.take S (.poll .close)).2.gate (d.takePoll D (.poll .close)).2.gate ∧
      Agrees (g.take S (.poll .close)).1 (d.takePoll D (.poll .close)).1 := by
  obtain ⟨hkeeps, hkeeps', hflush⟩ := hm
  by_cases howes : ∃ owed, g.gate.budget.close.1 = .short owed
  · obtain ⟨owed, hc⟩ := howes
    obtain ⟨hresult, hstate⟩ := perform_terminate_of_short S hc
    have hplan : d.gate.pollPlan .close = .answer (.error (SinkError.underflow owed).toIo) := by
      rw [h.budget] at hc
      simp only [Gate.pollPlan, Gate.planClose, hc]
    obtain ⟨hresult', hstate'⟩ := D.perform_gated_answer hplan
    have hown : ∀ cause, SinkError.underflow owed ≠ .io cause := by
      intro cause hio
      cases hio
    simp only [Gated.take, Gated.takePoll, hresult, hresult', hstate, hstate']
    exact ⟨h.close, .refused hown⟩
  · have hshort : ∀ owed, g.gate.budget.close.1 ≠ .short owed := fun owed hc => howes ⟨owed, hc⟩
    obtain ⟨hresult, hstate⟩ := perform_terminate_of_keeps S hkeeps hshort
    obtain ⟨hresult', hstate'⟩ := perform_close_of_keeps D hkeeps' (h.budget ▸ h.endsShort) (h.budget ▸ hshort)
    have hmatch := hflush hresult
    rw [hstate] at hmatch
    have hflushed : PollCall.flush ≠ .close := by decide
    simp only [Gated.take, Gated.takePoll, hresult, hresult', hstate, hstate']
    exact agrees_perform (g := ⟨g.gate.hear .terminate, g.below⟩) (d := ⟨d.gate.hearPoll .close, d.below⟩)
      h.close .flush hflushed trivial trivial hmatch

/-! ### Runs -/

/-- Both gates start a new cycle, or neither does. -/
theorem agrees_renew (h : Alike g.gate d.gate) (length : UInt64) (passesClose : Bool) :
    Alike (g.take S (.renew length passesClose)).2.gate (d.takePoll D (.renew length passesClose)).2.gate ∧
      Agrees (g.take S (.renew length passesClose)).1 (d.takePoll D (.renew length passesClose)).1 := by
  simp only [Gated.take, Gated.takePoll, Gated.renew, Gate.renew, h.budget]
  cases hrenew : d.gate.budget.renew length with
  | error e => exact ⟨h, .settled _⟩
  | ok b =>
    obtain ⟨-, -, rfl⟩ := Budget.renew_eq_ok_iff.1 hrenew
    exact ⟨h.restart length passesClose, .settled _⟩

/-- A step keeps the gates alike, and its results agree if it tells anything. -/
theorem agrees_take (hS : S.IdleOnNothing) (hD : D.IdleOnNothing) (h : Alike g.gate d.gate) {step : JointStep}
    (hm : step.Matched S D g d) :
    Alike (g.take S step).2.gate (d.takePoll D step).2.gate ∧
      (step.Tells → Agrees (g.take S step).1 (d.takePoll D step).1) := by
  cases step with
  | renew length passesClose =>
    obtain ⟨halike, hagrees⟩ := agrees_renew (S := S) (D := D) h length passesClose
    exact ⟨halike, fun _ => hagrees⟩
  | poll call =>
    by_cases hclose : call = .close
    · subst hclose
      obtain ⟨halike, hagrees⟩ := agrees_close h hm
      exact ⟨halike, fun _ => hagrees⟩
    · have htake : g.take S (.poll call) =
          ((S.gated.perform g call.forSink).result, (S.gated.perform g call.forSink).state.1) := by
        cases call <;> first | rfl | exact absurd rfl hclose
      obtain ⟨hfits, hmatch⟩ : call.Fits ∧ (call.Tells → AnswersMatch S D g d call) := by
        cases call <;> first | exact hm | exact absurd rfl hclose
      rw [htake]
      by_cases htells : call.Tells
      · obtain ⟨halike, hagrees⟩ := agrees_perform h call hclose hfits htells (hmatch htells)
        exact ⟨halike, fun _ => hagrees⟩
      · refine ⟨?_, fun ht => absurd ht htells⟩
        dsimp only [Gated.takePoll]
        rw [gate_perform_of_nothing hS g htells, gate_poll_of_nothing hD d htells]
        exact h

/-- A run keeps the gates alike. -/
theorem alike_takes (hS : S.IdleOnNothing) (hD : D.IdleOnNothing) (h : Alike g.gate d.gate)
    {steps : List JointStep} (hm : AllMatched S D g d steps) :
    Alike (g.takes S steps).gate (d.takesPoll D steps).gate := by
  induction steps generalizing g d with
  | nil => exact h
  | cons step rest ih =>
    obtain ⟨hstep, hrest⟩ := hm
    exact ih (agrees_take hS hD h hstep).1 hrest

/-- **The two kinds of gate agree.** A gate over a sink and a gate over a polled device start with cycles of the same
length, and take the same steps over answers that match. After any number of steps their budgets are equal and their hooks
have run equally often. The results of a further step agree, unless it is a write that offers nothing: a refusal, which
is an error other than an I/O error, is the result of the one gate exactly if it can be had from the error of the
other. -/
theorem gates_agree (hS : S.IdleOnNothing) (hD : D.IdleOnNothing) {config config' : Config} {hooked hooked' : Bool}
    {gate gate' : Gate} (hgate : Gate.ofConfig config hooked = .ok gate)
    (hgate' : Gate.ofConfig config' hooked' = .ok gate') (hlength : config.contentLength = config'.contentLength)
    (sink : σ) (device : ω) {steps : List JointStep} (hm : AllMatched S D ⟨gate, sink⟩ ⟨gate', device⟩ steps) :
    let g := Gated.takes S ⟨gate, sink⟩ steps
    let d := Gated.takesPoll D ⟨gate', device⟩ steps
    g.gate.budget = d.gate.budget ∧ g.gate.completions = d.gate.completions ∧
      ∀ step, step.Matched S D g d → step.Tells →
        Agrees (g.take S step).1 (d.takePoll D step).1 ∧
          ∀ e, (∀ cause, e ≠ .io cause) →
            ((g.take S step).1 = .error e ↔ (d.takePoll D step).1.failure? = some e) := by
  intro g d
  have hstart : Alike gate gate' := by
    obtain ⟨-, rfl⟩ := Gate.ofConfig_eq_ok_iff.1 hgate
    obtain ⟨-, rfl⟩ := Gate.ofConfig_eq_ok_iff.1 hgate'
    exact ⟨congrArg Budget.fresh hlength, rfl, Budget.endsShort_fresh _⟩
  have halike : Alike g.gate d.gate := alike_takes hS hD hstart hm
  refine ⟨halike.budget, halike.completions, ?_⟩
  intro step hstep htells
  have hagrees := (agrees_take hS hD halike hstep).2 htells
  exact ⟨hagrees, fun e he => hagrees.error_iff he⟩

end Steps

/-- An honest base reports no bytes where nothing is offered. -/
theorem Sink.HonestBase.idleOnNothing {σ : Type} {S : Sink σ} {out : σ → Bytes} (h : S.HonestBase out) :
    S.IdleOnNothing := by
  intro sink sources hjoined
  have hfits : (Call.writeMany sources).Fits := by
    show (Source.joined sources).length < UInt64.size
    rw [hjoined]
    decide
  obtain ⟨bytes, -, hcount, hgives⟩ := h.honest sink (.writeMany sources) rfl hfits
  obtain ⟨_, -, hfront, -⟩ := Call.gives_writeMany_iff.1 hgives
  rw [hjoined, List.prefix_nil] at hfront
  rw [hfront] at hcount
  exact (credited_map_count _).symm.trans hcount.symm

/-- The small tank, polled. -/
def polledTank : PolledDevice Bytes where
  pollWrite stored run := ⟨.ready (pourInto stored run).1, (pourInto stored run).2, []⟩
  pollWriteMany stored runs := ⟨.ready (pourInto stored runs.flatten).1, (pourInto stored runs.flatten).2, []⟩
  pollFlush stored := ⟨.ready (.ok ()), stored, []⟩
  pollClose stored := ⟨.ready (.ok ()), stored, []⟩

theorem polledTank_idleOnNothing : polledTank.IdleOnNothing := by
  intro stored runs n hruns h
  have hpoured : (pourInto stored runs.flatten).1 = .ok n := by injection h
  rw [hruns] at hpoured
  unfold pourInto at hpoured
  split at hpoured
  · cases hpoured
    rfl
  · cases hpoured

/-- A gate for three bytes that keeps a shutdown to itself. -/
def keepingThree : Gate :=
  ⟨Budget.fresh 3, true, false, true, 0⟩

/-- Three bytes in two writes and a close, and then one byte of a cycle of two. -/
def twoCycles : List JointStep :=
  [.poll (.write [1, 2, 3]), .poll .flush, .poll (.writeMany [[], [3]]), .poll .close, .renew 2 false,
    .poll (.write [7])]

/-- Each hook has run once, and a close now is refused by both gates with one byte owed. -/
theorem gates_agree_tank :
    Gate.ofConfig ⟨3, true, false⟩ true = .ok keepingThree ∧
      AllMatched tank.sink polledTank ⟨keepingThree, .ofDevice []⟩ ⟨keepingThree, []⟩ twoCycles ∧
      (Gated.takesPoll polledTank ⟨keepingThree, []⟩ twoCycles).gate.budget.remaining = 1 ∧
      (Gated.takesPoll polledTank ⟨keepingThree, []⟩ twoCycles).gate.completions = 1 ∧
      ((Gated.takesPoll polledTank ⟨keepingThree, []⟩ twoCycles).takePoll polledTank (.poll .close)).1.failure? =
        some (.underflow 1) := by
  have hgate : Gate.ofConfig ⟨3, true, false⟩ true = .ok keepingThree := rfl
  have hmatched : AllMatched tank.sink polledTank ⟨keepingThree, .ofDevice []⟩ ⟨keepingThree, []⟩ twoCycles := by
    refine ⟨⟨trivial, fun _ => Matches.count 2⟩, ⟨trivial, fun _ => Matches.flushed⟩,
      ⟨?_, fun _ => Matches.count 1⟩, ⟨rfl, rfl, fun _ => Matches.flushed⟩, trivial,
      ⟨trivial, fun _ => Matches.count 1⟩, trivial⟩
    intro run hrun
    simp only [List.mem_cons, List.not_mem_nil, or_false] at hrun
    rcases hrun with rfl | rfl <;> decide
  have hidle : tank.sink.IdleOnNothing := (Sink.HonestBase.outlet tank_honest).idleOnNothing
  obtain ⟨hbudget, hcompletions, hnext⟩ :=
    gates_agree hidle polledTank_idleOnNothing hgate hgate rfl (.ofDevice []) [] hmatched
  obtain ⟨-, hrefused⟩ := hnext (.poll .close) ⟨rfl, rfl, nofun⟩ trivial
  refine ⟨hgate, hmatched, ?_, ?_, ?_⟩
  · rw [← hbudget]
    decide
  · rw [← hcompletions]
    decide
  · exact (hrefused (.underflow 1) nofun).1 rfl

end ExactLength
