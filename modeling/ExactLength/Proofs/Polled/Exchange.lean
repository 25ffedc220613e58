import ExactLength.Proofs.Polled.Plan

/-!
# What a gate over a polled device exchanges

The history of one gate over a polled device. Each poll that it hears is a `PollExchange`: what it passed on for it,
with the answers from below, and its own answer. Nothing is assumed of the answers from below.

`Gate.HearsPoll` lists the exchanges that a gate may have, case by case, and `Gated.hears_exchange` states that a gate
over any polled device has no others. A close is the one operation that passes on more than one poll: a flush, unless
the cycle is over, and a close if the flush is done and the gate passes a close on.
-/

namespace ExactLength

/-- A poll, and the answer to it. -/
structure PollHeard where
  /-- The operation that was asked for. -/
  call : PollCall
  /-- The answer. -/
  answer : Poll Yield

/-- A poll that a gate heard. -/
structure PollExchange where
  /-- The operation that was asked for. -/
  call : PollCall
  /-- What was passed on for it, in order. -/
  passed : List PollHeard
  /-- The answer of the gate. -/
  answer : Poll Yield

/-- The operation is done. -/
def Poll.isDone {α : Type} : Poll α → Bool
  | ready (.ok _) => true
  | _ => false

theorem Poll.isDone_iff {answer : Poll Unit} : answer.isDone = true ↔ answer = .ready (.ok ()) := by
  rcases answer with _ | e | ⟨⟩ <;> simp [isDone]

theorem PolledDevice.perform_flush_iff {ω : Type} {D : PolledDevice ω} {device : ω} :
    (D.perform device .flush).result = .ready (.ok .unit) ↔ (D.pollFlush device).result = .ready (.ok ()) := by
  rw [perform, Outcome.mapResult_result]
  rcases (D.pollFlush device).result with _ | e | ⟨⟩ <;> simp [Poll.map, Except.map, Yield.ofUnit]

/-! ### Several polls -/

namespace PolledDevice

variable {ω β γ : Type} (D : PolledDevice ω)

/-- The device after a number of polls. -/
def afterPolls (device : ω) (calls : List PollCall) : ω :=
  calls.foldl (fun device call => (D.perform device call).state) device

/-- What is to be told of a number of polls, each at its time. -/
def along (tell : ω → PollCall → List β) : ω → List PollCall → List β
  | _, [] => []
  | device, call :: rest => tell device call ++ along tell (D.perform device call).state rest

/-- A number of polls with their answers. -/
def heardPolls (device : ω) (calls : List PollCall) : List PollHeard :=
  D.along (fun device call => [⟨call, (D.perform device call).result⟩]) device calls

theorem afterPolls_append (device : ω) (first rest : List PollCall) :
    D.afterPolls device (first ++ rest) = D.afterPolls (D.afterPolls device first) rest :=
  List.foldl_append

theorem along_append (tell : ω → PollCall → List β) (device : ω) (first rest : List PollCall) :
    D.along tell device (first ++ rest) = D.along tell device first ++ D.along tell (D.afterPolls device first) rest := by
  induction first generalizing device with
  | nil => rfl
  | cons call first ih =>
    rw [List.cons_append, along, along, ih, List.append_assoc]
    rfl

theorem flatMap_along (f : β → List γ) (tell : ω → PollCall → List β) (device : ω) (calls : List PollCall) :
    (D.along tell device calls).flatMap f = D.along (fun device call => (tell device call).flatMap f) device calls := by
  induction calls generalizing device with
  | nil => rfl
  | cons call rest ih => rw [along, along, List.flatMap_append, ih]

theorem mem_along {tell : ω → PollCall → List β} {device : ω} {calls : List PollCall} {b : β}
    (h : b ∈ D.along tell device calls) : ∃ device', ∃ call ∈ calls, b ∈ tell device' call := by
  induction calls generalizing device with
  | nil => cases h
  | cons call rest ih =>
    rcases List.mem_append.1 h with h | h
    · exact ⟨device, call, List.mem_cons_self, h⟩
    · obtain ⟨device', call', hcall', hb⟩ := ih h
      exact ⟨device', call', List.mem_cons_of_mem call hcall', hb⟩

end PolledDevice

namespace Gated

variable {ω : Type} (D : PolledDevice ω)

/-- Nothing is left to be flushed below, once it is asked to. -/
def isFlushedBelow (g : Gated ω) : Bool :=
  g.gate.isEnded || (D.pollFlush g.below).result.isDone

/-- What a gate passes on for an operation, in order. -/
def passedOn (g : Gated ω) (call : PollCall) : List PollCall :=
  match g.gate.pollPlan call with
  | .answer _ => []
  | .pass => [call]
  | .windUp =>
    (if g.gate.isEnded then [] else [.flush]) ++
      if g.isFlushedBelow D && g.gate.passesClose then [.close] else []

/-- What a gate exchanges for an operation. -/
def exchange (g : Gated ω) (call : PollCall) : PollExchange :=
  ⟨call, D.heardPolls g.below (g.passedOn D call), (D.gated.perform g call).result⟩

end Gated

/-! ### What a gate may exchange -/

namespace Gate

/-- The flush that a gate passes on when it winds up, and that is done. -/
def flushing (g : Gate) : List PollHeard :=
  if g.budget.ended then [] else [⟨.flush, .ready (.ok .unit)⟩]

/-- The exchanges that a gate may have. -/
inductive HearsPoll (g : Gate) : PollExchange → Prop where
  /-- It answers by itself. -/
  | answer {call : PollCall} {result : Except IoError Yield} (h : g.pollPlan call = .answer result) :
    HearsPoll g ⟨call, [], .ready result⟩
  /-- It passes a write on. -/
  | write {call : PollCall} (hcall : call ≠ .flush) (h : g.pollPlan call = .pass) (answer : Poll UInt64) :
    HearsPoll g ⟨call, [⟨call, answer.map .count⟩], answer.map .count⟩
  /-- It passes a flush on. -/
  | flush (hopen : g.budget.ended = false) (answer : Poll Unit) :
    HearsPoll g ⟨.flush, [⟨.flush, answer.map Yield.ofUnit⟩], answer.map Yield.ofUnit⟩
  /-- It winds up, and the flush fails or cannot be done yet. -/
  | stalled (hnothing : g.budget.remaining = 0) (hopen : g.budget.ended = false) {answer : Poll Unit}
    (hanswer : answer ≠ .ready (.ok ())) :
    HearsPoll g ⟨.close, [⟨.flush, answer.map Yield.ofUnit⟩], answer.map Yield.ofUnit⟩
  /-- It winds up, and keeps the close to itself. -/
  | kept (hnothing : g.budget.remaining = 0) (hkeeps : g.passesClose = false) :
    HearsPoll g ⟨.close, g.flushing, .ready (.ok .unit)⟩
  /-- It winds up, and passes the close on. -/
  | closed (hnothing : g.budget.remaining = 0) (hpasses : g.passesClose = true) (answer : Poll Unit) :
    HearsPoll g ⟨.close, g.flushing ++ [⟨.close, answer.map Yield.ofUnit⟩], answer.map Yield.ofUnit⟩

/-- The gate after an exchange. -/
def reactPoll (g : Gate) (x : PollExchange) : Gate :=
  x.passed.foldl (fun g heard => g.learnPoll heard.call heard.answer) (g.hearPoll x.call)

/-! ### Plans -/

variable {g : Gate}

theorem planPolled_eq_pass_iff {size : Nat} : g.planPolled size = .pass ↔ g.budget.permit size = .ok () := by
  unfold planPolled
  cases g.budget.permit size <;> simp

theorem ended_of_pass (h : g.pollPlan .flush = .pass) : g.budget.ended = false := by
  simp only [pollPlan] at h
  split at h
  · cases h
  · next hopen => exact Bool.eq_false_iff.2 hopen

theorem pollPlan_close_ne_pass (g : Gate) : g.pollPlan .close ≠ .pass := by
  intro h
  simp only [pollPlan, planClose] at h
  repeat' split at h
  all_goals cases h

/-- A write is passed on if the gate permits as many bytes as it counts. -/
theorem permit_of_pass {call : PollCall} (hcall : call ≠ .flush) (h : g.pollPlan call = .pass) :
    (∃ bytes, call = .write bytes ∧ bytes ≠ [] ∧ g.budget.permit bytes.length = .ok ()) ∨
      ∃ runs, call = .writeMany runs ∧ g.budget.permit (Gated.totalLength runs).toNat = .ok () := by
  cases call with
  | write bytes =>
    simp only [pollPlan] at h
    split at h
    · cases h
    · next hlive => exact Or.inl ⟨bytes, rfl, by simpa using hlive, planPolled_eq_pass_iff.1 h⟩
  | writeMany runs =>
    simp only [pollPlan] at h
    split at h
    · cases h
    · exact Or.inr ⟨runs, rfl, planPolled_eq_pass_iff.1 h⟩
  | flush => exact absurd rfl hcall
  | close => exact absurd h g.pollPlan_close_ne_pass

/-- A gate that was asked to end refuses all bytes. -/
theorem closing_of_permit {size : Nat} (h : g.budget.permit size = .ok ()) : g.budget.closing = false := by
  unfold Budget.permit at h
  split at h
  · cases h
  · next hc => exact Bool.eq_false_iff.2 hc

theorem closing_of_pass {call : PollCall} (hcall : call ≠ .flush) (h : g.pollPlan call = .pass) :
    g.budget.closing = false := by
  rcases permit_of_pass hcall h with ⟨bytes, -, -, hp⟩ | ⟨runs, -, hp⟩
  · exact closing_of_permit hp
  · exact closing_of_permit hp

/-- A gate winds up if nothing is owed. -/
theorem pollPlan_close_eq_windUp_iff : g.pollPlan .close = .windUp ↔ g.budget.remaining = 0 := by
  show g.planClose = .windUp ↔ _
  unfold planClose
  cases hc : g.budget.closing with
  | true =>
    rw [Budget.close_of_closing hc]
    dsimp only
    split
    · next hpos => simp [UInt64.pos_iff_ne_zero.1 hpos]
    · next hpos => simpa [UInt64.pos_iff_ne_zero] using hpos
  | false =>
    by_cases hr : g.budget.remaining = 0
    · simp [Budget.close_of_clean hc hr, hr]
    · rw [Budget.close_of_short hc (UInt64.pos_iff_ne_zero.2 hr)]
      simp [hr]

/-- A shutdown with nothing owed is only noted. -/
theorem hearPoll_close_of_nothing (hnothing : g.budget.remaining = 0) :
    g.hearPoll .close = { g with budget := { g.budget with closing := true } } := by
  unfold hearPoll
  cases hc : g.budget.closing with
  | true =>
    rw [Budget.close_of_closing hc, ← hc]
  | false => rw [Budget.close_of_clean hc hnothing]

/-! ### What an exchange does -/

@[simp] theorem learnPoll_pending (g : Gate) (call : PollCall) : g.learnPoll call .pending = g := by
  cases call <;> rfl

@[simp] theorem learnPoll_error (g : Gate) (call : PollCall) (e : IoError) :
    g.learnPoll call (.ready (.error e)) = g := by
  cases call <;> rfl

@[simp] theorem learnPoll_close (g : Gate) (answer : Poll Unit) :
    g.learnPoll .close (answer.map Yield.ofUnit) = g := by
  rcases answer with _ | e | _ <;> rfl

theorem learnPoll_flush_of_ne (g : Gate) {answer : Poll Unit} (h : answer ≠ .ready (.ok ())) :
    g.learnPoll .flush (answer.map Yield.ofUnit) = g := by
  rcases answer with _ | e | ⟨⟩
  · rfl
  · rfl
  · exact absurd rfl h

/-- The gate once a close has gone through the flush. -/
def woundUp (g : Gate) : Gate :=
  if g.budget.ended then g.hearPoll .close else ((g.hearPoll .close).settle true).2

theorem remaining_woundUp (g : Gate) : g.woundUp.budget.remaining = g.budget.remaining := by
  unfold woundUp
  split
  · exact g.budget.remaining_close
  · exact ((g.hearPoll .close).budget.remaining_settle true).trans g.budget.remaining_close

theorem closing_woundUp (g : Gate) : g.woundUp.budget.closing = true := by
  unfold woundUp
  split
  · exact g.budget.closing_close
  · exact ((g.hearPoll .close).budget.closing_settle true).trans g.budget.closing_close

theorem passesClose_woundUp (g : Gate) : g.woundUp.passesClose = g.passesClose := by
  unfold woundUp
  split <;> rfl

/-- The cycle is over then, since a shutdown was requested. -/
theorem ended_woundUp (g : Gate) : g.woundUp.budget.ended = true := by
  unfold woundUp
  split
  · next hended => exact (g.budget.ended_close).trans (by rw [hended, Bool.true_or])
  · refine ((g.hearPoll .close).budget.ended_settle true).trans ?_
    have hclosing : (g.hearPoll .close).budget.closing = true := g.budget.closing_close
    rw [hclosing]
    simp

theorem reactPoll_stalled (g : Gate) {answer : Poll Unit} (h : answer ≠ .ready (.ok ())) (result : Poll Yield) :
    g.reactPoll ⟨.close, [⟨.flush, answer.map Yield.ofUnit⟩], result⟩ = g.hearPoll .close :=
  learnPoll_flush_of_ne _ h

theorem reactPoll_kept (g : Gate) (result : Poll Yield) : g.reactPoll ⟨.close, g.flushing, result⟩ = g.woundUp := by
  unfold woundUp flushing
  split <;> rfl

theorem reactPoll_closed (g : Gate) (answer : Poll Unit) (result : Poll Yield) :
    g.reactPoll ⟨.close, g.flushing ++ [⟨.close, answer.map Yield.ofUnit⟩], result⟩ = g.woundUp := by
  rw [← g.reactPoll_kept result, reactPoll, List.foldl_append]
  exact learnPoll_close _ answer

end Gate

/-! ### What a gate does exchange -/

namespace Gated

variable {ω : Type} {D : PolledDevice ω}

/-- A close of a gate that owes nothing: a flush and a close below come of it. -/
theorem perform_close_of_nothing {g : Gated ω} (hnothing : g.gate.budget.remaining = 0) :
    (D.gated.perform g .close).result =
        (pollFlushAndClose D ⟨g.gate.hearPoll .close, g.below⟩).result.map Yield.ofUnit ∧
      (D.gated.perform g .close).state = (pollFlushAndClose D ⟨g.gate.hearPoll .close, g.below⟩).state := by
  have hplan : g.gate.pollPlan .close = .windUp := Gate.pollPlan_close_eq_windUp_iff.2 hnothing
  have heq := D.perform_gated g .close
  rw [hplan] at heq
  exact ⟨congrArg Prod.fst heq, congrArg Prod.snd heq⟩

/-- The cycle is open, and the flush fails or cannot be done yet. -/
theorem perform_close_of_stalled {g : Gated ω} (hnothing : g.gate.budget.remaining = 0)
    (hopen : g.gate.budget.ended = false) (hflush : (D.pollFlush g.below).result ≠ .ready (.ok ())) :
    (D.gated.perform g .close).result = (D.perform g.below .flush).result ∧
      (D.gated.perform g .close).state = ⟨g.gate.hearPoll .close, (D.perform g.below .flush).state⟩ := by
  obtain ⟨hresult, hstate⟩ := perform_close_of_nothing (D := D) hnothing
  have hheard : (g.gate.hearPoll .close).isEnded = false := by
    rw [g.gate.hearPoll_close_of_nothing hnothing]
    exact hopen
  rw [hresult, hstate]
  simp only [pollFlushAndClose, pollFlush, hheard, Bool.false_eq_true, if_false, PolledDevice.perform]
  rcases hr : (D.pollFlush g.below).result with _ | e | ⟨⟩
  · simp [hr]
  · simp [hr]
  · exact absurd hr hflush

/-- The close comes after the flush, which is passed over if the cycle is over. -/
theorem perform_close_of_flushed {g : Gated ω} (hnothing : g.gate.budget.remaining = 0)
    (hflushed : g.isFlushedBelow D = true) :
    let flushed := if g.gate.budget.ended then g.below else (D.perform g.below .flush).state
    (D.gated.perform g .close).result =
        (if g.gate.passesClose then (D.perform flushed .close).result else .ready (.ok .unit)) ∧
      (D.gated.perform g .close).state =
        ⟨g.gate.woundUp, if g.gate.passesClose then (D.perform flushed .close).state else flushed⟩ := by
  obtain ⟨hresult, hstate⟩ := perform_close_of_nothing (D := D) hnothing
  have hsame : (g.gate.hearPoll .close).passesClose = g.gate.passesClose := rfl
  have hheard : (g.gate.hearPoll .close).isEnded = g.gate.budget.ended := by
    rw [g.gate.hearPoll_close_of_nothing hnothing]
    rfl
  rw [hresult, hstate]
  cases hended : g.gate.budget.ended with
  | true =>
    simp only [pollFlushAndClose, pollFlush, hheard, hended, if_true, answer, hsame, Gate.woundUp]
    split <;> exact ⟨rfl, rfl⟩
  | false =>
    have hflush : (D.pollFlush g.below).result = .ready (.ok ()) := by
      simp only [isFlushedBelow, Gate.isEnded, hended, Bool.false_or] at hflushed
      exact Poll.isDone_iff.1 hflushed
    simp only [pollFlushAndClose, pollFlush, hheard, hended, Bool.false_eq_true, if_false, hflush, hsame,
      Gate.settle, Gate.woundUp]
    split <;> exact ⟨rfl, rfl⟩

/-- A gate passes on what it hears, or a flush and a close when it is closed. -/
theorem mem_passedOn {g : Gated ω} {call down : PollCall}
    (h : down ∈ g.passedOn D call) : down = call ∨ call = .close ∧ down = .flush := by
  cases hplan : g.gate.pollPlan call with
  | answer result =>
    simp only [passedOn, hplan] at h
    cases h
  | pass =>
    simp only [passedOn, hplan] at h
    exact Or.inl (List.mem_singleton.1 h)
  | windUp =>
    obtain rfl : call = .close := Decidable.not_not.1 fun hcall => g.gate.pollPlan_ne_windUp hcall hplan
    simp only [passedOn, hplan, List.mem_append] at h
    rcases h with hflush | hclose
    · split at hflush
      · cases hflush
      · exact Or.inr ⟨rfl, List.mem_singleton.1 hflush⟩
    · split at hclose
      · exact Or.inl (List.mem_singleton.1 hclose)
      · cases hclose

/-- What is passed on by a gate that owes nothing and has nothing left to be flushed. -/
theorem passedOn_close {g : Gated ω} (hnothing : g.gate.budget.remaining = 0) (hflushed : g.isFlushedBelow D = true) :
    g.passedOn D .close =
      (if g.gate.budget.ended then [] else [.flush]) ++ if g.gate.passesClose then [.close] else [] := by
  simp only [passedOn, Gate.pollPlan_close_eq_windUp_iff.2 hnothing, hflushed, Bool.true_and]
  rfl

/-- A gate that winds up has only exchanges that it may have, and they tell how it changes. -/
theorem hears_windUp {g : Gated ω} (hnothing : g.gate.budget.remaining = 0) :
    g.gate.HearsPoll (g.exchange D .close) ∧
      (D.gated.perform g .close).state =
        ⟨g.gate.reactPoll (g.exchange D .close), D.afterPolls g.below (g.passedOn D .close)⟩ := by
  have hplan : g.gate.pollPlan .close = .windUp := Gate.pollPlan_close_eq_windUp_iff.2 hnothing
  cases hflushed : g.isFlushedBelow D with
  | true =>
    obtain ⟨hresult, hstate⟩ := perform_close_of_flushed hnothing hflushed
    -- what is passed on is the flush, if there is one, and then the close
    have hheard : D.heardPolls g.below (if g.gate.budget.ended then [] else [.flush]) = g.gate.flushing := by
      unfold Gate.flushing
      cases hended : g.gate.budget.ended with
      | true => rfl
      | false =>
        have hflush : (D.perform g.below .flush).result = .ready (.ok .unit) := by
          simp only [isFlushedBelow, Gate.isEnded, hended, Bool.false_or, Poll.isDone_iff] at hflushed
          exact PolledDevice.perform_flush_iff.2 hflushed
        show [(⟨.flush, (D.perform g.below .flush).result⟩ : PollHeard)] = _
        rw [hflush]
        rfl
    have hafter : D.afterPolls g.below (if g.gate.budget.ended then [] else [.flush]) =
        if g.gate.budget.ended then g.below else (D.perform g.below .flush).state := by
      split <;> rfl
    rw [exchange, passedOn_close hnothing hflushed, hresult, hstate, PolledDevice.heardPolls,
      PolledDevice.along_append, PolledDevice.afterPolls_append, hafter, ← PolledDevice.heardPolls, hheard]
    cases hpasses : g.gate.passesClose with
    | true =>
      refine ⟨.closed hnothing hpasses (D.pollClose _).result, ?_⟩
      exact congrArg (Gated.mk · _) (g.gate.reactPoll_closed (D.pollClose _).result _).symm
    | false =>
      rw [if_neg Bool.false_ne_true, if_neg Bool.false_ne_true, PolledDevice.along, List.append_nil]
      exact ⟨.kept hnothing hpasses, congrArg (Gated.mk · _) (g.gate.reactPoll_kept _).symm⟩
  | false =>
    obtain ⟨hopen, hdone⟩ := Bool.or_eq_false_iff.1 hflushed
    have hne : (D.pollFlush g.below).result ≠ .ready (.ok ()) := by
      intro hflush
      rw [hflush] at hdone
      cases hdone
    obtain ⟨hresult, hstate⟩ := perform_close_of_stalled hnothing hopen hne
    have hpassed : g.passedOn D .close = [.flush] := by
      simp only [passedOn, hplan, hflushed, hopen]
      rfl
    have hreact := g.gate.reactPoll_stalled hne (D.perform g.below .flush).result
    rw [exchange, hpassed, hresult, hstate]
    exact ⟨.stalled hnothing hopen hne, congrArg (Gated.mk · _) hreact.symm⟩

/-- **What a gate exchanges.** A gate over any polled device has only exchanges that it may have, and they tell how it
changes. -/
theorem hears_exchange (g : Gated ω) (call : PollCall) :
    g.gate.HearsPoll (g.exchange D call) ∧
      (D.gated.perform g call).state =
        ⟨g.gate.reactPoll (g.exchange D call), D.afterPolls g.below (g.passedOn D call)⟩ := by
  cases hplan : g.gate.pollPlan call with
  | answer result =>
    obtain ⟨hresult, hstate⟩ := D.perform_gated_answer hplan
    have hpassed : g.passedOn D call = [] := by simp only [passedOn, hplan]
    rw [exchange, hpassed, hresult, hstate]
    exact ⟨.answer hplan, rfl⟩
  | pass =>
    obtain ⟨hresult, hstate⟩ := D.perform_gated_pass hplan
    have hpassed : g.passedOn D call = [call] := by simp only [passedOn, hplan]
    rw [exchange, hpassed, hresult, hstate]
    cases call with
    | write bytes =>
      have hcall : PollCall.write bytes ≠ .flush := nofun
      exact ⟨.write hcall hplan (D.pollWrite g.below bytes).result, rfl⟩
    | writeMany runs =>
      have hcall : PollCall.writeMany runs ≠ .flush := nofun
      exact ⟨.write hcall hplan (D.pollWriteMany g.below runs).result, rfl⟩
    | flush => exact ⟨.flush (Gate.ended_of_pass hplan) (D.pollFlush g.below).result, rfl⟩
    | close => exact absurd hplan g.gate.pollPlan_close_ne_pass
  | windUp =>
    obtain rfl : call = .close := Decidable.not_not.1 fun hcall => g.gate.pollPlan_ne_windUp hcall hplan
    exact hears_windUp (Gate.pollPlan_close_eq_windUp_iff.1 hplan)

end Gated

end ExactLength
