import ExactLength.Proofs.Polled.History

/-!
# Asking until it is done

Who drives a polled device makes the same poll again for as long as the answer is pending, and then goes on to the next
operation. `Driven` is one operation driven in this way, and `Stack.Drives` a whole list of moves.

A device that is pending now and then is compared with a prompt one, which never is. If the device, once driven to the
end, answers every operation as the prompt one does at once, then so does a gate over it
(`PolledDevice.Patient.gated`), and hence any stack of gates: `Stack.drives_of_patient` states that to drive a list of
moves on the one is to make each of them once on the other. The one operation of a gate that may be pending at two
places is a close. A close that was pending in its flush starts over, and does so with the gate as it stands. A close
whose flush is done goes on as a close of a gate whose cycle is over (`Gated.perform_close_of_ready`), so that it never
matters in which poll the flush was done.
-/

namespace ExactLength

/-! ### One operation -/

section Step

variable {σ τ ρ ρ' : Type} {waiting : ρ} {step : σ → Outcome σ ρ} {waiting' : ρ'} {step' : τ → Outcome τ ρ'}

/-- A step is taken again and again for as long as the answer is to wait. It has a result and a state in the end. -/
inductive Driven (waiting : ρ) (step : σ → Outcome σ ρ) : σ → ρ → σ → Prop where
  /-- The answer is there. -/
  | done {s : σ} (h : (step s).result ≠ waiting) : Driven waiting step s (step s).result (step s).state
  /-- The answer is to wait, and the step is taken again. -/
  | again {s t : σ} {r : ρ} (h : (step s).result = waiting) (later : Driven waiting step (step s).state r t) :
    Driven waiting step s r t

namespace Driven

variable {s t : σ} {r : ρ}

/-- The end is determined. -/
theorem unique {r' : ρ} {t' : σ} (h : Driven waiting step s r t) (h' : Driven waiting step s r' t') :
    r = r' ∧ t = t' := by
  induction h with
  | done hready =>
    cases h' with
    | done => exact ⟨rfl, rfl⟩
    | again hwait => exact absurd hwait hready
  | again hwait _ ih =>
    cases h' with
    | done hready => exact absurd hwait hready
    | again _ later => exact ih later

/-- Only the first step depends on where one starts. -/
theorem congr {s' : σ} (hresult : (step s).result = (step s').result) (hstate : (step s).state = (step s').state)
    (h : Driven waiting step s' r t) : Driven waiting step s r t := by
  cases h with
  | done hready =>
    rw [← hresult, ← hstate]
    exact .done (hresult ▸ hready)
  | again hwait later =>
    rw [← hstate] at later
    exact .again (hresult.trans hwait) later

/-- Where one step waits whenever another does, all the waiting can be passed over. -/
theorem skip (waiting' : ρ') (step' : τ → Outcome τ ρ') (f : σ → τ) (hwait : ∀ s, (step s).result = waiting →
      (step' (f s)).result = waiting' ∧ (step' (f s)).state = f (step s).state)
    (h : Driven waiting step s r t) :
    ∃ last, (step last).result = r ∧ (step last).state = t ∧
      ∀ r' t', Driven waiting' step' (f last) r' t' → Driven waiting' step' (f s) r' t' := by
  induction h with
  | @done s _ => exact ⟨s, rfl, rfl, fun _ _ hlast => hlast⟩
  | @again s t r h _ ih =>
    obtain ⟨last, hresult, hstate, hskip⟩ := ih
    obtain ⟨hwaits, hmoved⟩ := hwait s h
    exact ⟨last, hresult, hstate, fun r' t' hlast => .again hwaits (hmoved ▸ hskip r' t' hlast)⟩

end Driven

/-- One state, driven to the end, answers as another does at once, and they are related again. -/
def CatchesUp (waiting : ρ) (step : σ → Outcome σ ρ) (R : σ → σ → Prop) (slow prompt : σ) : Prop :=
  (step prompt).result ≠ waiting ∧
    ∃ slow', Driven waiting step slow (step prompt).result slow' ∧ R slow' (step prompt).state

namespace CatchesUp

variable {R : σ → σ → Prop} {R' : τ → τ → Prop} {slow prompt : σ}

/-- Without anything to wait for there is nothing to catch up with. -/
theorem at_once (hready : (step prompt).result ≠ waiting) (hsame : (step slow).result = (step prompt).result)
    (hR : R (step slow).state (step prompt).state) : CatchesUp waiting step R slow prompt :=
  ⟨hready, (step slow).state, hsame ▸ .done (hsame ▸ hready), hR⟩

/-- A step that waits can be taken first. -/
theorem wait (hwait : (step slow).result = waiting) (h : CatchesUp waiting step R (step slow).state prompt) :
    CatchesUp waiting step R slow prompt := by
  obtain ⟨hready, slow', hdriven, hR⟩ := h
  exact ⟨hready, slow', .again hwait hdriven, hR⟩

/-- Only the first step depends on where one starts, on both sides. -/
theorem congr {slow' prompt' : σ} (hresult : (step slow).result = (step slow').result)
    (hstate : (step slow).state = (step slow').state) (hresult' : (step prompt).result = (step prompt').result)
    (hstate' : (step prompt).state = (step prompt').state) (h : CatchesUp waiting step R slow' prompt') :
    CatchesUp waiting step R slow prompt := by
  obtain ⟨hready, slow'', hdriven, hR⟩ := h
  unfold CatchesUp
  rw [hresult', hstate']
  exact ⟨hready, slow'', hdriven.congr hresult hstate, hR⟩

/-- A step that is another step seen from outside: it waits as that one does, and what comes of an answer depends on
the answer and the state below only. -/
theorem lift (f : σ → τ) (answer : ρ → ρ') (after : ρ → σ → τ)
    (hwait : ∀ s, (step s).result = waiting →
      (step' (f s)).result = waiting' ∧ (step' (f s)).state = f (step s).state)
    (hready : ∀ s, (step s).result ≠ waiting → (step' (f s)).result = answer (step s).result ∧
      answer (step s).result ≠ waiting' ∧ (step' (f s)).state = after (step s).result (step s).state)
    (hR : ∀ r {a b}, R a b → R' (after r a) (after r b)) (h : CatchesUp waiting step R slow prompt) :
    CatchesUp waiting' step' R' (f slow) (f prompt) := by
  obtain ⟨hprompt, slow', hdriven, hrelated⟩ := h
  obtain ⟨last, hresult, hstate, hskip⟩ := hdriven.skip waiting' step' f hwait
  obtain ⟨hanswer, hne, hafter⟩ := hready prompt hprompt
  obtain ⟨hanswer', -, hafter'⟩ := hready last (hresult ▸ hprompt)
  rw [hresult] at hanswer' hafter'
  unfold CatchesUp
  rw [hanswer, hafter]
  refine ⟨hne, (step' (f last)).state, ?_, ?_⟩
  · refine hskip _ _ ?_
    rw [← hanswer']
    exact .done (hanswer' ▸ hne)
  · rw [hafter', hstate]
    exact hR _ hrelated

end CatchesUp

end Step

/-! ### One gate -/

/-- A device that is pending now and then answers as a prompt one, if it is driven. -/
def PolledDevice.Patient {ω : Type} (D : PolledDevice ω) (R : ω → ω → Prop) : Prop :=
  ∀ call slow prompt, R slow prompt → CatchesUp .pending (D.perform · call) R slow prompt

namespace Gate

variable {g : Gate}

/-- A gate that was asked to end, and owes nothing, hears nothing new in a close. -/
theorem hearPoll_close_of_closing (hnothing : g.budget.remaining = 0) (hclosing : g.budget.closing = true) :
    g.hearPoll .close = g := by
  rw [hearPoll_close_of_nothing hnothing, ← hclosing]

theorem remaining_hearPoll_close (g : Gate) : (g.hearPoll .close).budget.remaining = g.budget.remaining :=
  g.budget.remaining_close

theorem closing_hearPoll_close (g : Gate) : (g.hearPoll .close).budget.closing = true :=
  g.budget.closing_close

theorem woundUp_of_ended (hnothing : g.budget.remaining = 0) (hclosing : g.budget.closing = true)
    (hended : g.budget.ended = true) : g.woundUp = g := by
  rw [woundUp, hended, hearPoll_close_of_closing hnothing hclosing]
  rfl

end Gate

namespace Gated

variable {ω : Type} {D : PolledDevice ω}

/-- Two gates that stand alike, over what is related. -/
structure Over (R : ω → ω → Prop) (a b : Gated ω) : Prop where
  /-- The gates are the same. -/
  gate : a.gate = b.gate
  /-- What lies below is related. -/
  below : R a.below b.below

variable {gate : Gate}

/-- To close a gate that has heard of it already is the same. -/
theorem perform_close_of_heard (hnothing : gate.budget.remaining = 0) (below : ω) :
    (D.gated.perform ⟨gate, below⟩ .close).result = (D.gated.perform ⟨gate.hearPoll .close, below⟩ .close).result ∧
      (D.gated.perform ⟨gate, below⟩ .close).state = (D.gated.perform ⟨gate.hearPoll .close, below⟩ .close).state := by
  have hnothing' := gate.remaining_hearPoll_close.trans hnothing
  obtain ⟨hresult, hstate⟩ := perform_close_of_nothing (D := D) (g := ⟨gate, below⟩) hnothing
  obtain ⟨hresult', hstate'⟩ := perform_close_of_nothing (D := D) (g := ⟨gate.hearPoll .close, below⟩) hnothing'
  rw [Gate.hearPoll_close_of_closing hnothing' gate.closing_hearPoll_close] at hresult' hstate'
  exact ⟨hresult.trans hresult'.symm, hstate.trans hstate'.symm⟩

/-- To close a gate whose cycle is over is to close below, if the gate passes that on. -/
theorem perform_close_of_ended (hnothing : gate.budget.remaining = 0) (hclosing : gate.budget.closing = true)
    (hended : gate.budget.ended = true) (below : ω) :
    (D.gated.perform ⟨gate, below⟩ .close).result =
        (if gate.passesClose then (D.perform below .close).result else .ready (.ok .unit)) ∧
      (D.gated.perform ⟨gate, below⟩ .close).state =
        ⟨gate, if gate.passesClose then (D.perform below .close).state else below⟩ := by
  have hflushed : isFlushedBelow D ⟨gate, below⟩ = true := by simp [isFlushedBelow, Gate.isEnded, hended]
  have h := perform_close_of_flushed hnothing hflushed
  simp only [hended, if_true, Gate.woundUp_of_ended hnothing hclosing hended] at h
  exact h

/-- A close whose flush is done goes on as a close of a gate whose cycle is over. -/
theorem perform_close_of_ready (hnothing : gate.budget.remaining = 0) (hopen : gate.budget.ended = false) {below : ω}
    (hflush : (D.perform below .flush).result = .ready (.ok .unit)) :
    let flushed := (D.perform below .flush).state
    (D.gated.perform ⟨gate, below⟩ .close).result = (D.gated.perform ⟨gate.woundUp, flushed⟩ .close).result ∧
      (D.gated.perform ⟨gate, below⟩ .close).state = (D.gated.perform ⟨gate.woundUp, flushed⟩ .close).state := by
  have hflushed : isFlushedBelow D ⟨gate, below⟩ = true := by
    simp [isFlushedBelow, PolledDevice.perform_flush_iff.1 hflush, Poll.isDone]
  obtain ⟨hresult, hstate⟩ := perform_close_of_flushed hnothing hflushed
  obtain ⟨hresult', hstate'⟩ := perform_close_of_ended (D := D) (gate.remaining_woundUp.trans hnothing)
    gate.closing_woundUp gate.ended_woundUp (D.perform below .flush).state
  simp only [hopen, Bool.false_eq_true, if_false] at hresult hstate
  rw [gate.passesClose_woundUp] at hresult' hstate'
  exact ⟨hresult.trans hresult'.symm, hstate.trans hstate'.symm⟩

/-- A close whose flush fails or is pending stops there. -/
theorem perform_close_of_not_ready (hnothing : gate.budget.remaining = 0) (hclosing : gate.budget.closing = true)
    (hopen : gate.budget.ended = false) {below : ω} (hflush : (D.perform below .flush).result ≠ .ready (.ok .unit)) :
    (D.gated.perform ⟨gate, below⟩ .close).result = (D.perform below .flush).result ∧
      (D.gated.perform ⟨gate, below⟩ .close).state = ⟨gate, (D.perform below .flush).state⟩ := by
  have h := perform_close_of_stalled (D := D) (g := ⟨gate, below⟩) hnothing hopen fun hdone =>
    hflush (PolledDevice.perform_flush_iff.2 hdone)
  rw [Gate.hearPoll_close_of_closing hnothing hclosing] at h
  exact h

end Gated

namespace PolledDevice.Patient

open Gated

variable {ω : Type} {D : PolledDevice ω} {R : ω → ω → Prop} (h : D.Patient R) {gate : Gate} {slow prompt : ω}
include h

/-- A gate that passes an operation on waits as long as what lies below does. -/
theorem pass {call : PollCall} (hplan : gate.pollPlan call = .pass) (hR : R slow prompt) :
    CatchesUp .pending (D.gated.perform · call) (Over R) ⟨gate, slow⟩ ⟨gate, prompt⟩ := by
  have hpass (below : ω) := D.perform_gated_pass (g := ⟨gate, below⟩) hplan
  refine (h call slow prompt hR).lift (Gated.mk gate) id
    (fun answer below => ⟨gate.learnPoll call answer, below⟩) ?_ ?_ fun _ _ _ hR => ⟨rfl, hR⟩
  · intro below hwait
    obtain ⟨hresult, hstate⟩ := hpass below
    rw [hwait, Gate.learnPoll_pending] at hstate
    exact ⟨hresult.trans hwait, hstate⟩
  · intro below hready
    exact ⟨(hpass below).1, hready, (hpass below).2⟩

/-- A close of a gate whose cycle is over waits for the close below. -/
theorem close_of_ended (hnothing : gate.budget.remaining = 0) (hclosing : gate.budget.closing = true)
    (hended : gate.budget.ended = true) (hR : R slow prompt) :
    CatchesUp .pending (D.gated.perform · .close) (Over R) ⟨gate, slow⟩ ⟨gate, prompt⟩ := by
  have hclose (below : ω) := perform_close_of_ended (D := D) hnothing hclosing hended below
  cases hpasses : gate.passesClose with
  | true =>
    simp only [hpasses, if_true] at hclose
    refine (h .close slow prompt hR).lift (Gated.mk gate) id (fun _ => Gated.mk gate) ?_ ?_
      fun _ _ _ hR => ⟨rfl, hR⟩
    · intro below hwait
      exact ⟨(hclose below).1.trans hwait, (hclose below).2⟩
    · intro below hready
      exact ⟨(hclose below).1, hready, (hclose below).2⟩
  | false =>
    simp only [hpasses, Bool.false_eq_true, if_false] at hclose
    obtain ⟨hresult, hstate⟩ := hclose prompt
    obtain ⟨hresult', hstate'⟩ := hclose slow
    refine .at_once (hresult ▸ nofun) (hresult'.trans hresult.symm) ?_
    rw [hstate, hstate']
    exact ⟨rfl, hR⟩

/-- A close of a gate whose cycle is open waits for the flush first. -/
theorem close_of_open (hnothing : gate.budget.remaining = 0) (hclosing : gate.budget.closing = true)
    (hopen : gate.budget.ended = false) (hR : R slow prompt) :
    CatchesUp .pending (D.gated.perform · .close) (Over R) ⟨gate, slow⟩ ⟨gate, prompt⟩ := by
  obtain ⟨hprompt, slow', hdriven, hR'⟩ := h .flush slow prompt hR
  obtain ⟨last, hresult, hstate, hskip⟩ :=
    hdriven.skip .pending (D.gated.perform · .close) (Gated.mk gate) fun below hwait => by
      have hflush : (D.perform below .flush).result ≠ .ready (.ok .unit) := hwait ▸ nofun
      obtain ⟨hresult, hstate⟩ := perform_close_of_not_ready hnothing hclosing hopen hflush
      exact ⟨hresult.trans hwait, hstate⟩
  by_cases hflush : (D.perform prompt .flush).result = .ready (.ok .unit)
  · -- from the poll in which the flush is done, the gate closes as one whose cycle is over
    obtain ⟨hready, slow'', hclosed, hR''⟩ :=
      h.close_of_ended (gate.remaining_woundUp.trans hnothing) gate.closing_woundUp gate.ended_woundUp hR'
    obtain ⟨hprompt, hprompt'⟩ := perform_close_of_ready hnothing hopen hflush
    obtain ⟨hlast, hlast'⟩ := perform_close_of_ready hnothing hopen (hresult.trans hflush)
    rw [hstate] at hlast hlast'
    unfold CatchesUp
    rw [hprompt, hprompt']
    exact ⟨hready, slow'', hskip _ _ (hclosed.congr hlast hlast'), hR''⟩
  · obtain ⟨hstop, hstop'⟩ := perform_close_of_not_ready hnothing hclosing hopen hflush
    obtain ⟨hlast, hlast'⟩ := perform_close_of_not_ready hnothing hclosing hopen (hresult ▸ hflush)
    unfold CatchesUp
    rw [hstop, hstop']
    refine ⟨hprompt, ⟨gate, slow'⟩, hskip _ _ ?_, ⟨rfl, hR'⟩⟩
    rw [← hstate, ← hlast', ← hresult, ← hlast]
    exact .done ((hlast.trans hresult) ▸ hprompt)

/-- **A gate is as patient as what lies below it.** -/
theorem gated : D.gated.Patient (Over R) := by
  rintro call ⟨gate, slow⟩ ⟨-, prompt⟩ ⟨rfl, hR⟩
  cases hplan : gate.pollPlan call with
  | answer result =>
    obtain ⟨hresult, hstate⟩ := D.perform_gated_answer (g := ⟨gate, prompt⟩) hplan
    obtain ⟨hresult', hstate'⟩ := D.perform_gated_answer (g := ⟨gate, slow⟩) hplan
    refine .at_once (hresult ▸ nofun) (hresult'.trans hresult.symm) ?_
    rw [hstate, hstate']
    exact ⟨rfl, hR⟩
  | pass => exact h.pass hplan hR
  | windUp =>
    obtain rfl : call = .close := Decidable.not_not.1 fun hcall => gate.pollPlan_ne_windUp hcall hplan
    have hnothing := Gate.pollPlan_close_eq_windUp_iff.1 hplan
    have hnothing' := gate.remaining_hearPoll_close.trans hnothing
    have hclosing := gate.closing_hearPoll_close
    obtain ⟨hslow, hslow'⟩ := perform_close_of_heard (D := D) hnothing slow
    obtain ⟨hprompt, hprompt'⟩ := perform_close_of_heard (D := D) hnothing prompt
    refine CatchesUp.congr hslow hslow' hprompt hprompt' ?_
    cases hended : (gate.hearPoll .close).budget.ended with
    | true => exact h.close_of_ended hnothing' hclosing hended hR
    | false => exact h.close_of_open hnothing' hclosing hended hR

end PolledDevice.Patient

/-! ### A stack -/

namespace Stack

variable {ω : Type} {D : PolledDevice ω} {R : ω → ω → Prop} {n : Nat}

/-- Two stacks whose gates stand alike, over related bases. -/
def Over (R : ω → ω → Prop) (s t : Stack ω n) : Prop :=
  s.gates = t.gates ∧ R s.base t.base

theorem over_push_iff {gate gate' : Gate} {below below' : Stack ω n} :
    (push gate below).Over R (push gate' below') ↔ gate = gate' ∧ below.Over R below' := by
  simp only [Over, gates_push, base_push, List.cons.injEq, and_assoc]

/-- A stack is as patient as its base. -/
theorem patient_stacked (h : D.Patient R) (n : Nat) : (D.stacked n).Patient (Stack.Over R) := by
  induction n with
  | zero =>
    rintro call slow prompt ⟨-, hR⟩
    obtain ⟨hready, slow', hdriven, hR'⟩ := h call slow prompt hR
    exact ⟨hready, slow', hdriven, rfl, hR'⟩
  | succ n ih =>
    intro call slow prompt hover
    obtain ⟨gate, below, rfl⟩ := slow.exists_push
    obtain ⟨gate', below', rfl⟩ := prompt.exists_push
    obtain ⟨hgate, hbelow⟩ := over_push_iff.1 hover
    obtain ⟨hready, slow', hdriven, hR⟩ := ih.gated call (push gate below) (push gate' below') ⟨hgate, hbelow⟩
    exact ⟨hready, slow', hdriven, over_push_iff.2 ⟨hR.gate, hR.below⟩⟩

/-- So it is if the operation enters at a level below the top. -/
theorem catchesUp_pollAt (h : D.Patient R) (entry : Nat) (call : PollCall) {slow prompt : Stack ω n}
    (hover : slow.Over R prompt) : CatchesUp .pending (pollAt D · entry call) (Over R) slow prompt := by
  induction n generalizing entry with
  | zero =>
    cases entry with
    | zero => exact patient_stacked h 0 call slow prompt hover
    | succ entry => exact patient_stacked h 0 call slow prompt hover
  | succ n ih =>
    cases entry with
    | zero => exact patient_stacked h (n + 1) call slow prompt hover
    | succ entry =>
      obtain ⟨gate, below, rfl⟩ := slow.exists_push
      obtain ⟨gate', below', rfl⟩ := prompt.exists_push
      obtain ⟨rfl, hbelow⟩ := over_push_iff.1 hover
      refine (ih entry hbelow).lift (push gate) id (fun _ => push gate) ?_ ?_
        fun _ _ _ hR => over_push_iff.2 ⟨rfl, hR⟩
      · exact fun below hwait => ⟨hwait, rfl⟩
      · exact fun below hready => ⟨rfl, hready, rfl⟩

/-- A new cycle is as good on the one as on the other. -/
theorem over_renew {s t : Stack ω n} (hover : s.Over R t) (level : Nat) (length : UInt64)
    (passesClose : Bool) :
    (s.pollMove D (.renew level length passesClose)).result = (t.pollMove D (.renew level length passesClose)).result ∧
      (s.pollMove D (.renew level length passesClose)).state.Over R
        (t.pollMove D (.renew level length passesClose)).state := by
  obtain ⟨hgates, hR⟩ := hover
  simp only [pollMove, renew, hgates]
  cases t.gates[level]? with
  | none => exact ⟨rfl, hgates, hR⟩
  | some gate =>
    dsimp only
    cases gate.renew length passesClose with
    | error e => exact ⟨rfl, hgates, hR⟩
    | ok gate' =>
      refine ⟨rfl, ?_, ?_⟩
      · exact (gates_setGate s level gate').trans (hgates ▸ (gates_setGate t level gate').symm)
      · show R (s.setGate level gate').base (t.setGate level gate').base
        rw [base_setGate, base_setGate]
        exact hR

/-- Nobody is made to wait for a new cycle. -/
theorem pollMove_renew_ne_pending (s : Stack ω n) (level : Nat) (length : UInt64) (passesClose : Bool) :
    (s.pollMove D (.renew level length passesClose)).result ≠ .polled .pending := by
  intro h
  simp only [pollMove] at h
  split at h <;> cases h

/-- A move that is driven. A new cycle is not waited for. -/
theorem catchesUp_pollMove (h : D.Patient R) (m : PollMove) {slow prompt : Stack ω n}
    (hover : slow.Over R prompt) : CatchesUp (.polled .pending) (pollMove D · m) (Over R) slow prompt := by
  cases m with
  | poll entry call =>
    refine (catchesUp_pollAt h entry call hover).lift id .polled (fun _ => id) ?_ ?_ fun _ _ _ hR => hR
    · exact fun s hwait => ⟨congrArg PollResult.polled hwait, rfl⟩
    · exact fun s hready => ⟨rfl, fun heq => hready (PollResult.polled.inj heq), rfl⟩
  | renew level length passesClose =>
    obtain ⟨hsame, hover'⟩ := over_renew (D := D) hover level length passesClose
    exact .at_once (pollMove_renew_ne_pending prompt level length passesClose) hsame hover'

/-! ### A list of moves -/

/-- Each of some moves is driven to the end before the next one. They have a list of results and a state in the end. -/
inductive Drives (D : PolledDevice ω) : Stack ω n → List PollMove → List PollResult → Stack ω n → Prop where
  /-- Nothing is left to be done. -/
  | done (s : Stack ω n) : Drives D s [] [] s
  /-- The first move is driven to the end, and then the others are. -/
  | step {s s' t : Stack ω n} {m : PollMove} {moves : List PollMove} {r : PollResult} {results : List PollResult}
    (first : Driven (.polled .pending) (pollMove D · m) s r s') (rest : Drives D s' moves results t) :
    Drives D s (m :: moves) (r :: results) t

/-- The end is determined, and so are the results. -/
theorem Drives.unique {s t t' : Stack ω n} {moves : List PollMove} {results results' : List PollResult}
    (h : s.Drives D moves results t) (h' : s.Drives D moves results' t') : results = results' ∧ t = t' := by
  induction h generalizing results' with
  | done => cases h' with | done => exact ⟨rfl, rfl⟩
  | step first _ ih =>
    cases h' with
    | step first' rest' =>
      obtain ⟨rfl, rfl⟩ := first.unique first'
      obtain ⟨rfl, rfl⟩ := ih rest'
      exact ⟨rfl, rfl⟩

/-- To drive a move is to make it a number of times. -/
theorem exists_replicate_of_driven {s t : Stack ω n} {m : PollMove} {r : PollResult}
    (h : Driven (.polled .pending) (pollMove D · m) s r t) : ∃ times, s.pollRun D (List.replicate times m) = t := by
  induction h with
  | done => exact ⟨1, rfl⟩
  | again _ _ ih =>
    obtain ⟨times, htimes⟩ := ih
    exact ⟨times + 1, htimes⟩

/-- Moves with each of them repeated. -/
def repeated (moves : List PollMove) (times : List Nat) : List PollMove :=
  (moves.zip times).flatMap fun (m, times) => List.replicate times m

/-- To drive a number of moves is to make each of them a number of times. -/
theorem Drives.exists_repeated {s t : Stack ω n} {moves : List PollMove} {results : List PollResult}
    (h : s.Drives D moves results t) :
    ∃ times : List Nat, times.length = moves.length ∧ s.pollRun D (repeated moves times) = t := by
  induction h with
  | done => exact ⟨[], rfl, rfl⟩
  | @step s s' t m moves _ _ first _ ih =>
    obtain ⟨now, hfirst⟩ := exists_replicate_of_driven first
    obtain ⟨times, hlength, hrest⟩ := ih
    refine ⟨now :: times, congrArg (· + 1) hlength, ?_⟩
    rw [repeated, List.zip_cons_cons, List.flatMap_cons, pollRun_append, hfirst]
    exact hrest

/-- **To drive moves over a device that is pending now and then** comes to what the moves come to over a prompt one,
each made once. -/
theorem drives_of_patient (h : D.Patient R) (moves : List PollMove) (prompt : Stack ω n) :
    ∃ results, ∀ slow : Stack ω n, slow.Over R prompt →
      ∃ t, slow.Drives D moves results t ∧ t.Over R (prompt.pollRun D moves) := by
  induction moves generalizing prompt with
  | nil => exact ⟨[], fun slow hover => ⟨slow, .done slow, hover⟩⟩
  | cons m rest ih =>
    obtain ⟨results, hrest⟩ := ih (prompt.pollMove D m).state
    refine ⟨(prompt.pollMove D m).result :: results, fun slow hover => ?_⟩
    obtain ⟨-, slow', hfirst, hover'⟩ := catchesUp_pollMove h m hover
    obtain ⟨t, hdrives, hend⟩ := hrest slow' hover'
    exact ⟨t, .step hfirst hdrives, hend⟩

end Stack

end ExactLength
