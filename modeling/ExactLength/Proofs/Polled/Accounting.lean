import ExactLength.Proofs.Gate.Offer
import ExactLength.Proofs.Polled.History
import ExactLength.Proofs.Polled.Honest
import ExactLength.Proofs.Stack.Accounting

/-!
# Accounting over a polled device

A `Book` for each gate of a stack over a polled device: the length of its present cycle, and the growth of the output of
the base in polls that entered at the gate or above it. As over a sink, what a gate still lets through and the size of
the output have a sum that a poll keeps (`Stack.sums_poll`), so books stay balanced in every run.

What is not done yet, and what fails, changes no gate unless it is a close (`Stack.gates_of_failed`), and a close leaves
what remains alone (`Stack.remaining_of_quiet`). A write that some gate has no room for is refused by the first such
gate, and does not reach the base (`Stack.refused`). The main statement is `Stack.poll_accounting`.
-/

namespace ExactLength

/-! ### One gate -/

namespace Gate

variable {g : Gate}

@[simp] theorem remaining_hearPoll (g : Gate) (call : PollCall) :
    (g.hearPoll call).budget.remaining = g.budget.remaining := by
  cases call with
  | close => exact g.budget.remaining_close
  | _ => rfl

theorem remaining_learnPoll (g : Gate) (call : PollCall) (answer : Poll Yield) :
    (g.learnPoll call answer).budget.remaining.toNat = g.budget.remaining.toNat - answer.credit := by
  rcases answer with _ | e | _ | n | _
  · rw [learnPoll_pending]
    rfl
  · rw [learnPoll_error]
    rfl
  · cases call with
    | flush => exact congrArg UInt64.toNat (g.budget.remaining_settle true)
    | _ => rfl
  · cases call <;> exact g.budget.toNat_remaining_spend n
  · cases call <;> rfl

/-- A close leaves what remains alone. -/
theorem HearsPoll.remaining_of_close {x : PollExchange} (hx : g.HearsPoll x) (hcall : x.call = .close) :
    (g.reactPoll x).budget.remaining = g.budget.remaining := by
  refine hx.react_induct (P := fun g' => g'.budget.remaining = g.budget.remaining) ?_ ?_ ?_ rfl
  · exact fun _ _ hne _ _ => absurd hcall hne
  · exact fun g' hg _ => (g'.budget.remaining_settle true).trans hg
  · exact fun g' _ hg => (g'.remaining_hearPoll .close).trans hg

/-- A write that the gate has no room for is refused. -/
theorem pollPlan_write_of_full {bytes : Bytes} (hbytes : bytes ≠ []) (hfull : g.hasRoom bytes.length = false) :
    g.pollPlan (.write bytes) = .answer (.error g.refusal.toIo) := by
  have hlive : ¬ bytes.isEmpty = true := by
    rw [List.isEmpty_iff]
    exact hbytes
  rw [pollPlan, if_neg hlive, planPolled, permit_eq, hfull]
  rfl

/-- A write that the gate has room for is passed on. -/
theorem pollPlan_write_of_room {bytes : Bytes} (hbytes : bytes ≠ []) (hroom : g.hasRoom bytes.length = true) :
    g.pollPlan (.write bytes) = .pass := by
  have hlive : ¬ bytes.isEmpty = true := by
    rw [List.isEmpty_iff]
    exact hbytes
  rw [pollPlan, if_neg hlive, planPolled_eq_pass_iff, permit_eq, if_pos hroom]

/-- A refusal can be had back from the I/O error that it is reported as. -/
theorem ofIo_refusal (g : Gate) : SinkError.ofIo g.refusal.toIo = g.refusal := by
  refine SinkError.ofIo_toIo fun cause hio => ?_
  unfold refusal at hio
  split at hio <;> cases hio

end Gate

section Honest

variable {ω : Type} {D : PolledDevice ω} {out : ω → Bytes}

/-- What goes through a gate is taken from what remains. -/
theorem Gated.sum_poll (h : D.Honest out) (g : Gated ω) {call : PollCall} (hcall : call.Countable) :
    (g.gate.reactPoll (g.exchange D call)).budget.remaining.toNat +
        (out (D.afterPolls g.below (g.passedOn D call))).length =
      g.gate.budget.remaining.toNat + (out g.below).length := by
  obtain ⟨hhears, hstate⟩ := Gated.hears_exchange g call
  have hgate := congrArg Gated.gate hstate
  have hbelow := congrArg Gated.below hstate
  dsimp only at hgate hbelow
  cases hplan : g.gate.pollPlan call with
  | answer result =>
    rw [← hgate, ← hbelow, (D.perform_gated_answer hplan).2]
    dsimp only
    rw [Gate.remaining_hearPoll]
  | pass =>
    obtain ⟨hcredit, hout⟩ := h g.below call
    have hle := Gate.offered_le_of_pass hcall hplan
    rw [← hgate, ← hbelow, (D.perform_gated_pass hplan).2]
    dsimp only
    rw [Gate.remaining_learnPoll, hout, List.length_append, List.length_take_of_le hcredit]
    omega
  | windUp =>
    obtain rfl : call = .close := Decidable.not_not.1 fun hne => g.gate.pollPlan_ne_windUp hne hplan
    rw [hhears.remaining_of_close rfl, h.out_afterPolls g.below (Gated.offered_of_windUp D hplan)]

end Honest

namespace Stack

/-! ### One poll -/

section Poll

variable {ω : Type} {D : PolledDevice ω} {out : ω → Bytes}

theorem sums_afterPolls {n : Nat}
    (hpoll : ∀ (s : Stack ω n) {call : PollCall}, call.Countable →
      sums out ((D.stacked n).perform s call).state = s.sums out)
    (s : Stack ω n) {calls : List PollCall} (hcalls : ∀ call ∈ calls, call.Countable) :
    sums out ((D.stacked n).afterPolls s calls) = s.sums out := by
  induction calls generalizing s with
  | nil => rfl
  | cons call rest ih =>
    exact (ih _ fun c hc => hcalls c (List.mem_cons_of_mem call hc)).trans
      (hpoll s (hcalls call List.mem_cons_self))

/-- What the base gains in a poll is taken from what the gates let through. -/
theorem sums_poll (h : D.Honest out) {n : Nat} (s : Stack ω n) {call : PollCall} (hcall : call.Countable) :
    sums out ((D.stacked n).perform s call).state = s.sums out := by
  induction n generalizing call with
  | zero => rfl
  | succ n ih =>
    obtain ⟨gate, below, rfl⟩ := s.exists_push
    have htop := Gated.sum_poll (honest_poll h n) ⟨gate, below⟩ hcall
    have hstate := (perform_push_poll D gate below call).2
    have hdown : ∀ down ∈ Gated.passedOn (D.stacked n) ⟨gate, below⟩ call, down.Countable := by
      intro down hdown
      rcases Gated.mem_passedOn hdown with rfl | ⟨-, rfl⟩
      · exact hcall
      · trivial
    rw [hstate, sums_push, sums_push, sums_afterPolls ih below hdown]
    exact congrArg (· :: below.sums out) htop

/-- A poll leaves the gates above where it enters as they are, and keeps the sums of the others. -/
theorem sums_pollAt (h : D.Honest out) {n : Nat} (s : Stack ω n) (entry : Nat) {call : PollCall}
    (hcall : call.Countable) (level : Nat) :
    if entry ≤ level then (sums out (s.pollAt D entry call).state)[level]? = (s.sums out)[level]?
    else (s.pollAt D entry call).state.gates[level]? = s.gates[level]? := by
  induction n generalizing entry level with
  | zero => split <;> cases entry <;> rfl
  | succ n ih =>
    cases entry with
    | zero =>
      rw [if_pos (Nat.zero_le level), pollAt_zero, sums_poll h s hcall]
    | succ entry =>
      obtain ⟨gate, below, rfl⟩ := s.exists_push
      cases level with
      | zero => rfl
      | succ level =>
        have hbelow := ih below entry level
        simp only [Nat.add_le_add_iff_right]
        exact hbelow

/-- A poll that is no close, and is not done, leaves all gates as they are. -/
theorem gates_of_failed {n : Nat} (s : Stack ω n) (entry : Nat) {call : PollCall} (hcall : call ≠ .close)
    (hfailed : ∀ value, (s.pollAt D entry call).result ≠ .ready (.ok value)) :
    (s.pollAt D entry call).state.gates = s.gates := by
  induction n generalizing entry with
  | zero => cases entry <;> rfl
  | succ n ih =>
    obtain ⟨gate, below, rfl⟩ := s.exists_push
    cases entry with
    | succ entry => exact congrArg (gate :: ·) (ih below entry hfailed)
    | zero =>
      have hheard : gate.hearPoll call = gate := by cases call <;> first | rfl | exact absurd rfl hcall
      cases hplan : gate.pollPlan call with
      | answer result =>
        rw [pollAt_zero, (perform_push_poll_answer D hplan below).2, hheard]
      | windUp => exact absurd hplan (gate.pollPlan_ne_windUp hcall)
      | pass =>
        obtain ⟨hresult, hstate⟩ := perform_push_poll_pass D hplan below
        have hfailed' : ∀ value, ((D.stacked n).perform below call).result ≠ .ready (.ok value) := by
          intro value hvalue
          exact hfailed value (hresult.trans hvalue)
        have hlearnt : gate.learnPoll call ((D.stacked n).perform below call).result = gate := by
          rcases hr : ((D.stacked n).perform below call).result with _ | e | value
          · exact gate.learnPoll_pending call
          · exact gate.learnPoll_error call e
          · exact absurd hr (hfailed' value)
        have hbelow := ih below 0
        rw [pollAt_zero] at hbelow
        rw [pollAt_zero, hstate, hlearnt, gates_push, gates_push, hbelow hfailed']

/-- A poll that offers nothing changes nothing of what the gates let through. -/
theorem remaining_of_quiet (h : D.Honest out) {n : Nat} (s : Stack ω n) (entry : Nat) {call : PollCall}
    (hcall : call.Countable) (hquiet : call.offered = []) :
    (s.pollAt D entry call).state.gates.map (fun g => g.budget.remaining) = s.gates.map fun g => g.budget.remaining := by
  have hout : out (s.pollAt D entry call).state.base = out s.base := by
    rw [(pollAt_takes h s entry call).2, hquiet, List.take_nil, List.append_nil]
  refine List.ext_getElem? fun level => ?_
  have hlevel := sums_pollAt h s entry hcall level
  rw [List.getElem?_map, List.getElem?_map]
  split at hlevel
  · rw [sums, sums, hout, List.getElem?_map, List.getElem?_map] at hlevel
    have hinj : Function.Injective fun g : UInt64 => g.toNat + (out s.base).length := by
      intro a b heq
      exact UInt64.toNat_inj.1 (Nat.add_right_cancel heq)
    refine Option.map_injective hinj ?_
    rw [Option.map_map, Option.map_map]
    exact hlevel
  · rw [hlevel]

/-- **A refused write.** If some gate has no room for a write, the first such gate refuses it, the refusal comes out at
the top as it was made, and nothing changes. -/
theorem refused {n : Nat} (s : Stack ω n) (entry : Nat) {bytes : Bytes} (hbytes : bytes ≠ []) {g : Gate}
    (hfull : (s.gates.drop entry).find? (fun g => !g.hasRoom bytes.length) = some g) :
    (s.pollAt D entry (.write bytes)).result = .ready (.error g.refusal.toIo) ∧
      (s.pollAt D entry (.write bytes)).state = s := by
  induction n generalizing entry with
  | zero =>
    rw [show s.gates = [] from rfl, List.drop_nil] at hfull
    cases hfull
  | succ n ih =>
    obtain ⟨gate, below, rfl⟩ := s.exists_push
    cases entry with
    | succ entry =>
      obtain ⟨hresult, hstate⟩ := ih below entry hfull
      exact ⟨hresult, congrArg (push gate) hstate⟩
    | zero =>
      rw [pollAt_zero]
      rw [List.drop_zero, gates_push] at hfull
      cases hroom : gate.hasRoom bytes.length with
      | false =>
        rw [List.find?_cons_of_pos (by rw [hroom]; rfl)] at hfull
        cases hfull
        exact perform_push_poll_answer D (Gate.pollPlan_write_of_full hbytes hroom) below
      | true =>
        rw [List.find?_cons_of_neg (by rw [hroom]; exact Bool.false_ne_true)] at hfull
        obtain ⟨hresult, hstate⟩ := perform_push_poll_pass D (Gate.pollPlan_write_of_room hbytes hroom) below
        have hbelow := ih below 0 hfull
        rw [pollAt_zero] at hbelow
        rw [hresult, hstate, hbelow.1, hbelow.2, Gate.learnPoll_error]
        exact ⟨rfl, rfl⟩

end Poll

/-! ### Books -/

section Books

variable {ω : Type} (D : PolledDevice ω) (out : ω → Bytes)

/-- The book of the gate at a level after a move. -/
def bookAfter {n : Nat} (s : Stack ω n) (level : Nat) (b : Book) : PollMove → Book
  | .poll entry call =>
    if entry ≤ level then
      let after := (s.pollAt D entry call).state
      { b with accepted := b.accepted + ((out after.base).length - (out s.base).length) }
    else b
  | .renew entry length passesClose =>
    if entry = level ∧ (s.renew entry length passesClose).toBool = true then ⟨length, 0⟩ else b

/-- The book of the gate at a level after a number of moves. -/
def pollBook {n : Nat} (s : Stack ω n) (level : Nat) (b : Book) : List PollMove → Book
  | [] => b
  | m :: rest => pollBook (s.pollMove D m).state level (s.bookAfter D out level b m) rest

variable {D out}

theorem balanced_poll (h : D.Honest out) {n : Nat} {s : Stack ω n} {level : Nat} {b : Book} (hb : s.Balanced level b)
    (entry : Nat) {call : PollCall} (hcall : call.Countable) :
    (s.pollAt D entry call).state.Balanced level (s.bookAfter D out level b (.poll entry call)) := by
  obtain ⟨g, hg, hsum⟩ := hb
  have hlevel := sums_pollAt h s entry hcall level
  rw [bookAfter]
  split
  · next hle =>
    have hout := (pollAt_takes h s entry call).2
    rw [if_pos hle, sums, sums, List.getElem?_map, List.getElem?_map, hg, hout, List.length_append] at hlevel
    obtain ⟨g', hg', heq⟩ := Option.map_eq_some_iff.1 hlevel
    refine ⟨g', hg', ?_⟩
    dsimp only at heq ⊢
    rw [hout, List.length_append]
    omega
  · next hlt =>
    rw [if_neg hlt] at hlevel
    exact ⟨g, hlevel.trans hg, hsum⟩

theorem balanced_pollMove (h : D.Honest out) {n : Nat} {s : Stack ω n} {level : Nat} {b : Book}
    (hb : s.Balanced level b) {m : PollMove} (hm : m.Countable) :
    (s.pollMove D m).state.Balanced level (s.bookAfter D out level b m) := by
  cases m with
  | poll entry call => exact balanced_poll h hb entry hm
  | renew entry length passesClose =>
    simp only [bookAfter, pollMove]
    cases hr : s.renew entry length passesClose with
    | error e =>
      rw [if_neg]
      · exact hb
      · rintro ⟨-, hok⟩
        cases hok
    | ok s' =>
      simp only [Except.toBool, and_true]
      rcases renew_eq_ok_iff.1 hr with ⟨g, -, -, -, rfl⟩ | ⟨hnone, rfl⟩
      · exact balanced_setGate hb entry g length passesClose
      · rw [if_neg]
        · exact hb
        · rintro rfl
          obtain ⟨g, hg, -⟩ := hb
          rw [hnone] at hg
          cases hg

theorem balanced_pollRun (h : D.Honest out) {n : Nat} {s : Stack ω n} {level : Nat} {b : Book}
    (hb : s.Balanced level b) {moves : List PollMove} (hmoves : ∀ m ∈ moves, m.Countable) :
    (s.pollRun D moves).Balanced level (s.pollBook D out level b moves) := by
  induction moves generalizing s b with
  | nil => exact hb
  | cons m rest ih =>
    exact ih (balanced_pollMove h hb (hmoves m List.mem_cons_self)) fun m' hm' => hmoves m' (List.mem_cons_of_mem m hm')

/-- **Exact accounting over a polled device.** Take any run over a recorded honest base, from the start of a cycle of a
gate. The bytes that the base took in its present cycle, from polls that entered at the gate or above it, and the bytes
that it still lets through make up the length of that cycle.

A further poll that is no close, and is not done or fails, changes no gate; a close does not change what remains at
any. A write of at least one byte that some gate has no room for is refused by the first such gate. The base does not
hear of it, nothing else changes, and the refusal can be had back from the error. -/
theorem poll_accounting (h : D.HonestBase out) {n : Nat} {s : Stack (ω × List PollHeard) n} {level : Nat} {g : Gate}
    {length : UInt64} (hg : s.gates[level]? = some g) (hnew : g.budget = Budget.fresh length) {moves : List PollMove}
    (hmoves : ∀ m ∈ moves, m.Countable) :
    let now := s.pollRun D.recorded moves
    let book := s.pollBook D.recorded (fun b => out b.1) level ⟨length, 0⟩ moves
    now.Balanced level book ∧ book.accepted ≤ book.length.toNat ∧
      ∀ entry call,
        let reply := now.pollAt D.recorded entry call
        (call ≠ .close → (∀ value, reply.result ≠ .ready (.ok value)) → reply.state.gates = now.gates) ∧
          (call = .close →
            reply.state.gates.map (fun g => g.budget.remaining) = now.gates.map fun g => g.budget.remaining) ∧
          ∀ bytes g, call = .write bytes → bytes ≠ [] →
            (now.gates.drop entry).find? (fun g => !g.hasRoom bytes.length) = some g →
              reply.result = .ready (.error g.refusal.toIo) ∧ reply.state = now ∧
                SinkError.ofIo g.refusal.toIo = g.refusal := by
  intro now book
  have hhonest : D.recorded.Honest fun b => out b.1 := h.honest.recorded
  have hstart : s.Balanced level ⟨length, 0⟩ := ⟨g, hg, by rw [hnew]; exact Nat.zero_add _⟩
  have hbalanced : now.Balanced level book := balanced_pollRun hhonest hstart hmoves
  refine ⟨hbalanced, ?_, fun entry call => ⟨?_, ?_, ?_⟩⟩
  · obtain ⟨g', -, hsum⟩ := hbalanced
    omega
  · exact fun hcall hfailed => gates_of_failed now entry hcall hfailed
  · rintro rfl
    exact remaining_of_quiet hhonest now entry trivial rfl
  · rintro bytes g' rfl hbytes hfull
    obtain ⟨hresult, hstate⟩ := refused (D := D.recorded) now entry hbytes hfull
    exact ⟨hresult, hstate, g'.ofIo_refusal⟩

end Books

/-- A gate for three bytes over one for five over an empty tank that is recorded. -/
def unevenOverTank : Stack (Bytes × List PollHeard) 2 :=
  push (gateFor 3) (push (gateFor 5) (ofBase ([], [])))

/-- Two of three bytes are taken through both gates, and a byte through the inner gate only. -/
def intoPolledTank : List PollMove :=
  [.poll 0 (.write [1, 2, 3]), .poll 1 (.write [9])]

/-- Three bytes went through the inner gate. The outer gate has room for one more, and refuses two. -/
theorem poll_accounting_tank :
    polledTank.HonestBase id ∧ unevenOverTank.gates[1]? = some (gateFor 5) ∧ (∀ m ∈ intoPolledTank, m.Countable) ∧
      (unevenOverTank.pollRun polledTank.recorded intoPolledTank).base.1 = [1, 2, 9] ∧
      (unevenOverTank.pollRun polledTank.recorded intoPolledTank).Balanced 1 ⟨5, 3⟩ ∧
      ((unevenOverTank.pollRun polledTank.recorded intoPolledTank).pollAt polledTank.recorded 0 (.write [4, 5])).result =
        .ready (.error SinkError.overflow.toIo) := by
  have hmoves : ∀ m ∈ intoPolledTank, m.Countable := by
    intro m hm
    simp only [intoPolledTank, List.mem_cons, List.not_mem_nil, or_false] at hm
    rcases hm with rfl | rfl <;> trivial
  have hg : unevenOverTank.gates[1]? = some (gateFor 5) := rfl
  obtain ⟨hbalanced, -, hnext⟩ := poll_accounting polledTank_honest hg rfl hmoves
  obtain ⟨-, -, hwrite⟩ := hnext 0 (.write [4, 5])
  obtain ⟨hresult, -⟩ := hwrite [4, 5] _ rfl (List.cons_ne_nil 4 [5]) rfl
  exact ⟨polledTank_honest, hg, hmoves, rfl, hbalanced, hresult⟩

end Stack

end ExactLength
